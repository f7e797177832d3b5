import GeometrySource.Proofs.Declaration.FieldText
import GeometrySource.Proofs.Naming.Word
import GeometrySource.Proofs.Text.Reading

/-!
# Reading fields back

Every text that a list of fields is written in is read back as this list: the same fields in the same order, each with
the names and types that its place calls for. The names have to be words, and there has to be a field.
-/

namespace GeometrySource.Declaration

open Text

/-- A list of fields whose names are words that differ from all parameter spellings of the list. -/
structure WellNamed (list : List Field) : Prop where
  nonempty : list ≠ []
  words : ∀ f ∈ list, IsWord f.name
  renamed : ∀ f ∈ list, f.name ≠ f.parameter
  distinct : (list.map Field.parameter).Nodup

/-- The places of a format string and the formatted names behind it. -/
def readFormat (text : String) : Option (List (List String) × List (List String)) := do
  match ← readList "return String.Format(" ");" ',' some text with
  | [] => none
  | literal :: arguments =>
    let places ← inside (tokens "\"(") (tokens ")\"") literal
    return (← (cut ',' 0 places).mapM (readPattern "\x7b?\x7d"),
      ← arguments.mapM (readPattern "?.ToString(format, provider)"))

/-- What texts say that speak of a list of fields: the list, in its order, in every place. -/
structure FieldTexts.Describe (texts : FieldTexts) (ctx : Context) (list : List Field) : Prop where
  parameters : readList ("public " ++ ctx.name ++ "(") ")" ',' (readPattern "? ?") texts.constructorHead =
    some (list.map fun f => [f.type ctx, f.parameter])
  assignments : texts.assignments.mapM (readPattern "? = ?;" ∘ tokens) =
    some (list.map fun f => [f.name, f.parameter])
  casts : readList ("return new " ++ ctx.name ++ "(") ");" ',' (readPattern "(?)value.?") texts.conversion =
    some (list.map fun f => [f.type ctx, f.name])
  summands : readList "return " ";" '+' (readPattern "?.GetHashCode()") texts.hash =
    some (list.map fun f => [f.name])
  conjuncts : readList "return " ";" '&' (readPattern "left.? == right.?") texts.equal =
    some (list.map fun f => [f.name, f.name])
  disjuncts : readList "return " ";" '|' (readPattern "left.? != right.?") texts.notEqual =
    some (list.map fun f => [f.name, f.name])
  formatted : readFormat texts.formatted =
    some ((List.range list.length).map fun i => [i.repr], list.map fun f => [f.name])
  writes : texts.writes.mapM (readPattern "writer.Write(?.?);" ∘ tokens) =
    some (list.map fun f => [ctx.parameter, f.name])
  locals : texts.locals.mapM (readPattern "var ? = reader.?();" ∘ tokens) =
    some (list.map fun f => [f.parameter, f.readMethod ctx])
  arguments : readList ("return new " ++ ctx.name ++ "(") ");" ',' (readPattern "?") texts.result =
    some (list.map fun f => [f.parameter])

variable (ctx : Context) {list : List Field}

/-- The parameter spelling of every field is a word. -/
theorem WellNamed.isWord_parameter (h : WellNamed list) {f : Field} (hf : f ∈ list) : IsWord f.parameter :=
  isWord_parameterName (h.words f hf)

/-- The statement that returns a new value. -/
theorem returning_construct (type : String) (args : List String) :
    returning (construct type args) = "return new " ++ type ++ "(" ++ ", ".intercalate args ++ ");" := by
  simp [returning, construct, commaList, ← String.toList_inj]

/-- Behind the name of a type and a parenthesis no word goes on. -/
theorem endsApart_open (text : String) : EndsApart (text ++ "(") :=
  EndsApart.append text (by decide) (by decide)

/-- The parameters of the constructor are the fields, each with its type. -/
theorem read_constructorHead (h : WellNamed list) :
    readList ("public " ++ ctx.name ++ "(") ")" ',' (readPattern "? ?") (fieldTexts ctx list).constructorHead =
      some (list.map fun f => [f.type ctx, f.parameter]) := by
  refine readList_filled ", " "" [" ", ""] (fun f : Field => [(f.type ctx, " "), (f.parameter, "")]) ?_ h.nonempty
    (endsApart_open _) (by decide) (by decide) (by decide) (fun _ _ => rfl) ?_
  · simp [fieldTexts, parameterList, commaList, Parameter.text, Function.comp_def, filled, String.append_assoc]
  · intro f hf
    simp [f.isWord_type ctx, h.isWord_parameter hf]

/-- The constructor assigns every field from its parameter. -/
theorem read_assignments (h : WellNamed list) :
    (fieldTexts ctx list).assignments.mapM (readPattern "? = ?;" ∘ tokens) =
      some (list.map fun f => [f.name, f.parameter]) := by
  refine mapM_readPattern_filled "" [" = ", ";"] (fun f : Field => [(f.name, " = "), (f.parameter, ";")]) ?_ (by decide)
    (fun _ _ => rfl) ?_
  · simp [fieldTexts, filled, String.append_assoc]
  · intro f hf
    simp [h.words f hf, h.isWord_parameter hf]

/-- Every conversion casts the fields to their types. -/
theorem read_conversion (h : WellNamed list) :
    readList ("return new " ++ ctx.name ++ "(") ");" ',' (readPattern "(?)value.?") (fieldTexts ctx list).conversion =
      some (list.map fun f => [f.type ctx, f.name]) := by
  have hcast : ∀ f : Field, cast (f.type ctx) ("value." ++ f.name) =
      filled "(" [(f.type ctx, ")value."), (f.name, "")] := by
    intro f
    simp [cast, filled, ← String.toList_inj]
  refine readList_filled ", " "(" [")value.", ""] (fun f : Field => [(f.type ctx, ")value."), (f.name, "")]) ?_
    h.nonempty (endsApart_open _) (by decide) (by decide) (by decide) (fun _ _ => rfl) ?_
  · simp only [fieldTexts, returning_construct, hcast]
  · intro f hf
    simp [f.isWord_type ctx, h.words f hf]

/-- The hash is the sum over the fields. -/
theorem read_hash (h : WellNamed list) :
    readList "return " ";" '+' (readPattern "?.GetHashCode()") (fieldTexts ctx list).hash =
      some (list.map fun f => [f.name]) := by
  refine readList_filled " + " "" [".GetHashCode()"] (fun f : Field => [(f.name, ".GetHashCode()")]) ?_ h.nonempty
    (by decide) (by decide) (by decide) (by decide) (fun _ _ => rfl) ?_
  · simp [fieldTexts, returning, filled]
  · intro f hf
    simp [h.words f hf]

/-- Comparisons of the fields by one relation, joined by one operator. -/
theorem read_comparisons (h : WellNamed list) (relation joint : String) {mark : Char} (hjoint : Separates joint mark)
    (hfits : Fits mark ("left.? " ++ relation ++ " right.?") "left." [" " ++ relation ++ " right.", ""]) :
    readList "return " ";" mark (readPattern ("left.? " ++ relation ++ " right.?"))
        (returning (joint.intercalate (list.map (compareField relation)))) =
      some (list.map fun f => [f.name, f.name]) := by
  have hcompare : ∀ f : Field, compareField relation f =
      filled "left." [(f.name, " " ++ relation ++ " right."), (f.name, "")] := by
    intro f
    simp [compareField, filled, String.append_assoc]
  refine readList_filled joint "left." [" " ++ relation ++ " right.", ""]
    (fun f : Field => [(f.name, " " ++ relation ++ " right."), (f.name, "")]) ?_ h.nonempty (by decide) (by decide)
    hjoint hfits (fun _ _ => rfl) ?_
  · simp only [returning, funext hcompare]
  · intro f hf
    simp [h.words f hf]

/-- The places of a format string in the form of a list of texts. -/
def places (count : Nat) : List String :=
  (List.range count).map placeholder

/-- A place of a format string, by its number as a word. -/
theorem tokens_placeholder (i : Nat) : tokens (placeholder i) = [.mark '\x7b', .word i.repr, .mark '\x7d'] := by
  have hfilled : placeholder i = filled "\x7b" [(i.repr, "\x7d")] := by simp [placeholder, filled]
  have hopen : tokens "\x7b" = [.mark '\x7b'] := by decide
  have hclose : tokens "\x7d" = [.mark '\x7d'] := by decide
  rw [hfilled, tokens_filled (by decide : Apart "\x7b" ["\x7d"]) (by simp [isWord_repr])]
  simp [hopen, hclose]

/-- The format string as tokens: the places between parentheses. -/
theorem tokens_literal (count : Nat) :
    tokens ("\"(" ++ commaList (places count) ++ ")\"") =
      tokens "\"(" ++ ([.mark ','].intercalate ((places count).map tokens) ++ tokens ")\"") := by
  rw [tokens_append (.inr (by decide)), tokens_append (.inl (by decide)), commaList,
    tokens_intercalate _ (by decide) (by decide) (by decide), List.append_assoc]
  rfl

/-- A format string is one piece, for all the commas inside. -/
theorem uncut?_literal (count : Nat) :
    uncut? ',' 0 (tokens ("\"(" ++ commaList (places count) ++ ")\"")) = some 0 := by
  have hplaces : uncut? ',' 1 ([.mark ','].intercalate ((places count).map tokens)) = some 1 := by
    refine uncut?_intercalate rfl ?_
    simp only [places, List.map_map, List.mem_map]
    rintro _ ⟨i, -, rfl⟩
    rw [Function.comp_apply, tokens_placeholder]
    rfl
  have hopen : uncut? ',' 0 (tokens "\"(") = some 1 := by decide
  have hclose : uncut? ',' 1 (tokens ")\"") = some 0 := by decide
  rw [tokens_literal, uncut?_append, hopen, Option.bind_some, uncut?_append, hplaces, Option.bind_some, hclose]

/-- The places of a format string are read back. -/
theorem read_literal {count : Nat} (hcount : count ≠ 0) :
    ((inside (tokens "\"(") (tokens ")\"") (tokens ("\"(" ++ commaList (places count) ++ ")\""))).bind fun list =>
        (cut ',' 0 list).mapM (readPattern "\x7b?\x7d")) =
      some ((List.range count).map fun i => [i.repr]) := by
  have hcut : cut ',' 0 ([.mark ','].intercalate ((places count).map tokens)) = (places count).map tokens := by
    refine cut_intercalate (by simpa [places] using hcount) ?_
    simp only [places, List.map_map, List.mem_map]
    rintro _ ⟨i, -, rfl⟩
    rw [Function.comp_apply, tokens_placeholder]
    rfl
  rw [tokens_literal, inside_append, Option.bind_some, hcut, places, List.map_map]
  refine mapM_read ?_
  intro i _
  rw [Function.comp_apply, tokens_placeholder]
  rfl

/-- The statement that returns a formatted list, as a list of the format string and what is formatted. -/
theorem returning_format (literal arguments : String) :
    returning ("String.Format(\"(" ++ literal ++ ")\", " ++ arguments ++ ")") =
      "return String.Format(" ++ ("\"(" ++ literal ++ ")\"" ++ ", " ++ arguments) ++ ");" := by
  simp [returning, ← String.toList_inj]

/-- The format string has a place for every field, and behind it every field is formatted. -/
theorem read_formatted (h : WellNamed list) :
    readFormat (fieldTexts ctx list).formatted =
      some ((List.range list.length).map fun i => [i.repr], list.map fun f => [f.name]) := by
  let arguments := list.map fun f => f.name ++ ".ToString(format, provider)"
  have hfilled : ∀ f : Field, f.name ++ ".ToString(format, provider)" =
      filled "" [(f.name, ".ToString(format, provider)")] := fun f => by simp [filled]
  have hfits : Fits ',' "?.ToString(format, provider)" "" [".ToString(format, provider)"] := by decide
  have hwords : ∀ f ∈ list, ∀ gap ∈ [(f.name, ".ToString(format, provider)")], IsWord gap.1 := by
    intro f hf
    simp [h.words f hf]
  have hlength : list.length ≠ 0 := by simpa using h.nonempty
  have hsome : arguments ≠ [] := by simpa [arguments] using h.nonempty
  have htext : (fieldTexts ctx list).formatted =
      "return String.Format(" ++
        ", ".intercalate ((("\"(" ++ commaList (places list.length) ++ ")\"") :: arguments).map id) ++ ");" := by
    rw [List.map_id, String.intercalate_cons_of_ne_nil hsome]
    exact returning_format _ _
  have hlist : readList "return String.Format(" ");" ',' some (fieldTexts ctx list).formatted =
      some ((("\"(" ++ commaList (places list.length) ++ ")\"") :: arguments).map tokens) := by
    rw [htext]
    refine readList_write (List.cons_ne_nil _ _) (by decide) (by decide) (by decide) ?_ fun _ _ => rfl
    refine List.forall_mem_cons.mpr ⟨uncut?_literal list.length, ?_⟩
    simp only [arguments, List.mem_map]
    rintro _ ⟨f, hf, rfl⟩
    rw [id, hfilled]
    exact uncut?_filled hfits (hwords f hf)
  have harguments : (arguments.map tokens).mapM (readPattern "?.ToString(format, provider)") =
      some (list.map fun f => [f.name]) := by
    rw [List.map_map]
    refine mapM_read ?_
    intro f hf
    rw [Function.comp_apply, hfilled]
    exact readPattern_filled hfits (hwords f hf)
  obtain ⟨inner, hinside, hplaces⟩ := Option.bind_eq_some_iff.mp (read_literal hlength)
  rw [readFormat, hlist]
  simp only [List.map_cons, Option.bind_eq_bind, Option.bind_some, hinside, hplaces, harguments]
  rfl

/-- `Write` writes every field. -/
theorem read_writes (h : WellNamed list) :
    (fieldTexts ctx list).writes.mapM (readPattern "writer.Write(?.?);" ∘ tokens) =
      some (list.map fun f => [ctx.parameter, f.name]) := by
  refine mapM_readPattern_filled "writer.Write(" [".", ");"]
    (fun f : Field => [(ctx.parameter, "."), (f.name, ");")]) ?_ (by decide) (fun _ _ => rfl) ?_
  · simp [fieldTexts, fieldWrites, filled, String.append_assoc]
  · intro f hf
    simp [ctx.shape.isWord_parameter, Context.parameter, h.words f hf]

/-- `Read` reads a variable for every field. -/
theorem read_locals (h : WellNamed list) :
    (fieldTexts ctx list).locals.mapM (readPattern "var ? = reader.?();" ∘ tokens) =
      some (list.map fun f => [f.parameter, f.readMethod ctx]) := by
  refine mapM_readPattern_filled "var " [" = reader.", "();"]
    (fun f : Field => [(f.parameter, " = reader."), (f.readMethod ctx, "();")]) ?_ (by decide) (fun _ _ => rfl) ?_
  · simp [fieldTexts, filled, String.append_assoc]
  · intro f hf
    simp [f.isWord_readMethod ctx, h.isWord_parameter hf]

/-- `Read` makes the value of its variables. -/
theorem read_result (h : WellNamed list) :
    readList ("return new " ++ ctx.name ++ "(") ");" ',' (readPattern "?") (fieldTexts ctx list).result =
      some (list.map fun f => [f.parameter]) := by
  refine readList_filled ", " "" [""] (fun f : Field => [(f.parameter, "")]) ?_ h.nonempty (endsApart_open _)
    (by decide) (by decide) (by decide) (fun _ _ => rfl) ?_
  · simp [fieldTexts, returning_construct, filled]
  · intro f hf
    simp [h.isWord_parameter hf]

/-- The texts of a well named list of fields speak of this list in every place. -/
theorem describe_fieldTexts (h : WellNamed list) : (fieldTexts ctx list).Describe ctx list where
  parameters := read_constructorHead ctx h
  assignments := read_assignments ctx h
  casts := read_conversion ctx h
  summands := read_hash ctx h
  conjuncts := read_comparisons h "==" " & " (by decide) (by decide)
  disjuncts := read_comparisons h "!=" " | " (by decide) (by decide)
  formatted := read_formatted ctx h
  writes := read_writes ctx h
  locals := read_locals ctx h
  arguments := read_result ctx h

end GeometrySource.Declaration

import GeometrySource.Proofs.Declaration.FieldReading
import Mathlib.Data.List.Nodup

/-!
# Values through `Write`, `Read` and the constructor

The texts of a list of fields are carried out: `Write` puts the values of fields on a stream, `Read` takes values from
the stream into variables and hands them to the constructor, and the constructor assigns fields. Parameters hide fields
of the same name, and a variable that has no value stops everything. With well named fields every field gets its own
value back.
-/

namespace GeometrySource.Declaration

open Text

variable {V : Type}

/-- Values by name. -/
abbrev Store (V : Type) :=
  String → Option V

/-- Gives a name a value. -/
def Store.set (s : Store V) (name : String) (v : V) : Store V :=
  Function.update s name (some v)

/-- Takes a value from a stream for each of some names. -/
def receive (s : Store V) : List String → List V → Option (Store V × List V)
  | [], stream => some (s, stream)
  | _ :: _, [] => none
  | name :: names, v :: stream => receive (s.set name v) names stream

/-- What a constructor sees while it runs. -/
structure Construction (V : Type) where
  parameters : Store V
  fields : Store V

namespace Construction

/-- The value of a name: that of the parameter, if there is one, and else that of the field. -/
def value (c : Construction V) (name : String) : Option V :=
  (c.parameters name).or (c.fields name)

/-- Assigns the value of one name to another: to the parameter, if there is one, and else to the field. -/
def assign (c : Construction V) (target source : String) : Option (Construction V) :=
  (c.value source).map fun v =>
    if (c.parameters target).isSome then
      { c with parameters := c.parameters.set target v }
    else
      { c with fields := c.fields.set target v }

end Construction

/-- Carries out the statements of a constructor whose parameters have received arguments. -/
def construct? (parameters : List String) (arguments : List V) (assignments : List (String × String)) :
    Option (Store V) := do
  let (bound, _) ← receive (fun _ => none) parameters arguments
  let made ← assignments.foldlM (fun c a => c.assign a.1 a.2) (⟨bound, fun _ => none⟩ : Construction V)
  return made.fields

/-- Carries out the texts of a list of fields: writes a shape whose fields have the given values in front of the rest of
a stream, and reads a shape from there. What is left is the new shape and the stream behind it. -/
def FieldTexts.carryOut (texts : FieldTexts) (ctx : Context) (values : String → V) (rest : List V) :
    Option (Store V × List V) := do
  let writes ← texts.writes.mapM (readPattern "writer.Write(?.?);" ∘ tokens)
  let locals ← texts.locals.mapM (readPattern "var ? = reader.?();" ∘ tokens)
  let arguments ← readList ("return new " ++ ctx.name ++ "(") ");" ',' (readPattern "?") texts.result
  let parameters ← readList ("public " ++ ctx.name ++ "(") ")" ',' (readPattern "? ?") texts.constructorHead
  let assignments ← texts.assignments.mapM (readPattern "? = ?;" ∘ tokens)
  let stream := writes.map fun words => values (words.getD 1 "")
  let (bound, behind) ← receive (fun _ => none) (locals.map fun words => words.getD 0 "") (stream ++ rest)
  let handed ← arguments.mapM fun words => bound (words.getD 0 "")
  let made ← construct? (parameters.map fun words => words.getD 1 "") handed
    (assignments.map fun words => (words.getD 0 "", words.getD 1 ""))
  return (made, behind)

/-! ## Stores -/

/-- Gives every name of a list its value. -/
def Store.setAll (s : Store V) (list : List (String × V)) : Store V :=
  list.foldl (fun s entry => s.set entry.1 entry.2) s

/-- A name that is not in a list keeps its value. -/
theorem Store.setAll_of_not_mem (s : Store V) {list : List (String × V)} {name : String}
    (h : name ∉ list.map Prod.fst) : s.setAll list name = s name := by
  induction list generalizing s with
  | nil => rfl
  | cons entry rest ih =>
    obtain ⟨hne, hrest⟩ := not_or.mp (List.mem_cons.not.mp h)
    rw [setAll, List.foldl_cons]
    exact (ih _ hrest).trans (Function.update_of_ne hne _ _)

/-- A name of a list without repeats gets the value that the list has for it. -/
theorem Store.setAll_of_mem (s : Store V) {list : List (String × V)} (hdistinct : (list.map Prod.fst).Nodup)
    {name : String} {v : V} (h : (name, v) ∈ list) : s.setAll list name = some v := by
  induction list generalizing s with
  | nil => cases h
  | cons entry rest ih =>
    obtain ⟨hnot, hrest⟩ := List.nodup_cons.mp hdistinct
    rw [setAll, List.foldl_cons]
    rcases List.mem_cons.mp h with rfl | h
    · exact (setAll_of_not_mem _ hnot).trans (Function.update_self _ _ _)
    · exact ih _ hrest h

/-- As many names as values take all these values and leave the rest of the stream. -/
theorem receive_append (s : Store V) (list : List (String × V)) (rest : List V) :
    receive s (list.map Prod.fst) (list.map Prod.snd ++ rest) = some (s.setAll list, rest) := by
  induction list generalizing s with
  | nil => rfl
  | cons entry more ih => exact ih _

/-! ## Well named fields -/

/-- No field has the name of a parameter. -/
theorem WellNamed.ne_parameter {list : List Field} (h : WellNamed list) {f g : Field} (hf : f ∈ list) :
    f.name ≠ g.parameter := by
  intro heq
  refine h.renamed f hf ?_
  have hspelling : f.parameter = g.parameter := by
    rw [Field.parameter, heq, Field.parameter, parameterName_parameterName]
  rw [heq, hspelling]

/-- No two fields have one name. -/
theorem WellNamed.nodup_names {list : List Field} (h : WellNamed list) : (list.map Field.name).Nodup := by
  have hmap : list.map Field.parameter = (list.map Field.name).map parameterName := by
    rw [List.map_map]
    rfl
  exact List.Nodup.of_map parameterName (hmap ▸ h.distinct)

/-- The parameter spellings of well named fields take the fields' values, and no field's name is taken by them. -/
theorem WellNamed.receive {list : List Field} (h : WellNamed list) (values : String → V) (rest : List V) :
    ∃ bound, Declaration.receive (fun _ => none) (list.map Field.parameter)
        ((list.map fun f => values f.name) ++ rest) = some (bound, rest) ∧
      (∀ f ∈ list, bound f.parameter = some (values f.name)) ∧ ∀ f ∈ list, bound f.name = none := by
  let handed := list.map fun f => (f.parameter, values f.name)
  have hnames : handed.map Prod.fst = list.map Field.parameter := by simp [handed, Function.comp_def]
  have hvalues : handed.map Prod.snd = list.map fun f => values f.name := by simp [handed, Function.comp_def]
  refine ⟨Store.setAll (fun _ => none) handed, ?_, ?_, ?_⟩
  · rw [← hnames, ← hvalues]
    exact receive_append _ handed rest
  · intro f hf
    exact Store.setAll_of_mem _ (hnames ▸ h.distinct) (List.mem_map_of_mem hf)
  · intro f hf
    refine Store.setAll_of_not_mem _ ?_
    rw [hnames, List.mem_map]
    rintro ⟨g, -, heq⟩
    exact h.ne_parameter hf heq.symm

/-- Where every parameter has a value and no field has the name of a parameter, the fields are assigned one by one. -/
theorem foldlM_assign {bound : Store V} {values : String → V} {list : List Field}
    (hbound : ∀ f ∈ list, bound f.parameter = some (values f.name)) (hfree : ∀ f ∈ list, bound f.name = none)
    (fields : Store V) :
    (list.map fun f => (f.name, f.parameter)).foldlM (fun c a => c.assign a.1 a.2) (⟨bound, fields⟩ : Construction V) =
      some ⟨bound, fields.setAll (list.map fun f => (f.name, values f.name))⟩ := by
  induction list generalizing fields with
  | nil => rfl
  | cons f rest ih =>
    have hassign : (⟨bound, fields⟩ : Construction V).assign f.name f.parameter =
        some ⟨bound, fields.set f.name (values f.name)⟩ := by
      simp [Construction.assign, Construction.value, hbound f List.mem_cons_self, hfree f List.mem_cons_self]
    rw [List.map_cons, List.foldlM_cons, hassign]
    exact ih (fun g hg => hbound g (List.mem_cons_of_mem _ hg)) (fun g hg => hfree g (List.mem_cons_of_mem _ hg)) _

/-- The constructor gives every field the argument that stands in its place. -/
theorem construct?_fields {list : List Field} (h : WellNamed list) (values : String → V) :
    construct? (list.map Field.parameter) (list.map fun f => values f.name)
        (list.map fun f => (f.name, f.parameter)) =
      some (Store.setAll (fun _ => none) (list.map fun f => (f.name, values f.name))) := by
  obtain ⟨bound, hreceive, hbound, hfree⟩ := h.receive values []
  rw [List.append_nil] at hreceive
  simp only [construct?, hreceive, Option.bind_eq_bind, Option.bind_some, foldlM_assign hbound hfree]
  rfl

/-- The values of a shape with well named fields survive `Write`, `Read` and the constructor: every field of the new
shape has the value that it had, and the stream behind is untouched. -/
theorem carryOut_describe {ctx : Context} {list : List Field} (h : WellNamed list) {texts : FieldTexts}
    (htexts : texts.Describe ctx list) (values : String → V) (rest : List V) :
    ∃ made, texts.carryOut ctx values rest = some (made, rest) ∧ ∀ f ∈ list, made f.name = some (values f.name) := by
  obtain ⟨bound, hreceive, hbound, -⟩ := h.receive values rest
  have hhanded : (list.map fun f => [f.parameter]).mapM (fun words => bound (words.getD 0 "")) =
      some (list.map fun f => values f.name) := mapM_read hbound
  refine ⟨Store.setAll (fun _ => none) (list.map fun f => (f.name, values f.name)), ?_, ?_⟩
  · unfold FieldTexts.carryOut
    rw [htexts.writes, htexts.locals, htexts.arguments, htexts.parameters, htexts.assignments]
    simp only [Option.bind_eq_bind, Option.bind_some, List.map_map, Function.comp_def, List.getD_cons_zero,
      List.getD_cons_succ, hreceive, hhanded, construct?_fields h values]
    rfl
  · intro f hf
    refine Store.setAll_of_mem _ ?_ (List.mem_map_of_mem hf)
    rw [List.map_map]
    exact h.nodup_names

end GeometrySource.Declaration

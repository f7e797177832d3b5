import GeometrySource.Proofs.Declaration.FieldText
import GeometrySource.Proofs.Declaration.Neat
import GeometrySource.Proofs.Declaration.Ordinary

/-!
# Declarations are orderly

A script is orderly if it is spaced and landmarked. Every part that a declaration is made of is orderly and without
landmarks, except for the heads of the struct and of its static class and for the two binary functions, which have one
landmark each.
-/

namespace GeometrySource.Declaration

open Script Text

/-- A script with blank lines in their places, with given landmarks and with constructors for one type only. -/
structure Orderly (type : String) (marks : List String) (script : Script) : Prop where
  spaced : script.Spaced false
  landmarked : Landmarked type marks script

section Script

variable {type : String} {marks later : List String} {first second inner rest : Script}

/-! ## How orderly scripts are put together -/

@[simp]
theorem orderly_nil : Orderly type [] [] := ⟨rfl, rfl⟩

/-- Orderly scripts one after the other have the landmarks of both. -/
theorem Orderly.append (h : Orderly type marks first) (h' : Orderly type later second) :
    Orderly type (marks ++ later) (first ++ second) :=
  ⟨(spaced_append h.spaced).mpr h'.spaced, h.landmarked.append h'.landmarked⟩

/-- A script without landmarks behind an orderly one. -/
theorem Orderly.append_bare (h : Orderly type marks first) (h' : Orderly type [] second) :
    Orderly type marks (first ++ second) := by
  simpa using h.append h'

/-- Behind an orderly script without landmarks, what follows has to be orderly. -/
@[simp]
theorem orderly_append (h : Orderly type [] first) :
    Orderly type marks (first ++ second) ↔ Orderly type marks second :=
  ⟨fun hwhole => ⟨(spaced_append h.spaced).mp hwhole.spaced, (landmarked_append h.landmarked).mp hwhole.landmarked⟩,
    h.append⟩

/-- A neat line in front is of no account. -/
theorem orderly_neat_cons {text : String} (h : Neat text) :
    Orderly type marks (.line text :: rest) ↔ Orderly type marks rest := by
  have hlandmarked := @landmarked_line_cons type marks text rest h.unmarked h.unconstructed h.unannounced
  refine ⟨fun hwhole => ⟨hwhole.spaced.2.2, hlandmarked.mp hwhole.landmarked⟩, fun hrest => ⟨?_, ?_⟩⟩
  · exact ⟨h.trim, h.inner, hrest.spaced⟩
  · exact hlandmarked.mpr hrest.landmarked

@[simp]
theorem orderly_line_cons {text : String} (h : Calm text) (hend : Ends isPlainEnd text) :
    Orderly type marks (.line text :: rest) ↔ Orderly type marks rest :=
  orderly_neat_cons (neat_of_calm h hend)

/-- A landmark in front is the first of all. -/
theorem Orderly.cons_landmark {text : String} (h : Orderly type marks rest) (hunindent : unindent text = text)
    (hsound : Sound text) (hmark : IsLandmark text) : Orderly type (text :: marks) (.line text :: rest) := by
  refine ⟨⟨hsound.trim, hsound.inner, h.spaced⟩, ⟨fun w hw hstart => absurd hstart (hsound.unconstructed w hw),
    fun hstart => absurd hstart hsound.unannounced⟩, ?_⟩
  rw [hunindent, if_pos hmark]
  exact ⟨marks, rfl, h.landmarked⟩

/-- A neat line that closes nothing may stand behind `separate`. -/
theorem orderly_separate_cons {text : String} (h : Neat text) (hclosing : ¬IsClosing text) :
    Orderly type marks (.separate :: .line text :: rest) ↔ Orderly type marks rest := by
  refine Iff.trans ⟨fun hwhole => ?_, fun hrest => ?_⟩ (orderly_neat_cons h)
  · exact ⟨⟨h.trim, h.inner, hwhole.spaced.2.2.2⟩, hwhole.landmarked⟩
  · exact ⟨⟨rfl, h.trim, hclosing, hrest.spaced.2.2⟩, hrest.landmarked⟩

/-- Neat lines are orderly. -/
theorem orderly_lines {texts : List String} (h : ∀ text ∈ texts, Neat text) : Orderly type [] (lines texts) := by
  induction texts with
  | nil => exact orderly_nil
  | cons text rest ih =>
    obtain ⟨htext, hrest⟩ := List.forall_mem_cons.mp h
    exact (orderly_neat_cons htext).mpr (ih hrest)

/-- Orderly scripts for the entries of a list are orderly one after another. -/
theorem orderly_flatMap {α : Type} {list : List α} {f : α → Script} (h : ∀ x ∈ list, Orderly type [] (f x)) :
    Orderly type [] (list.flatMap f) := by
  induction list with
  | nil => exact orderly_nil
  | cons x rest ih =>
    obtain ⟨hx, hrest⟩ := List.forall_mem_cons.mp h
    rw [List.flatMap_cons, orderly_append hx]
    exact ih hrest

/-- A block around an orderly script is orderly. -/
theorem Orderly.block (h : Orderly type marks inner) : Orderly type marks (block inner) := by
  have hclose : Orderly type [] [.pop, .line "\x7d"] := by
    have hbrace : Orderly type [] [.line "\x7d"] := by simp +decide
    exact ⟨hbrace.spaced, hbrace.landmarked⟩
  have hinner := h.append_bare hclose
  rw [block_eq, orderly_neat_cons neat_brace]
  exact ⟨hinner.spaced, hinner.landmarked⟩

@[simp]
theorem orderly_block (h : Orderly type [] inner) : Orderly type [] (block inner) :=
  h.block

/-- A block of neat statements is orderly. -/
@[simp]
theorem orderly_body {statements : List String} (h : ∀ statement ∈ statements, Neat statement) :
    Orderly type [] (body statements) :=
  orderly_block (orderly_lines h)

/-- A region around an orderly script is orderly. -/
theorem Orderly.region {name : String} (h : Orderly type marks inner) (hname : Ends isPlainEnd name) :
    Orderly type marks (region name inner) := by
  have hdiverge : ∀ start, Diverge "#region " start → Diverge ("#region " ++ name) start := fun start hstart =>
    diverge_append hstart name
  have htrim : Trim ("#region " ++ name) := trim_of_ends (ends_append.mpr (.inl hname))
  have hclosing : ¬IsClosing ("#region " ++ name) :=
    not_isClosing_of_diverge (hdiverge _ (by decide)) (hdiverge _ (by decide)) (hdiverge _ (by decide))
  have hend : Orderly type [] [.line "#endregion"] := by simp +decide
  have hinner := h.append_bare hend
  rw [Script.region, openRegion, List.append_assoc, List.cons_append, List.singleton_append, closeRegion]
  refine ⟨⟨rfl, htrim, hclosing, hinner.spaced⟩, ?_⟩
  rw [Landmarked, landmarked_cons_of_diverge (hdiverge _ (by decide)) (hdiverge _ (by decide)) (hdiverge _ (by decide))]
  exact hinner.landmarked

@[simp]
theorem orderly_region {name : String} (hname : Ends isPlainEnd name) (h : Orderly type [] inner) :
    Orderly type [] (Script.region name inner) :=
  h.region hname

/-- The lines of a statement with a block under it, written by hand, are neat if its header and the statements are. -/
@[simp]
theorem neat_braced {header : String} {statements : List String} :
    (∀ line ∈ braced header statements, Neat line) ↔ Neat header ∧ ∀ statement ∈ statements, Neat statement := by
  have hclose : Neat "\x7d" := neat_of_calm (by decide) (by decide)
  simp [braced, or_imp, forall_and, neat_brace, hclose]

end Script

variable (ctx : Context)

/-! ## Doc comments and single lines -/

/-- A text that may stand as the description of anything but a constructor. -/
structure IsDescription (text : String) : Prop where
  opening : Diverge text "Initializes a new instance"
  ending : Ends isPlainEnd text

/-- Whether a character is not the first in the description of a constructor. -/
def isOtherStart (c : Char) : Bool :=
  c ≠ 'I'

@[simp]
theorem isDescription_of_begins {text : String} (h : Begins isOtherStart text) (hend : Ends isPlainEnd text) :
    IsDescription text :=
  ⟨diverge_of_begins h (by decide), hend⟩

/-- A text that is written down is a description if its first and its last character say so. -/
theorem isDescription_ofList {cs : List Char}
    (h : cs.head?.any isOtherStart = true ∧ cs.getLast?.any isPlainEnd = true) : IsDescription (String.ofList cs) := by
  refine isDescription_of_begins ?_ ?_
  · rw [Begins, String.toList_ofList]
    exact h.1
  · rw [Ends, String.toList_ofList]
    exact h.2

/-- A description is orderly as a doc comment. -/
@[simp]
theorem orderly_summary {type text : String} (h : IsDescription text) : Orderly type [] (summary text) := by
  have hopening : announcement = "/// " ++ "Initializes a new instance" := rfl
  have hline : Neat ("/// " ++ text) := by
    refine neat_of_calm_of_trim ?_ (trim_of_ends (ends_append.mpr (.inl h.ending)))
    simp only [tellingOpenings, List.forall_mem_cons, hopening, diverge_append_append]
    exact ⟨diverge_append (by decide) _, diverge_append (by decide) _, h.opening, diverge_append (by decide) _, by simp⟩
  simp +decide [summary, orderly_neat_cons hline]

@[simp]
theorem orderly_summary_append {type text : String} {marks : List String} {rest : Script} (h : IsDescription text) :
    Orderly type marks (summary text ++ rest) ↔ Orderly type marks rest :=
  orderly_append (orderly_summary h)

@[simp]
theorem orderly_param (type name text : String) : Orderly type [] (param name text) := by
  simp +decide [param, String.append_assoc]

@[simp]
theorem orderly_returns (type text : String) : Orderly type [] (returns text) := by
  simp +decide [returns, String.append_assoc]

@[simp]
theorem orderly_clsMarkerIf (type : String) (marked : Bool) : Orderly type [] (clsMarkerIf marked) := by
  cases marked <;> simp +decide [clsMarkerIf]

@[simp]
theorem neat_returning (expression : String) : Neat (returning expression) := by
  simp +decide [returning, String.append_assoc]

/-- A head and a block of statements are orderly if all of them are neat. -/
theorem orderly_method {type head : String} {statements : List String} (hhead : Neat head)
    (h : ∀ statement ∈ statements, Neat statement) : Orderly type [] (method head statements) := by
  rw [method, orderly_neat_cons hhead]
  exact orderly_body h

/-! ## Types in heads -/

/-- A text that may stand as a type in the head of a static member. -/
structure IsType (text : String) : Prop where
  bare : '(' ∉ text.toList
  noClass : Diverge text "partial class "
  noThis : Diverge text "this "

/-- A word has no parenthesis in it. -/
theorem parenthesis_not_mem_of_isWord {word : String} (h : IsWord word) : '(' ∉ word.toList :=
  fun hmem => absurd (h.2 _ hmem) (by decide)

/-- The name of a type begins with a capital letter. -/
theorem begins_typeName (f : TypeFamily) (n : Numeric) (dimension : Nat) : Begins Char.isUpper (typeName f n dimension) := by
  have hall : ∀ f ∈ TypeFamily.all, f.start.head?.any Char.isUpper = true := by decide
  have htaken := congrArg List.head? (take_typeName f n dimension)
  rw [List.head?_take, if_neg (by decide)] at htaken
  rw [Begins, htaken]
  exact hall f f.mem_all

@[simp]
theorem isType_typeName (f : TypeFamily) (n : Numeric) (dimension : Nat) : IsType (typeName f n dimension) where
  bare := parenthesis_not_mem_of_isWord (isWord_typeName f n dimension)
  noClass := diverge_of_begins (begins_typeName f n dimension) (by decide)
  noThis := diverge_of_begins (begins_typeName f n dimension) (by decide)

@[simp]
theorem isType_keyword (n : Numeric) : IsType n.keyword := by
  have hall : ∀ n ∈ Numeric.all, Diverge n.keyword "partial class " ∧ Diverge n.keyword "this " := by decide
  exact ⟨parenthesis_not_mem_of_isWord n.isWord_keyword, (hall n n.mem_all).1, (hall n n.mem_all).2⟩

theorem isType_bool : IsType "bool" := ⟨by decide, by decide, by decide⟩

/-- The head of a member of such a type is calm. -/
theorem calm_typeName (f : TypeFamily) (n : Numeric) (dimension : Nat) :
    Calm (publicOpening ++ typeName f n dimension ++ " ") := by
  have hne : ∀ {word : String}, Begins (fun c => !c.isUpper) word → typeName f n dimension ≠ word := fun hword heq =>
    (diverge_of_begins (begins_typeName f n dimension) hword).1 (heq ▸ List.prefix_rfl)
  exact calm_of_word (isWord_typeName f n dimension) (hne (by decide)) (hne (by decide))

theorem calm_keyword (n : Numeric) : Calm (publicOpening ++ n.keyword ++ " ") := by
  have hall : ∀ n ∈ Numeric.all, n.keyword ≠ "static" ∧ n.keyword ≠ "struct" := by decide
  exact calm_of_word n.isWord_keyword (hall n n.mem_all).1 (hall n n.mem_all).2

/-- A list begins with its first text. -/
theorem startsWith_commaList (first : String) (rest : List String) : StartsWith first (commaList (first :: rest)) := by
  rw [commaList]
  cases rest with
  | nil => exact List.prefix_rfl
  | cons second more =>
    rw [String.intercalate_cons_cons, String.append_assoc]
    exact startsWith_append _ _

/-- A list of texts that do not begin with `this` does not. -/
theorem diverge_commaList {texts : List String} {behind : String} (h : ∀ text ∈ texts, Diverge text "this ")
    (hbehind : Diverge behind "this ") : Diverge (commaList texts ++ behind) "this " := by
  cases texts with
  | nil =>
    have hempty : commaList [] ++ behind = behind := String.empty_append
    rw [hempty]
    exact hbehind
  | cons first rest =>
    exact diverge_append ((h first List.mem_cons_self).of_startsWith (startsWith_commaList first rest)) _

/-- The head of a static member with a parameter list is neat. -/
theorem neat_static_parameters {front : String} {parameters : List Parameter} (hfront : '(' ∉ front.toList)
    (hclass : Diverge front "partial class ") (h : ∀ p ∈ parameters, IsType p.type) :
    Neat (staticOpening ++ front ++ parameterList parameters) := by
  have htexts : ∀ text ∈ parameters.map Parameter.text, Diverge text "this " := by
    intro text hmem
    obtain ⟨p, hp, rfl⟩ := List.mem_map.mp hmem
    exact diverge_append (diverge_append (h p hp).noThis _) _
  refine neat_static front (commaList (parameters.map Parameter.text) ++ ")") ?_ hfront hclass
    (diverge_commaList htexts (by decide)) (by simp +decide)
  rw [parameterList, String.append_assoc, String.append_assoc, String.append_assoc, String.append_assoc]

/-! ## Fields, constants and properties -/

/-- A field whose name is a calm beginning and which has a description. -/
structure Field.Described (f : Field) : Prop where
  name : Calm f.name
  doc : IsDescription f.doc

/-- The fields of a struct are orderly. -/
theorem orderly_fields {type : String} {list : List Field} (h : ∀ f ∈ list, f.Described) :
    Orderly type [] (fields ctx list) := by
  refine orderly_region (by decide) (orderly_flatMap fun f hf => ?_)
  simp +decide [Field.declaration, String.append_assoc, (h f hf).doc]

/-- A constant is orderly. -/
theorem orderly_constant {type name doc : String} {args : List String} (hname : '(' ∉ name.toList)
    (hdoc : IsDescription doc) (hargs : ∀ arg ∈ args, Diverge arg "this ") :
    Orderly type [] (constant ctx name doc args) := by
  have hfront : '(' ∉ ("readonly " ++ ctx.name ++ " " ++ name ++ " = new " ++ ctx.name).toList := by
    simp [parenthesis_not_mem_of_isWord ctx.isWord_name, hname]
  have hline : Neat ("public static readonly " ++ ctx.name ++ " " ++ name ++ " = " ++ construct ctx.name args ++ ";") := by
    refine neat_static _ (commaList args ++ ");") ?_ hfront (by simp +decide [String.append_assoc])
      (diverge_commaList hargs (by decide)) (by simp +decide)
    simp [construct, staticOpening, ← String.toList_inj]
  simp [constant, hdoc, orderly_neat_cons hline]

/-- A property is orderly. -/
theorem orderly_property {owner type name doc : String} (htype : Calm (publicOpening ++ type ++ " "))
    (hname : Ends isPlainEnd name) (hdoc : IsDescription doc) (expression : String) :
    Orderly owner [] (property type name doc expression) := by
  have hline : Neat ("public " ++ type ++ " " ++ name) :=
    neat_of_calm (calm_append htype name) (ends_append.mpr (.inl hname))
  have hget : Orderly owner [] (.line "get" :: body [returning expression]) := by simp +decide
  simp [property, hdoc, orderly_neat_cons hline, hget]

/-! ## Constructors -/

/-- Whether a script consists of comments. -/
def IsComment (script : Script) : Prop :=
  ∀ step ∈ script, ∃ text, step = .line text ∧ StartsWith "///" (unindent text)

theorem isComment_param (name text : String) : IsComment (param name text) := by
  intro step hmem
  rw [param, List.mem_singleton] at hmem
  refine ⟨_, hmem, ?_⟩
  rw [unindent_of_diverge (by simp +decide [String.append_assoc]), String.append_assoc, String.append_assoc,
    String.append_assoc]
  exact (show StartsWith "///" "/// <param name=\"" by decide).append _

/-- The descriptions of parameters are comments. -/
theorem isComment_params {α : Type} (list : List α) (name doc : α → String) :
    IsComment (list.flatMap fun x => param (name x) (doc x)) := by
  intro step hmem
  obtain ⟨x, -, hx⟩ := List.mem_flatMap.mp hmem
  exact isComment_param _ _ step hx

/-- Comments in front of the head of a constructor do not hide it. -/
theorem Introduces.of_comments {type : String} {docs rest : Script} (hdocs : IsComment docs)
    (h : Introduces type rest) : Introduces type (docs ++ rest) := by
  induction docs with
  | nil => exact h
  | cons step more ih =>
    obtain ⟨hstep, hmore⟩ := List.forall_mem_cons.mp hdocs
    obtain ⟨text, rfl, hcomment⟩ := hstep
    exact .inr ⟨hcomment, ih hmore⟩

/-- The head of a constructor of a type is no landmark, and the head of a constructor of this type only. -/
theorem of_constructorOpening {type head : String} (htype : IsWord type) (h : StartsWith (constructorOpening type) head) :
    ¬IsLandmark head ∧ ∀ w, IsWord w → StartsWith (constructorOpening w) head → w = type := by
  have hdiverge : ∀ (word mark : String) (d : Char), IsWord word → mark.toList = [d] → isWordChar d = false →
      (type = word → '(' ≠ d) → ¬StartsWith (publicOpening ++ word ++ mark) head := by
    intro word mark d hword hmark hd hne
    have hpair : Diverge (constructorOpening type) (publicOpening ++ word ++ mark) := by
      rw [constructorOpening, publicOpening, String.append_assoc, String.append_assoc]
      exact (diverge_append_append _).mpr (diverge_words htype hword rfl hmark (by decide) hd hne)
    exact hpair.not_startsWith_of_startsWith h
  have hstatic : ¬StartsWith (publicOpening ++ "static" ++ " ") head :=
    hdiverge "static" " " ' ' (by decide) rfl (by decide) fun _ => by decide
  have hstruct : ¬StartsWith (publicOpening ++ "struct" ++ " ") head :=
    hdiverge "struct" " " ' ' (by decide) rfl (by decide) fun _ => by decide
  refine ⟨?_, fun w hw hother => ?_⟩
  · rintro (hline | hline | ⟨hline, -⟩)
    · exact hstruct hline
    · exact hstatic (StartsWith.trans (by decide) hline)
    · exact hstatic hline
  · by_contra hne
    exact hdiverge w "(" '(' hw rfl (by decide) (fun heq => absurd heq.symm hne) hother

/-- The head of a constructor is orderly in the declaration of its type. -/
theorem orderly_constructorHead_cons {type head : String} {rest : Script} (htype : IsWord type)
    (hhead : StartsWith (constructorOpening type) head) (hend : Ends isPlainEnd head) (hrest : Orderly type [] rest) :
    unindent head = head ∧ Orderly type [] (.line head :: rest) := by
  obtain ⟨hunindent, hregion, hannounced⟩ := of_publicOpening hhead.of_append.of_append
  obtain ⟨hmark, hconstructed⟩ := of_constructorOpening htype hhead
  refine ⟨hunindent, ⟨trim_of_ends hend, hregion, hrest.spaced⟩, ⟨?_, fun hstart => ?_⟩, ?_⟩
  · rw [hunindent]
    exact hconstructed
  · rw [hunindent] at hstart
    exact absurd hstart hannounced
  · rw [hunindent, if_neg hmark]
    exact hrest.landmarked

/-- The doc comment of a constructor is orderly in front of its head. -/
theorem orderly_constructorSummary {rest : Script} (hintroduces : Introduces ctx.name rest)
    (hrest : Orderly ctx.name [] rest) : Orderly ctx.name [] (constructorSummary ctx ++ rest) := by
  let text := "/// " ++ ("Initializes a new instance of the " ++ see ctx.name ++ " struct.")
  have hdiverge : ∀ start, Diverge "/// " start → Diverge text start := fun start hstart => diverge_append hstart _
  have hunindent : unindent text = text := unindent_of_diverge (hdiverge "\t" (by decide))
  have htrim : Trim text := trim_of_ends (by simp +decide [text])
  have hregion := not_isRegionHead_of_diverge (hdiverge "\t" (by decide)) (hdiverge _ (by decide))
  have hclose : Orderly ctx.name [] (.line "/// </summary>" :: rest) := by simpa +decide using hrest
  -- The line announces a constructor, so it is not neat; in return one has to follow.
  have htext : Orderly ctx.name [] (.line text :: .line "/// </summary>" :: rest) := by
    refine ⟨⟨htrim, hregion, hclose.spaced⟩, ⟨fun w _ hstart => ?_, fun _ => .inr ⟨by decide, hintroduces⟩⟩, ?_⟩
    · rw [hunindent] at hstart
      exact absurd hstart (not_startsWith_constructorOpening_of_diverge (hdiverge _ (by decide)) w)
    · rw [hunindent, if_neg (not_isLandmark_of_diverge (hdiverge _ (by decide)))]
      exact hclose.landmarked
  rw [constructorSummary, summary, List.cons_append, orderly_line_cons (by decide) (by decide)]
  exact htext

/-- A constructor behind its doc comment is orderly. -/
theorem orderly_constructor {docs rest : Script} {head : String} (hdocs : IsComment docs)
    (horderly : Orderly ctx.name [] docs) (hhead : StartsWith (constructorOpening ctx.name) head)
    (hend : Ends isPlainEnd head) (hrest : Orderly ctx.name [] rest) :
    Orderly ctx.name [] (constructorSummary ctx ++ (docs ++ .line head :: rest)) := by
  obtain ⟨hunindent, hline⟩ := orderly_constructorHead_cons ctx.isWord_name hhead hend hrest
  refine orderly_constructorSummary ctx (.of_comments hdocs (.inl ?_)) ((orderly_append horderly).mpr hline)
  rw [hunindent]
  exact hhead

/-- The head of a constructor with a parameter list, and how it ends. -/
theorem constructorHead_parameters (type : String) (parameters : List Parameter) :
    StartsWith (constructorOpening type) ("public " ++ type ++ parameterList parameters) ∧
      Ends isPlainEnd ("public " ++ type ++ parameterList parameters) := by
  have hline : "public " ++ type ++ parameterList parameters =
      constructorOpening type ++ (commaList (parameters.map Parameter.text) ++ ")") := by
    simp only [parameterList, constructorOpening, String.append_assoc]
  refine ⟨?_, by simp +decide [parameterList]⟩
  rw [hline]
  exact startsWith_append _ _

/-- The constructor of described fields is orderly. -/
theorem orderly_fieldConstructor {list : List Field} {requires : List String} (h : ∀ f ∈ list, f.Described) :
    Orderly ctx.name [] (fieldConstructor ctx list requires) := by
  have hstatements : ∀ statement ∈ (requires.map fun condition => "Contract.Requires(" ++ condition ++ ");") ++
      list.map fun f => f.name ++ " = " ++ f.parameter ++ ";", Neat statement := by
    intro statement hmem
    rcases List.mem_append.mp hmem with hrequire | hassign
    · obtain ⟨condition, -, rfl⟩ := List.mem_map.mp hrequire
      simp +decide [String.append_assoc]
    · obtain ⟨f, hf, rfl⟩ := List.mem_map.mp hassign
      simp +decide [String.append_assoc, (h f hf).name]
  obtain ⟨hhead, hend⟩ := constructorHead_parameters ctx.name (list.map fun f => ⟨f.type ctx, f.parameter⟩)
  rw [fieldConstructor, List.append_assoc, List.append_assoc, List.singleton_append]
  exact orderly_constructor ctx (isComment_params list Field.parameter Field.doc)
    (orderly_flatMap fun f _ => orderly_param _ _ _) hhead hend (orderly_body hstatements)

/-- A constructor that passes arguments on is orderly, its initializer being one tab further in. -/
@[simp]
theorem orderly_chainedConstructor (parameters : List DescribedParameter) (args : List String) :
    Orderly ctx.name [] (chainedConstructor ctx parameters args) := by
  have hline : "\t: this(" ++ commaList args ++ ")" = "\t" ++ (": this(" ++ commaList args ++ ")") := by
    simp [← String.toList_inj]
  have hinitializer : Neat ("\t: this(" ++ commaList args ++ ")") := by
    rw [hline, neat_tab_append]
    simp +decide [String.append_assoc]
  have hrest : Orderly ctx.name [] [.line ("\t: this(" ++ commaList args ++ ")"), .line "\x7b", .line "\x7d"] := by
    rw [orderly_neat_cons hinitializer, orderly_neat_cons neat_brace]
    simp +decide
  obtain ⟨hhead, hend⟩ := constructorHead_parameters ctx.name (parameters.map DescribedParameter.toParameter)
  rw [chainedConstructor, List.append_assoc]
  exact orderly_constructor ctx (isComment_params parameters (fun p => p.name) DescribedParameter.doc)
    (orderly_flatMap fun p _ => orderly_param _ _ _) hhead hend hrest

/-! ## Operators and functions -/

/-- An operator is orderly. -/
theorem orderly_operator {type doc result symbol : String} {parameters : List Parameter}
    (hdoc : IsDescription doc) (hresult : IsType result)
    (hsymbol : '(' ∉ symbol.toList) (hparameters : ∀ p ∈ parameters, IsType p.type) (expression : String) :
    Orderly type [] (operator doc result symbol parameters expression) := by
  have hfront : '(' ∉ (result ++ " operator " ++ symbol).toList := by simp [hresult.bare, hsymbol]
  have hhead : Neat ("public static " ++ result ++ " operator " ++ symbol ++ parameterList parameters) := by
    have hneat := neat_static_parameters hfront (diverge_append (diverge_append hresult.noClass _) _) hparameters
    simpa only [staticOpening, String.append_assoc] using hneat
  simp [operator, hdoc, orderly_neat_cons hhead]

/-- A function is orderly. -/
theorem orderly_function {type doc result name : String} {parameters : List Parameter} {statements : List String}
    (hdoc : IsDescription doc) (hresult : IsType result)
    (hname : '(' ∉ name.toList) (hparameters : ∀ p ∈ parameters, IsType p.type)
    (hstatements : ∀ statement ∈ statements, Neat statement) :
    Orderly type [] (function doc result name parameters statements) := by
  have hfront : '(' ∉ (result ++ " " ++ name).toList := by simp [hresult.bare, hname]
  have hhead : Neat ("public static " ++ result ++ " " ++ name ++ parameterList parameters) := by
    have hneat := neat_static_parameters hfront (diverge_append (diverge_append hresult.noClass _) _) hparameters
    simpa only [staticOpening, String.append_assoc] using hneat
  simp [function, hdoc, orderly_neat_cons hhead, orderly_body hstatements]

@[simp]
theorem isType_name : IsType ctx.name := isType_typeName _ _ _

@[simp]
theorem isType_point : IsType ctx.point := isType_typeName _ _ _

@[simp]
theorem isType_vector : IsType ctx.vector := isType_typeName _ _ _

/-- The operators that move a shape are orderly. -/
@[simp]
theorem orderly_displacements (type : String) (build : String → String) : Orderly type [] (displacements ctx build) := by
  refine orderly_flatMap fun t _ => ?_
  have hsymbol : '(' ∉ t.symbol.toList := by cases t <;> decide
  exact orderly_operator (by simp +decide [String.append_assoc]) (isType_name ctx) hsymbol (by simp) _

/-! ## Conversions -/

/-- A conversion is orderly. -/
theorem orderly_conversion {type sourceName : String} (h : IsType sourceName) (source : Numeric) (args : List String) :
    Orderly type [] (conversion ctx source sourceName args) := by
  have hkeyword : IsType (ctx.conversionKind source).keyword := by
    cases ctx.conversionKind source <;> exact ⟨by decide, by decide, by decide⟩
  let front := (ctx.conversionKind source).keyword ++ " operator " ++ ctx.name
  have hfront : '(' ∉ front.toList := by simp [front, hkeyword.bare, (isType_name ctx).bare]
  have hclass : Diverge front "partial class " := diverge_append (diverge_append hkeyword.noClass _) _
  have hline : operatorLine ctx source sourceName = staticOpening ++ front ++ "(" ++ (sourceName ++ " value)") := by
    unfold operatorLine conversionLine staticOpening
    simp [front, ← String.toList_inj]
  have hhead : Neat (operatorLine ctx source sourceName) :=
    neat_static front (sourceName ++ " value)") hline hfront hclass (diverge_append h.noThis _) (by simp +decide)
  have hcomment : Orderly type [] (conversionComment ctx source sourceName) := by
    simp +decide [conversionComment, String.append_assoc]
  simp [conversion_eq, hcomment, orderly_neat_cons hhead]

@[simp]
theorem orderly_conversionsBy (type : String) (args : List String) : Orderly type [] (conversionsBy ctx args) :=
  orderly_flatMap fun _ _ => orderly_conversion ctx (isType_typeName _ _ _) _ _

@[simp]
theorem orderly_conversions (type : String) (list : List Field) : Orderly type [] (conversions ctx list) :=
  orderly_conversionsBy ctx type _

/-! ## Equality and string conversion -/

theorem isType_operands : ∀ p ∈ operands ctx, IsType p.type := by
  simp [operands]

@[simp]
theorem orderly_equalDoc (type : String) : Orderly type [] equalDoc := by
  simp +decide [equalDoc]

@[simp]
theorem orderly_notEqualDoc (type : String) : Orderly type [] notEqualDoc := by
  simp +decide [notEqualDoc]

/-- The two `Equals` methods are orderly. -/
@[simp]
theorem orderly_equalsMethods (type : String) : Orderly type [] (equalsMethods ctx) := by
  have hindicates : IsDescription "Indicates whether this instance and a specified object are equal." :=
    ⟨by decide, by decide⟩
  have hblock : Orderly type [] (block (.line ("if (obj is " ++ ctx.name ++ ")") ::
      (body [returning ("Equals(" ++ cast ctx.name "obj" ++ ")")] ++ [.line "return false;"]))) :=
    orderly_block (by simp +decide [String.append_assoc])
  have hequals : Orderly type [] (method ("public bool Equals(" ++ ctx.name ++ " other)") ["return this == other;"]) :=
    orderly_method (neat_of_calm (by simp +decide [String.append_assoc]) (by simp +decide)) (by simp +decide)
  simp +decide [equalsMethods, hindicates, hblock, hequals, -String.reduceAppend]

/-- The members of equality are orderly if their statements are neat. -/
theorem orderly_equalityMembers {type : String} {hash equal notEqual : List String}
    (hhash : ∀ statement ∈ hash, Neat statement) (hequal : ∀ statement ∈ equal, Neat statement)
    (hnotEqual : ∀ statement ∈ notEqual, Neat statement) :
    Orderly type [] (equalityMembers ctx hash equal notEqual) := by
  have hdoc : Orderly type [] hashDoc := by simp +decide [hashDoc]
  have hhashHead : Neat "public override int GetHashCode()" := neat_of_calm (by decide) (by decide)
  have hequalHead : Neat (equalHead ctx) :=
    @neat_static_parameters "bool operator ==" _ (by decide) (by decide) (isType_operands ctx)
  have hnotEqualHead : Neat (notEqualHead ctx) :=
    @neat_static_parameters "bool operator !=" _ (by decide) (by decide) (isType_operands ctx)
  simp [equalityMembers_eq, hdoc, orderly_method hhashHead hhash,
    orderly_method hequalHead hequal, orderly_method hnotEqualHead hnotEqual]

@[simp]
theorem orderly_equality (type : String) (list : List Field) : Orderly type [] (equality ctx list) :=
  orderly_region (by decide) (orderly_equalityMembers ctx (by simp) (by simp) (by simp))

@[simp]
theorem orderly_equalsFunction (type : String) : Orderly type [] (equalsFunction ctx) := by
  have hhead : Neat ("public static bool Equals" ++ parameterList (operands ctx)) :=
    @neat_static_parameters "bool Equals" _ (by decide) (by decide) (isType_operands ctx)
  exact orderly_region (by decide) (by simp +decide [orderly_neat_cons hhead])

/-- The doc comments of string conversion are orderly. -/
theorem orderly_formattingSummary (type manner : String) : Orderly type [] (formattingSummary ctx manner) :=
  orderly_summary (by simp +decide [String.append_assoc])

/-- The methods of string conversion are orderly. -/
@[simp]
theorem orderly_toStringMembers (type formatted : String) : Orderly type [] (toStringMembers ctx formatted) := by
  have hmethod : ∀ head statement, Calm head → Ends isPlainEnd head → Calm statement → Ends isPlainEnd statement →
      Orderly type [] (method head [statement]) := fun head statement hhead hend hcalm hlast =>
    orderly_method (neat_of_calm hhead hend) (by simpa using neat_of_calm hcalm hlast)
  have hplain := hmethod "public override string ToString()" "return ToString(\"G\", CultureInfo.CurrentCulture);"
    (by decide) (by decide) (by decide) (by decide)
  have hprovider := hmethod "public string ToString(IFormatProvider provider)" "return ToString(\"G\", provider);"
    (by decide) (by decide) (by decide) (by decide)
  have hformat := hmethod "public string ToString(string format)" "return ToString(format, CultureInfo.CurrentCulture);"
    (by decide) (by decide) (by decide) (by decide)
  have hboth : Neat "public string ToString(string format, IFormatProvider provider)" :=
    neat_of_calm (by decide) (by decide)
  have hcalling : Orderly type [] (callingToStrings ctx) := by
    simp +decide [callingToStrings, formattingReturns, formatParam, providerParam, orderly_formattingSummary, hplain,
      hprovider, hformat, -String.reduceAppend]
  rw [toStringMembers_eq, orderly_append hcalling]
  exact orderly_method hboth (by simp)

@[simp]
theorem orderly_toStringRegion (type : String) (list : List Field) : Orderly type [] (toStringRegion ctx list) :=
  orderly_region (by decide) (orderly_toStringMembers ctx type _)

end GeometrySource.Declaration

import GeometrySource.Proofs.Declaration.Head
import GeometrySource.Proofs.Declaration.Line
import GeometrySource.Proofs.Text.Opening

/-!
# Landmarks

The lines that tell what a file declares: the head of a struct, the head of a static class, and the heads of extension
methods. Constructors have no landmark of their own; they are told by the doc comment in front of them and by the name of
their type. A script is landmarked if its landmarks are given ones, in order, and all its constructors are for one type.
-/

namespace GeometrySource.Declaration

open Script Text

/-! ## Lines -/

/-- How the head of a struct begins. -/
def structOpening : String := "public struct "

/-- How the head of a static class begins. -/
def classOpening : String := "public static partial class "

/-- How the doc comment of a constructor begins. -/
def announcement : String := "/// Initializes a new instance"

/-- How the head of a constructor for a type begins. -/
def constructorOpening (type : String) : String := "public " ++ type ++ "("

/-- What stands in a line from its first opening parenthesis on. -/
def fromParenthesis (line : String) : String :=
  String.ofList (line.toList.dropWhile (· ≠ '('))

/-- Whether a line is the head of an extension method: a static one whose first parameter is marked with `this`. -/
def IsExtensionHead (line : String) : Prop :=
  StartsWith staticOpening line ∧ StartsWith "(this " (fromParenthesis line)

/-- Whether a line is the head of a struct, of a static class or of an extension method. -/
def IsLandmark (line : String) : Prop :=
  StartsWith structOpening line ∨ StartsWith classOpening line ∨ IsExtensionHead line

instance (line : String) : Decidable (IsExtensionHead line) :=
  inferInstanceAs (Decidable (_ ∧ _))

instance (line : String) : Decidable (IsLandmark line) :=
  inferInstanceAs (Decidable (_ ∨ _))

/-- Whether lines begin with comments, if any, and the head of a constructor for a type. -/
def Introduced (type : String) (lines : List String) : Prop :=
  ∃ comments head rest, lines = comments ++ head :: rest ∧ (∀ comment ∈ comments, StartsWith "///" comment) ∧
    StartsWith (constructorOpening type) head

/-! ## Scripts -/

/-- Whether a script goes on with comments, if any, and the head of a constructor for a type. -/
def Introduces (type : String) : Script → Prop
  | .line text :: rest =>
    StartsWith (constructorOpening type) (unindent text) ∨ StartsWith "///" (unindent text) ∧ Introduces type rest
  | _ => False

/-- A line that may stand in front of a script, in a declaration of a type: if it is the head of a constructor, then of one
for the type; and if it begins the doc comment of a constructor, then one for the type follows. -/
structure Leaving (type text : String) (rest : Script) : Prop where
  constructed : ∀ w, IsWord w → StartsWith (constructorOpening w) (unindent text) → w = type
  announced : StartsWith announcement (unindent text) → Introduces type rest

/-- Whether the landmarks of a script are given ones, in order, and its constructors are all for one type. -/
def Landmarked (type : String) : List String → Script → Prop
  | marks, [] => marks = []
  | marks, .line text :: rest =>
    Leaving type text rest ∧
      if IsLandmark (unindent text) then ∃ later, marks = unindent text :: later ∧ Landmarked type later rest
      else Landmarked type marks rest
  | marks, .separate :: rest => Landmarked type marks rest
  | marks, .push _ :: rest => Landmarked type marks rest
  | marks, .pop :: rest => Landmarked type marks rest
  | marks, .write _ :: rest => Landmarked type marks rest

variable {type : String} {marks : List String} {first second script : Script}

theorem Introduces.append (h : Introduces type first) (second : Script) : Introduces type (first ++ second) := by
  induction first with
  | nil => exact h.elim
  | cons step rest ih =>
    cases step with
    | line text => exact h.imp_right fun hcomment => ⟨hcomment.1, ih hcomment.2⟩
    | _ => exact h.elim

theorem Leaving.append {text : String} {rest : Script} (h : Leaving type text rest) (second : Script) :
    Leaving type text (rest ++ second) :=
  ⟨h.constructed, fun hannounced => (h.announced hannounced).append second⟩

@[simp]
theorem landmarked_nil : Landmarked type [] [] := rfl

/-- Scripts one after the other have the landmarks of both. -/
theorem Landmarked.append {later : List String} (h : Landmarked type marks first) (h' : Landmarked type later second) :
    Landmarked type (marks ++ later) (first ++ second) := by
  induction first generalizing marks with
  | nil =>
    obtain rfl := h
    exact h'
  | cons step rest ih =>
    cases step with
    | line text =>
      refine ⟨h.1.append second, ?_⟩
      have hrest := h.2
      split at hrest
      · rename_i hmark
        obtain ⟨others, rfl, hothers⟩ := hrest
        rw [if_pos hmark]
        exact ⟨others ++ later, rfl, ih hothers⟩
      · rename_i hmark
        rw [if_neg hmark]
        exact ih hrest
    | separate => exact ih h
    | push token => exact ih h
    | pop => exact ih h
    | write text => exact ih h

/-- Behind a script without landmarks the landmarks are those of what follows. -/
theorem landmarked_append (h : Landmarked type [] first) :
    Landmarked type marks (first ++ second) ↔ Landmarked type marks second := by
  refine ⟨fun hwhole => ?_, h.append⟩
  induction first with
  | nil => exact hwhole
  | cons step rest ih =>
    cases step with
    | line text =>
      have hrest := h.2
      have hbehind := hwhole.2
      split at hrest
      · obtain ⟨later, hmarks, -⟩ := hrest
        cases hmarks
      · rename_i hmark
        rw [if_neg hmark] at hbehind
        exact ih hrest hbehind
    | separate => exact ih h hwhole
    | push token => exact ih h hwhole
    | pop => exact ih h hwhole
    | write text => exact ih h hwhole

/-- A line that is no landmark and has nothing to do with constructors makes no difference. -/
theorem landmarked_line_cons {text : String} {rest : Script} (hmark : ¬IsLandmark (unindent text))
    (hconstructor : ∀ w, IsWord w → ¬StartsWith (constructorOpening w) (unindent text))
    (hannounced : ¬StartsWith announcement (unindent text)) :
    Landmarked type marks (.line text :: rest) ↔ Landmarked type marks rest := by
  rw [Landmarked, if_neg hmark]
  exact and_iff_right ⟨fun w hw hstart => absurd hstart (hconstructor w hw), fun hstart => absurd hstart hannounced⟩

theorem not_isLandmark_empty : ¬IsLandmark "" := by
  decide

theorem not_startsWith_constructorOpening_empty (w : String) : ¬StartsWith (constructorOpening w) "" := by
  rw [startsWith_empty]
  simp [constructorOpening]

/-- A blank line makes no difference. -/
theorem landmarked_blank_cons {rest : Script} : Landmarked type marks (.line "" :: rest) ↔ Landmarked type marks rest :=
  landmarked_line_cons not_isLandmark_empty (fun w _ => not_startsWith_constructorOpening_empty w) (by decide)

/-! ## What is printed -/

/-- The landmarks in the wording of a script are its landmarks. -/
theorem Landmarked.filter_wording (h : Landmarked type marks script) (opened : Bool) :
    ((script.wording opened).map unindent).filter (IsLandmark ·) = marks := by
  induction script generalizing marks opened with
  | nil => exact h.symm
  | cons step rest ih =>
    cases step with
    | line text =>
      have hrest := h.2
      rw [wording, List.map_cons]
      split at hrest
      · rename_i hmark
        obtain ⟨later, rfl, hlater⟩ := hrest
        rw [List.filter_cons_of_pos (by simpa using hmark), ih hlater]
      · rename_i hmark
        rw [List.filter_cons_of_neg (by simpa using hmark), ih hrest]
    | separate =>
      cases opened with
      | true => exact ih h true
      | false =>
        have hblank : unindent "" = "" := rfl
        rw [wording, List.map_cons, hblank, List.filter_cons_of_neg (by simpa using not_isLandmark_empty)]
        exact ih h false
    | push token => exact ih h opened
    | pop => exact ih h opened
    | write text => exact ih h opened

/-- Every constructor in the wording of a script is for its type. -/
theorem Landmarked.constructed (h : Landmarked type marks script) (opened : Bool) :
    ∀ line ∈ (script.wording opened).map unindent, ∀ w, IsWord w → StartsWith (constructorOpening w) line → w = type := by
  induction script generalizing marks opened with
  | nil => simp [wording]
  | cons step rest ih =>
    cases step with
    | line text =>
      rw [wording, List.map_cons, List.forall_mem_cons]
      refine ⟨h.1.constructed, ?_⟩
      have hrest := h.2
      split at hrest
      · obtain ⟨later, rfl, hlater⟩ := hrest
        exact ih hlater _
      · exact ih hrest _
    | separate =>
      cases opened with
      | true => exact ih h true
      | false =>
        rw [wording, List.map_cons, List.forall_mem_cons]
        exact ⟨fun w _ hstart => absurd hstart (not_startsWith_constructorOpening_empty w), ih h false⟩
    | push token => exact ih h opened
    | pop => exact ih h opened
    | write text => exact ih h opened

/-- What a script goes on with is what its wording goes on with. -/
theorem Introduces.introduced_wording (h : Introduces type script) (opened : Bool) :
    Introduced type ((script.wording opened).map unindent) := by
  induction script generalizing opened with
  | nil => exact h.elim
  | cons step rest ih =>
    cases step with
    | line text =>
      rw [wording, List.map_cons]
      rcases h with hhead | ⟨hcomment, hrest⟩
      · exact ⟨[], _, _, rfl, by simp, hhead⟩
      · obtain ⟨comments, head, more, hlines, hcomments, hhead⟩ := ih hrest (opensBlock text)
        refine ⟨unindent text :: comments, head, more, by rw [hlines]; rfl, ?_, hhead⟩
        exact List.forall_mem_cons.mpr ⟨hcomment, hcomments⟩
    | _ => exact h.elim

/-- In the wording of a script every doc comment of a constructor is followed by the head of one for its type. -/
theorem Landmarked.announced (h : Landmarked type marks script) (opened : Bool) {line : String} {after : List String}
    (hsuffix : line :: after <:+ (script.wording opened).map unindent) (hline : StartsWith announcement line) :
    Introduced type after := by
  induction script generalizing marks opened with
  | nil => simp [wording] at hsuffix
  | cons step rest ih =>
    cases step with
    | line text =>
      -- What follows the first line of the script is known; what begins later is a matter of the rest.
      rw [wording, List.map_cons, List.suffix_cons_iff] at hsuffix
      rcases hsuffix with hhere | hlater
      · obtain ⟨rfl, rfl⟩ := List.cons.inj hhere
        exact (h.1.announced hline).introduced_wording _
      · have hrest := h.2
        split at hrest
        · obtain ⟨later, rfl, hlanded⟩ := hrest
          exact ih hlanded _ hlater
        · exact ih hrest _ hlater
    | separate =>
      cases opened with
      | true => exact ih h true hsuffix
      | false =>
        rw [wording, List.map_cons, List.suffix_cons_iff] at hsuffix
        rcases hsuffix with hhere | hlater
        · obtain ⟨rfl, -⟩ := List.cons.inj hhere
          exact absurd hline (by decide)
        · exact ih h false hlater
    | push token => exact ih h opened hsuffix
    | pop => exact ih h opened hsuffix
    | write text => exact ih h opened hsuffix

end GeometrySource.Declaration

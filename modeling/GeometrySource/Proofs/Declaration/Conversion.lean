import GeometrySource.Proofs.Declaration.Ordinary
import Mathlib.Data.List.Infix

/-!
# Conversions and markers in a text

What a reader who looks for conversion operators and for markers finds in a list of lines: the remarks on it, in order.
The remarks on what a script prints can be put together from those on its parts, and ordinary lines call for none.
-/

namespace GeometrySource

open Text

/-- Every line with the line in front of it; a blank line stands in front of the first line and behind the last. -/
def Text.neighbours (lines : List String) : List (String × String) :=
  ("" :: lines).zip (lines ++ [""])

namespace Declaration

open Script

/-- Whether a line declares a conversion into a type, by whatever keyword and from whatever type. -/
def Converts (target line : String) : Prop :=
  ∃ keyword source, line = conversionLine keyword target source

/-- The characters of the line of a conversion operator. -/
theorem toList_conversionLine (keyword target source : String) :
    (conversionLine keyword target source).toList =
      staticOpening.toList ++
        (keyword.toList ++ (" operator " ++ target ++ "(").toList ++ source.toList ++ valueEnding.toList) := by
  unfold conversionLine staticOpening valueEnding
  simp only [String.toList_append, List.append_assoc]

/-- The characters between the opening and the ending of a conversion operator. -/
def interior (line : String) : List Char :=
  (line.toList.drop staticOpening.toList.length).take
    (line.toList.length - staticOpening.toList.length - valueEnding.toList.length)

/-- The interior of a line that begins and ends like a conversion operator is what stands in between. -/
theorem interior_eq {line : String} {inner : List Char}
    (h : line.toList = staticOpening.toList ++ (inner ++ valueEnding.toList)) : interior line = inner := by
  have hlength : line.toList.length - staticOpening.toList.length - valueEnding.toList.length = inner.length := by
    rw [h, List.length_append, List.length_append]
    omega
  rw [interior, hlength, h, List.drop_left, List.take_left]

/-- A line declares a conversion exactly if it begins and ends like one and names the target in between. -/
theorem converts_iff (target line : String) :
    Converts target line ↔
      staticOpening.toList <+: line.toList ∧ valueEnding.toList <:+ line.toList.drop staticOpening.toList.length ∧
        (" operator " ++ target ++ "(").toList <:+: interior line := by
  constructor
  · rintro ⟨keyword, source, rfl⟩
    have hline := toList_conversionLine keyword target source
    refine ⟨?_, ?_, ?_⟩
    · rw [hline]
      exact List.prefix_append _ _
    · rw [hline, List.drop_left]
      exact List.suffix_append _ _
    · rw [interior_eq hline]
      exact List.infix_append _ _ _
  · rintro ⟨⟨rest, hrest⟩, hending, hinfix⟩
    rw [← hrest, List.drop_left] at hending
    obtain ⟨inner, rfl⟩ := hending
    rw [interior_eq hrest.symm] at hinfix
    obtain ⟨keyword, source, rfl⟩ := hinfix
    refine ⟨String.ofList keyword, String.ofList source, ?_⟩
    rw [← String.toList_inj, toList_conversionLine, ← hrest, String.toList_ofList, String.toList_ofList]

instance (target line : String) : Decidable (Converts target line) :=
  decidable_of_iff _ (converts_iff target line).symm

/-- A line that a reader remarks, with whether it stands behind the marker. -/
structure Remark where
  marked : Bool
  line : String
  deriving DecidableEq, Repr

/-- The lines that stand behind the marker or declare a conversion into a type. -/
def remarks (target : String) (lines : List String) : List Remark :=
  ((neighbours lines).filter fun (before, line) => before = clsMarker ∨ Converts target line).map fun (before, line) =>
    ⟨before = clsMarker, line⟩

/-! ## Remarks in order -/

variable {target : String}

/-- A line that declares a conversion is neither blank nor the marker. -/
theorem Converts.begins {line : String} (h : Converts target line) : line.toList.head? = some 'p' := by
  have hhead : staticOpening.toList.head? = some 'p' := by decide
  obtain ⟨keyword, source, rfl⟩ := h
  rw [toList_conversionLine, List.head?_append, hhead, Option.some_or]

theorem not_converts_empty : ¬Converts target "" := fun h => absurd h.begins (by simp)

theorem not_converts_clsMarker : ¬Converts target clsMarker := fun h => absurd h.begins (by decide)

/-- An ordinary line, without the tabs in front, declares no conversion. -/
theorem Ordinary.not_converts {line : String} (h : Ordinary line) : ¬Converts target (unindent line) := by
  intro hconverts
  obtain ⟨hopening, hending, -⟩ := (converts_iff target (unindent line)).mp hconverts
  exact h.unlike ⟨hopening, hending.trans (List.drop_suffix _ _)⟩

/-- The remarks on lines of which the first one stands behind the marker or does not. -/
def remarksBehind (target : String) : Bool → List String → List Remark
  | marked, [] => if marked then [⟨true, ""⟩] else []
  | marked, line :: rest =>
    if marked ∨ Converts target line then ⟨marked, line⟩ :: remarksBehind target (line = clsMarker) rest
    else remarksBehind target (line = clsMarker) rest

/-- The remarks can be made line by line. -/
theorem remarks_eq (target : String) (lines : List String) :
    remarks target lines = remarksBehind target false lines := by
  have hbehind : ∀ (before : String) (lines : List String),
      ((((before :: lines).zip (lines ++ [""])).filter fun (before, line) =>
        before = clsMarker ∨ Converts target line).map fun (before, line) => (⟨before = clsMarker, line⟩ : Remark)) =
        remarksBehind target (before = clsMarker) lines := by
    intro before lines
    induction lines generalizing before with
    | nil => by_cases hb : before = clsMarker <;> simp [remarksBehind, hb, not_converts_empty]
    | cons line rest ih =>
      have hrest := ih line
      by_cases hremark : before = clsMarker ∨ Converts target line
      · simp [remarksBehind, hremark, ← hrest]
      · simp [remarksBehind, hremark, ← hrest]
  have hblank : ("" : String) ≠ clsMarker := by decide
  rw [remarks, neighbours, hbehind, decide_eq_false hblank]

/-- The lines that declare a conversion are among the remarks. -/
theorem filter_converts (target : String) (lines : List String) :
    lines.filter (fun line => Converts target line) =
      ((remarks target lines).filter fun r => Converts target r.line).map Remark.line := by
  have hbehind : ∀ (marked : Bool) (lines : List String), lines.filter (fun line => Converts target line) =
      ((remarksBehind target marked lines).filter fun r => Converts target r.line).map Remark.line := by
    intro marked lines
    induction lines generalizing marked with
    | nil => cases marked <;> simp [remarksBehind, not_converts_empty]
    | cons line rest ih =>
      have hrest := ih (line = clsMarker)
      by_cases hconverts : Converts target line
      · simp [remarksBehind, hconverts, hrest]
      · cases marked <;> simp [remarksBehind, hconverts, hrest]
  rw [remarks_eq, hbehind false]

/-- Whether a script, wherever it is printed, calls for these remarks and ends in no marker. -/
def Shows (target : String) (script : Script) (seen : List Remark) : Prop :=
  ∀ opened rest, remarksBehind target false ((script.wording opened).map unindent ++ rest) =
    seen ++ remarksBehind target false rest

/-- Scripts one after another call for the remarks on both. -/
theorem Shows.append {first second : Script} {seen more : List Remark} (h₁ : Shows target first seen)
    (h₂ : Shows target second more) : Shows target (first ++ second) (seen ++ more) := by
  intro opened rest
  rw [wording_append, List.map_append, List.append_assoc, h₁, h₂, List.append_assoc]

/-- Ordinary lines call for no remark. -/
theorem shows_of_ordinary {script : Script} (h : EachLine Ordinary script) : Shows target script [] := by
  intro opened rest
  have hwording := h.wording Ordinary.empty opened
  generalize script.wording opened = texts at hwording
  induction texts with
  | nil => rfl
  | cons text more ih =>
    obtain ⟨htext, hmore⟩ := List.forall_mem_cons.mp hwording
    simp only [List.map_cons, List.cons_append, remarksBehind]
    rw [if_neg (by simp [htext.not_converts]), decide_eq_false htext.unmarked]
    exact ih hmore

/-- A remark for each of the scripts one after another. -/
theorem shows_flatMap {α : Type} {list : List α} {f : α → Script} {remark : α → Remark}
    (h : ∀ x ∈ list, Shows target (f x) [remark x]) : Shows target (list.flatMap f) (list.map remark) := by
  induction list with
  | nil => exact shows_of_ordinary eachLine_nil
  | cons x rest ih =>
    obtain ⟨hx, hrest⟩ := List.forall_mem_cons.mp h
    exact hx.append (ih hrest)

/-- A block calls for the remarks on what is inside. -/
theorem Shows.block {inner : Script} {seen : List Remark} (h : Shows target inner seen) :
    Shows target (Script.block inner) seen := by
  have hopen : Shows target openBlock [] :=
    shows_of_ordinary (by simp [openBlock, indentWith, lineOf?, ordinary_openBrace])
  have hclose : Shows target closeBlock [] :=
    shows_of_ordinary (by simp [closeBlock, dedentWith, lineOf?, ordinary_closeBrace])
  have hwhole := (hopen.append h).append hclose
  rwa [List.nil_append, List.append_nil] at hwhole

/-- A region calls for the remarks on what is inside. -/
theorem Shows.region {name : String} {inner : Script} {seen : List Remark} (hname : SingleLine name)
    (h : Shows target inner seen) : Shows target (Script.region name inner) seen := by
  have hopen : Shows target (openRegion name) [] := shows_of_ordinary (ordinary_openRegion.mpr hname)
  have hclose : Shows target closeRegion [] := shows_of_ordinary ordinary_closeRegion
  have hwhole := (hopen.append h).append hclose
  rwa [List.nil_append, List.append_nil] at hwhole

/-- A line behind the marker is remarked. -/
theorem shows_marked {line : String} (hstay : unindent line = line) (hne : line ≠ clsMarker) :
    Shows target [.line clsMarker, .line line] [⟨true, line⟩] := by
  have hmarker : unindent clsMarker = clsMarker := by decide
  intro opened rest
  simp only [wording, List.map_cons, List.map_nil, List.cons_append, List.nil_append, hmarker, hstay, remarksBehind]
  simp [not_converts_clsMarker, hne]

/-- The line of a conversion is remarked. -/
theorem shows_converts {line : String} (h : Converts target line) : Shows target [.line line] [⟨false, line⟩] := by
  have hne : line ≠ clsMarker := by
    rintro rfl
    exact not_converts_clsMarker h
  intro opened rest
  simp only [wording, List.map_cons, List.map_nil, List.cons_append, List.nil_append,
    unindent_of_head? h.begins (by decide), remarksBehind]
  simp [h, hne]

/-- A line of a conversion that may be marked is remarked. -/
theorem shows_markedIf {line : String} (h : Converts target line) (marked : Bool) :
    Shows target (clsMarkerIf marked ++ [.line line]) [⟨marked, line⟩] := by
  cases marked with
  | false => exact shows_converts h
  | true =>
    refine shows_marked (unindent_of_head? h.begins (by decide)) ?_
    rintro rfl
    exact not_converts_clsMarker h

/-! ## Heads and conversions -/

section Parts

variable {ctx : Context} {source : Numeric} {sourceName : String} {args : List String}

theorem singleLine_conversionKeyword : SingleLine (ctx.conversionKind source).keyword := by
  cases ctx.conversionKind source <;> decide

theorem ordinary_conversionComment (hname : SingleLine sourceName) :
    EachLine Ordinary (conversionComment ctx source sourceName) := by
  simp (disch := (with_reducible apply Written.intro; decide)) only [conversionComment, eachLine_append,
    ordinary_summary, ordinary_param, ordinary_returns, singleLine_append, singleLine_see, singleLine_of_written,
    singleLine_conversionKeyword, ctx.singleLine_name, hname, and_self]

theorem ordinary_conversionBody (hargs : ∀ arg ∈ args, SingleLine arg) :
    EachLine Ordinary (body [returning (construct ctx.name args)]) := by
  simpa using hargs

/-- The line of the operator stays one line. -/
theorem singleLine_operatorLine (hname : SingleLine sourceName) : SingleLine (operatorLine ctx source sourceName) := by
  unfold operatorLine conversionLine
  simp (disch := (with_reducible apply Written.intro; decide)) only [singleLine_append, singleLine_of_written,
    singleLine_conversionKeyword, ctx.singleLine_name, hname, and_self]

theorem singleLine_clsMarkerIf (marked : Bool) : EachLine SingleLine (clsMarkerIf marked) := by
  have hmarker : SingleLine clsMarker := by decide
  cases marked <;> simp [clsMarkerIf, hmarker]

/-- A conversion has single lines only. -/
theorem singleLine_conversion (hname : SingleLine sourceName) (hargs : ∀ arg ∈ args, SingleLine arg) :
    EachLine SingleLine (conversion ctx source sourceName args) := by
  rw [conversion_eq, eachLine_append, eachLine_append, eachLine_append, eachLine_line_cons]
  exact ⟨singleLine_of_ordinary (ordinary_conversionComment hname),
    ⟨singleLine_clsMarkerIf _, singleLine_operatorLine hname, eachLine_nil⟩,
    singleLine_of_ordinary (ordinary_conversionBody hargs)⟩

/-- A conversion calls for one remark, which is marked if the conversion leaves the common language subset. -/
theorem shows_conversion (hname : SingleLine sourceName) (hargs : ∀ arg ∈ args, SingleLine arg) :
    Shows ctx.name (conversion ctx source sourceName args)
      [⟨ctx.needsClsMarker source, operatorLine ctx source sourceName⟩] := by
  have hhead : Converts ctx.name (operatorLine ctx source sourceName) := ⟨_, _, rfl⟩
  rw [conversion_eq]
  exact (shows_of_ordinary (ordinary_conversionComment hname)).append
    ((shows_markedIf hhead _).append (shows_of_ordinary (ordinary_conversionBody hargs)))

/-- The line that declares a struct. -/
def structLine (name : String) : String :=
  "public struct " ++ name ++ " : IEquatable<" ++ name ++ ">, IFormattable"

/-- The lines of a struct in front of a possible marker. -/
def structDoc (ctx : Context) (description : String) : Script :=
  summary ("Represents " ++ description ++ " in " ++ ctx.dimension.repr ++ " dimensional space, using " ++
      ctx.numeric.description ++ ".") ++
    [.line "[Serializable]", .line "[ComVisible(true)]", .line "[StructLayout(LayoutKind.Sequential)]"]

theorem structHead_eq (description : String) :
    structHead ctx description =
      structDoc ctx description ++ (clsMarkerIf (!ctx.numeric.clsCompliant) ++ [.line (structLine ctx.name)]) := by
  simp only [structHead, structDoc, List.append_assoc]
  rfl

/-- An attribute other than the marker is an ordinary line. -/
theorem ordinary_attributes :
    EachLine Ordinary
      [.line "[Serializable]", .line "[ComVisible(true)]", .line "[StructLayout(LayoutKind.Sequential)]"] := by
  have hattribute : ∀ line ∈ ["[Serializable]", "[ComVisible(true)]", "[StructLayout(LayoutKind.Sequential)]"],
      SingleLine line ∧ unindent line ≠ clsMarker ∧ line.toList.getLast? = some ']' := by decide
  have hordinary : ∀ line ∈ ["[Serializable]", "[ComVisible(true)]", "[StructLayout(LayoutKind.Sequential)]"],
      Ordinary line := by
    intro line hmem
    obtain ⟨hs, hne, hlast⟩ := hattribute line hmem
    exact ⟨hs, hne, fun hlike => unlike_of_last hlast (by decide) hlike.2⟩
  simpa using hordinary

theorem ordinary_structDoc {description : String} (h : SingleLine description) :
    EachLine Ordinary (structDoc ctx description) := by
  rw [structDoc, eachLine_append, ordinary_summary]
  refine ⟨?_, ordinary_attributes⟩
  simp (disch := (with_reducible apply Written.intro; decide)) [singleLine_of_written, h]

/-- The line of a struct is ordinary. -/
theorem ordinary_structLine : Ordinary (structLine ctx.name) := by
  unfold structLine
  simp (disch := (with_reducible apply Written.intro; decide)) [String.append_assoc, ordinary_append_iff,
    singleLine_of_written]

theorem not_converts_structLine : ¬Converts target (structLine ctx.name) := by
  intro hconverts
  have hstay := unindent_of_head? hconverts.begins (by decide)
  exact ordinary_structLine.not_converts (hstay.symm ▸ hconverts)

/-- Where only a struct and conversions are remarked, the lines that declare a conversion are those of the conversions. -/
theorem filter_converts_of_remarks {lines : List String} {compliant : Bool} {seen : List Remark}
    (h : remarks target lines = (if compliant then [] else [⟨true, structLine ctx.name⟩]) ++ seen)
    (hseen : ∀ r ∈ seen, Converts target r.line) :
    lines.filter (fun line => Converts target line) = seen.map Remark.line := by
  have hnone : (if compliant then [] else [(⟨true, structLine ctx.name⟩ : Remark)]).filter
      (fun r => Converts target r.line) = [] := by
    split <;> simp [not_converts_structLine]
  have hall : seen.filter (fun r => Converts target r.line) = seen :=
    List.filter_eq_self.mpr fun r hr => decide_eq_true (hseen r hr)
  rw [filter_converts, h, List.filter_append, hnone, hall, List.nil_append]

/-- The head of a struct has single lines only. -/
theorem singleLine_structHead {description : String} (h : SingleLine description) :
    EachLine SingleLine (structHead ctx description) := by
  rw [structHead_eq, eachLine_append, eachLine_append, eachLine_line_cons]
  exact ⟨singleLine_of_ordinary (ordinary_structDoc h), singleLine_clsMarkerIf _, ordinary_structLine.single,
    eachLine_nil⟩

/-- The head of a struct calls for a remark if the number type is outside the common language subset. -/
theorem shows_structHead {target description : String} (h : SingleLine description) :
    Shows target (structHead ctx description)
      (if ctx.numeric.clsCompliant then [] else [⟨true, structLine ctx.name⟩]) := by
  have hdoc : Shows target (structDoc ctx description) [] := shows_of_ordinary (ordinary_structDoc h)
  rw [structHead_eq]
  cases ctx.numeric.clsCompliant with
  | true => exact hdoc.append (shows_of_ordinary (by simp [clsMarkerIf, ordinary_structLine]))
  | false =>
    have hhead : (structLine ctx.name).toList.head? = some 'p' := by
      unfold structLine
      simp
    have hstay := unindent_of_head? hhead (by decide)
    exact hdoc.append (shows_marked hstay fun hmarker => ordinary_structLine.unmarked (hstay.trans hmarker))

/-- The head of a static class is ordinary. -/
theorem ordinary_companionHead : EachLine Ordinary (companionHead ctx) := by
  have hclass : Ordinary ("public static partial class " ++ ctx.companion) :=
    ordinary_append_word (singleLine_of_written (.intro (by decide))) ctx.shape.isWord_name
  simp (disch := (with_reducible apply Written.intro; decide)) [companionHead, hclass, singleLine_of_written]

end Parts

end Declaration

end GeometrySource

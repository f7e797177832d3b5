import GeometrySource.Proofs.Declaration.Nesting
import GeometrySource.Proofs.Layout.Wording
import GeometrySource.Proofs.Naming.Word

/-!
# Lines of declarations

Most lines of a declaration are ordinary: they stay on one line, are not the marker and do not read like a conversion
operator. Whether a line is ordinary shows at its first or at its last characters; for the heads of members it shows at
the name of the last parameter.
-/

namespace GeometrySource.Declaration

open Script Text

/-- How the line of a static member begins. -/
def staticOpening : String := "public static "

/-- How the line of a conversion operator ends. -/
def valueEnding : String := " value)"

/-- A line that stays one line and that, without the tabs in front, is neither the marker nor begins and ends like a
conversion operator. -/
structure Ordinary (line : String) : Prop where
  single : SingleLine line
  unmarked : unindent line ≠ clsMarker
  unlike : ¬(staticOpening.toList <+: (unindent line).toList ∧ valueEnding.toList <:+ (unindent line).toList)

theorem Ordinary.empty : Ordinary "" := ⟨by decide, by decide, by decide⟩

/-- Ordinary lines are single lines. -/
theorem singleLine_of_ordinary {script : Script} (h : EachLine Ordinary script) : EachLine SingleLine script :=
  h.mono fun _ => Ordinary.single

/-! ## Openings and endings -/

section Ends

variable {line : String} {c : Char}

/-- A line that begins with another character is not the marker. -/
theorem unmarked_of_head (h : line.toList.head? = some c) (hc : c ≠ '[' ∧ c ≠ '\t') : unindent line ≠ clsMarker := by
  have hhead : clsMarker.toList.head? = some '[' := by decide
  intro hmarker
  rw [unindent_of_head? h hc.2] at hmarker
  rw [hmarker, hhead, Option.some.injEq] at h
  exact hc.1 h.symm

/-- What a line ends in without the tabs in front has the last character of the line. -/
theorem getLast?_of_suffix_unindent {ending : List Char} (h : ending <:+ (unindent line).toList) (hne : ending ≠ []) :
    ending.getLast? = line.toList.getLast? := by
  obtain ⟨front, hfront⟩ := h.trans (toList_unindent_suffix line)
  rw [← hfront, List.getLast?_append, List.getLast?_eq_some_getLast hne, Option.some_or]

/-- A line that ends in another character is not the marker. -/
theorem unmarked_of_last (h : line.toList.getLast? = some c) (hc : c ≠ ']') : unindent line ≠ clsMarker := by
  have hlast : clsMarker.toList.getLast? = some ']' := by decide
  intro hmarker
  have hsuffix : clsMarker.toList <:+ (unindent line).toList := by simp [hmarker]
  have hend := getLast?_of_suffix_unindent hsuffix (by intro hnil; simp [hnil] at hlast)
  rw [hlast, h, Option.some.injEq] at hend
  exact hc hend.symm

/-- A line that ends in another character does not end like a conversion operator. -/
theorem unlike_of_last (h : line.toList.getLast? = some c) (hc : c ≠ ')') :
    ¬valueEnding.toList <:+ (unindent line).toList := by
  have hlast : valueEnding.toList.getLast? = some ')' := by decide
  intro hvalue
  have hend := getLast?_of_suffix_unindent hvalue (by intro hnil; simp [hnil] at hlast)
  rw [hlast, h, Option.some.injEq] at hend
  exact hc hend.symm

/-- The first characters of a static member. -/
def staticStart : List Char := ['p', 'u', 'b', 'l', 'i', 'c', ' ', 's', 't', 'a']

theorem staticOpening_begins : staticStart <+: staticOpening.toList := by decide

/-- A line that does not begin like a static member is not like a conversion operator. -/
theorem unlike_of_opening (h : line.toList.head? = some c) (hc : c ≠ '\t') (hstart : ¬staticStart <+: line.toList) :
    ¬staticOpening.toList <+: (unindent line).toList := by
  rw [unindent_of_head? h hc]
  exact fun hopening => hstart (staticOpening_begins.trans hopening)

/-- Characters that show at the beginning of a line that it is ordinary. -/
def PlainStart (cs : List Char) : Prop :=
  (∃ c ∈ cs.head?, c ≠ '[' ∧ c ≠ '\t') ∧ ¬staticStart <+: cs ∧ ¬cs <+: staticStart

instance (cs : List Char) : Decidable (PlainStart cs) :=
  have : Decidable (∃ c ∈ cs.head?, c ≠ '[' ∧ c ≠ '\t') := Option.decidableExistsMem cs.head?
  inferInstanceAs (Decidable (_ ∧ _))

/-- Characters that show at the end of a line that it is ordinary. -/
def PlainEnd (cs : List Char) : Prop :=
  ∃ c ∈ cs.getLast?, c ≠ ')' ∧ c ≠ ']'

instance (cs : List Char) : Decidable (PlainEnd cs) :=
  Option.decidableExistsMem cs.getLast?

/-- A line is ordinary if it shows at the beginning. -/
theorem ordinary_of_start {start : List Char} (h : PlainStart start) (hline : start <+: line.toList)
    (hs : SingleLine line) : Ordinary line := by
  obtain ⟨⟨c, hc, hplain⟩, hstatic, hshort⟩ := h
  have hfirst : line.toList.head? = some c := by
    obtain ⟨rest, hrest⟩ := hline
    rw [← hrest, List.head?_append, Option.mem_def.mp hc, Option.some_or]
  refine ⟨hs, unmarked_of_head hfirst hplain, fun hlike => unlike_of_opening hfirst hplain.2 ?_ hlike.1⟩
  intro hstart
  rcases List.prefix_or_prefix_of_prefix hstart hline with hprefix | hprefix
  · exact hstatic hprefix
  · exact hshort hprefix

/-- A line is ordinary if it shows at the end. -/
theorem ordinary_of_end {ending : List Char} (h : PlainEnd ending) (hline : ending <:+ line.toList)
    (hs : SingleLine line) : Ordinary line := by
  obtain ⟨c, hc, hplain⟩ := h
  have hlast : line.toList.getLast? = some c := by
    obtain ⟨front, hfront⟩ := hline
    rw [← hfront, List.getLast?_append, Option.mem_def.mp hc, Option.some_or]
  exact ⟨hs, unmarked_of_last hlast hplain.2, fun hlike => unlike_of_last hlast hplain.1 hlike.2⟩

end Ends

/-- A text that is written down is an ordinary line if it shows at one of the ends. -/
theorem ordinary_of_written {line : String} (h : Written (fun cs => '\n' ∉ cs ∧ (PlainStart cs ∨ PlainEnd cs)) line) :
    Ordinary line := by
  obtain ⟨cs, rfl, hsingle, hends⟩ := h
  have hs : SingleLine (String.ofList cs) := singleLine_of_written (.intro hsingle)
  rcases hends with hstart | hend
  · exact ordinary_of_start hstart (by simp) hs
  · exact ordinary_of_end hend (by simp) hs

/-- A text behind another one that is written down is an ordinary line if it shows at the other one. -/
theorem ordinary_append_iff {start rest : String} (h : Written PlainStart start) :
    Ordinary (start ++ rest) ↔ SingleLine (start ++ rest) := by
  obtain ⟨cs, rfl, hcs⟩ := h
  exact ⟨Ordinary.single, ordinary_of_start hcs (by simp)⟩

/-- A text before another one that is written down is an ordinary line if it shows at the other one. -/
theorem ordinary_append_iff_of_end {front ending : String} (h : Written PlainEnd ending) :
    Ordinary (front ++ ending) ↔ SingleLine (front ++ ending) := by
  obtain ⟨cs, rfl, hcs⟩ := h
  exact ⟨Ordinary.single, ordinary_of_end hcs (by simp)⟩

/-- A tab in front makes no difference. -/
@[simp]
theorem ordinary_tab_append {line : String} : Ordinary ("\t" ++ line) ↔ Ordinary line := by
  have hsingle : SingleLine ("\t" ++ line) ↔ SingleLine line := by simp [show SingleLine "\t" by decide]
  constructor
  · rintro ⟨hs, hm, hu⟩
    rw [unindent_tab_append] at hm hu
    exact ⟨hsingle.mp hs, hm, hu⟩
  · rintro ⟨hs, hm, hu⟩
    rw [← unindent_tab_append] at hm hu
    exact ⟨hsingle.mpr hs, hm, hu⟩

/-! ## Parameters -/

/-- A parameter that a conversion operator does not have. -/
structure Parameter.Plain (p : Parameter) : Prop where
  type : SingleLine p.type
  name : IsWord p.name
  distinct : p.name ≠ "value"

/-- A parameter whose name is written down is plain if its characters say so. -/
theorem plain_iff_of_written {type name : String}
    (h : Written (fun cs => cs ≠ [] ∧ cs.all isWordChar = true ∧ cs ≠ ['v', 'a', 'l', 'u', 'e']) name) :
    Parameter.Plain ⟨type, name⟩ ↔ SingleLine type := by
  obtain ⟨cs, rfl, hne, hword, hvalue⟩ := h
  have hlist : "value".toList = ['v', 'a', 'l', 'u', 'e'] := by decide
  refine ⟨Parameter.Plain.type, fun htype => ⟨htype, ⟨?_, ?_⟩, ?_⟩⟩
  · simpa using hne
  · simpa using hword
  · rw [Ne, ← String.toList_inj, String.toList_ofList, hlist]
    exact hvalue

/-- What stands behind the last place of an element does not depend on what stands in front. -/
theorem eq_of_append_cons_eq {α : Type} {a : α} {front₁ front₂ back₁ back₂ : List α} (h₁ : a ∉ back₁) (h₂ : a ∉ back₂)
    (h : front₁ ++ a :: back₁ = front₂ ++ a :: back₂) : back₁ = back₂ := by
  rcases List.append_eq_append_iff.mp h with ⟨between, -, hback⟩ | ⟨between, -, hback⟩
  · cases between with
    | nil => exact (List.cons.inj hback).2
    | cons _ more => exact absurd ((List.cons.inj hback).2 ▸ by simp) h₁
  · cases between with
    | nil => exact (List.cons.inj hback).2.symm
    | cons _ more => exact absurd ((List.cons.inj hback).2 ▸ by simp) h₂

/-- The head of a member with such a parameter at the end is an ordinary line. -/
theorem ordinary_lastParameter {front name : String} (hfront : SingleLine front) (hname : IsWord name)
    (hne : name ≠ "value") : Ordinary (front ++ " " ++ name ++ ")") := by
  have hlist : (front ++ " " ++ name ++ ")").toList = front.toList ++ ' ' :: name.toList ++ [')'] := by simp
  have hlast : (front ++ " " ++ name ++ ")").toList.getLast? = some ')' := by
    rw [hlist, List.getLast?_concat]
  have hblank : ∀ word : String, IsWord word → ' ' ∉ word.toList := fun word hword hmem =>
    absurd (hword.2 _ hmem) (by decide)
  have hsingle : SingleLine (front ++ " " ++ name ++ ")") := by
    simp [hfront, hname.singleLine, show SingleLine " " by decide, show SingleLine ")" by decide]
  refine ⟨hsingle, unmarked_of_last hlast (by decide), fun hlike => hne ?_⟩
  obtain ⟨before, hbefore⟩ := hlike.2.trans (toList_unindent_suffix _)
  have hvalue : valueEnding.toList = ' ' :: "value".toList ++ [')'] := by decide
  have hcut : before ++ ' ' :: "value".toList = front.toList ++ ' ' :: name.toList := by
    rw [hvalue, hlist, ← List.append_assoc] at hbefore
    exact List.append_cancel_right hbefore
  exact String.toList_inj.mp (eq_of_append_cons_eq (hblank "value" (by decide)) (hblank name hname) hcut).symm

/-- A line that ends in a word is ordinary. -/
theorem ordinary_append_word {front word : String} (hfront : SingleLine front) (hword : IsWord word) :
    Ordinary (front ++ word) := by
  obtain ⟨c, hc⟩ : ∃ c, word.toList.getLast? = some c :=
    Option.isSome_iff_exists.mp (by simpa [List.getLast?_isSome] using hword.1)
  have hwordChar : isWordChar c = true := hword.2 c (List.mem_of_getLast? hc)
  refine ordinary_of_end ⟨c, hc, ?_, ?_⟩ (by rw [String.toList_append]; exact List.suffix_append _ _) ?_
  · rintro rfl
    exact absurd hwordChar (by decide)
  · rintro rfl
    exact absurd hwordChar (by decide)
  · simp [hfront, hword.singleLine]

/-- The head of a member without parameters is an ordinary line. -/
theorem ordinary_noParameters {front : String} (hfront : SingleLine front) : Ordinary (front ++ "()") := by
  have hlist : (front ++ "()").toList = front.toList ++ ['('] ++ [')'] := by simp
  have hlast : (front ++ "()").toList.getLast? = some ')' := by rw [hlist, List.getLast?_concat]
  have hsingle : SingleLine (front ++ "()") := by simp [hfront, show SingleLine "()" by decide]
  refine ⟨hsingle, unmarked_of_last hlast (by decide), fun hlike => ?_⟩
  obtain ⟨before, hbefore⟩ := hlike.2.trans (toList_unindent_suffix _)
  have hvalue : valueEnding.toList = " valu".toList ++ ['e'] ++ [')'] := by decide
  rw [hvalue, hlist, ← List.append_assoc] at hbefore
  have hcut := congrArg List.getLast? (List.append_cancel_right hbefore)
  rw [← List.append_assoc, List.getLast?_concat, List.getLast?_concat] at hcut
  exact absurd hcut (by decide)

/-- A list of texts ends in the last of them. -/
theorem commaList_concat (texts : List String) (last : String) :
    ∃ front, commaList (texts ++ [last]) = front ++ last := by
  induction texts with
  | nil => exact ⟨"", by simp [commaList]⟩
  | cons first rest ih =>
    obtain ⟨front, hfront⟩ := ih
    refine ⟨first ++ ", " ++ front, ?_⟩
    rw [String.append_assoc, ← hfront]
    cases hrest : rest ++ [last] with
    | nil => simp at hrest
    | cons second more => rw [List.cons_append, hrest, commaList, String.intercalate_cons_cons]; rfl

/-- The head of a member whose parameters a conversion operator does not have is an ordinary line. -/
theorem ordinary_parameterList {front : String} {parameters : List Parameter} (hfront : SingleLine front)
    (h : ∀ p ∈ parameters, p.Plain) : Ordinary (front ++ parameterList parameters) := by
  cases parameters using List.reverseRecOn with
  | nil => exact ordinary_noParameters hfront
  | append_singleton init p =>
    have hp : p.Plain := h p (by simp)
    obtain ⟨before, hbefore⟩ := commaList_concat (init.map Parameter.text) p.text
    have hsingle : SingleLine (before ++ p.text) := by
      rw [← hbefore, commaList, singleLine_intercalate (.intro (by decide)), ← List.map_singleton, ← List.map_append]
      intro text htext
      obtain ⟨q, hq, rfl⟩ := List.mem_map.mp htext
      simp [Parameter.text, (h q hq).type, (h q hq).name.singleLine, show SingleLine " " by decide]
    have hlist : front ++ parameterList (init ++ [p]) = front ++ "(" ++ before ++ p.type ++ " " ++ p.name ++ ")" := by
      rw [parameterList, List.map_append, List.map_singleton, hbefore, Parameter.text]
      simp only [String.append_assoc]
    rw [hlist]
    refine ordinary_lastParameter ?_ hp.name hp.distinct
    simp [hfront, ((singleLine_append _ _).mp hsingle).1, hp.type, show SingleLine "(" by decide]

end GeometrySource.Declaration

import GeometrySource.Proofs.Layout.Row

/-!
# The wording of a script

The wording of a script is the list of its rows' texts. It does not depend on the depth at which a script stands, so it
can be put together from parts that are not nested by themselves. The lines of what a nested script prints, without the
tabs in front, are its wording without the tabs in front, provided that every line of the script stays on one line.
-/

namespace GeometrySource

namespace Text

/-- A line without the tabs in front. -/
def unindent (line : String) : String :=
  String.ofList (line.toList.dropWhile fun c => c = '\t')

/-- The lines of a text without the tabs in front of them. -/
def unindentedLines (text : String) : List String :=
  (lines text).map unindent

/-- What is left of a line is its end. -/
theorem toList_unindent_suffix (line : String) : (unindent line).toList <:+ line.toList := by
  rw [unindent, String.toList_ofList]
  exact List.dropWhile_suffix _

/-- A line that begins with another character stays as it is. -/
theorem unindent_of_head? {line : String} {c : Char} (h : line.toList.head? = some c) (hc : c ≠ '\t') :
    unindent line = line := by
  cases hline : line.toList with
  | nil => simp [hline] at h
  | cons d rest =>
    have hd : d = c := by simpa [hline] using h
    rw [unindent, hline, List.dropWhile_cons_of_neg (by simp [hd, hc]), ← hline, String.ofList_toList]

/-- A tab in front makes no difference. -/
theorem unindent_tab_append (line : String) : unindent ("\t" ++ line) = unindent line := by
  simp [unindent]

/-- One of some tabs stands in front of the others. -/
theorem tabs_succ_append (count : Nat) (line : String) : tabs (count + 1) ++ line = "\t" ++ (tabs count ++ line) := by
  simp [tabs, List.replicate_succ, Script.tab, String.append_assoc]

/-- Some tabs in front make no difference. -/
theorem unindent_tabs_append (count : Nat) (line : String) : unindent (tabs count ++ line) = unindent line := by
  induction count with
  | zero => simp
  | succ count ih => rw [tabs_succ_append, unindent_tab_append, ih]

end Text

/-- A row in print is its text, without the tabs in front. -/
theorem Row.unindent_print {r : Row} (h : Text.SingleLine r.text) : Text.unindent r.print = Text.unindent r.text := by
  by_cases hempty : r.text = ""
  · rw [print, hempty, Text.indented_empty]
  · rw [print, Text.indented_of_singleLine _ h hempty, Text.unindent_tabs_append]

/-- Tabs have no line feed among them. -/
theorem Text.singleLine_tabs (count : Nat) : SingleLine (tabs count) :=
  singleLine_join fun token htoken => List.eq_of_mem_replicate htoken ▸ by decide

/-- A row in print stays on one line if its text does. -/
theorem Row.singleLine_print {r : Row} (h : Text.SingleLine r.text) : Text.SingleLine r.print := by
  by_cases hempty : r.text = ""
  · rw [print, hempty, Text.indented_empty]
    decide
  · rw [print, Text.indented_of_singleLine _ h hempty, Text.singleLine_append]
    exact ⟨Text.singleLine_tabs r.depth, h⟩

namespace Script

/-- The texts of the rows of a script, where `opened` says whether `separate` leaves nothing at first. -/
def wording : Bool → Script → List String
  | _, [] => []
  | _, .line text :: rest => text :: wording (opensBlock text) rest
  | true, .separate :: rest => wording true rest
  | false, .separate :: rest => "" :: wording false rest
  | opened, .push _ :: rest => wording opened rest
  | opened, .pop :: rest => wording opened rest
  | opened, .write _ :: rest => wording opened rest

/-- At any depth the rows of a script have its wording. -/
theorem map_text_rows (depth : Nat) (opened : Bool) (script : Script) :
    (rows depth opened script).map Row.text = wording opened script := by
  induction script generalizing depth opened with
  | nil => rfl
  | cons step rest ih =>
    cases step with
    | write text => exact ih _ _
    | line text => exact congrArg (text :: ·) (ih depth (opensBlock text))
    | push token => exact ih _ _
    | pop => exact ih _ _
    | separate =>
      cases opened with
      | true => exact ih _ _
      | false => exact congrArg ("" :: ·) (ih depth false)

/-- The wording of a script goes on behind another one. -/
theorem wording_append (opened : Bool) (first second : Script) :
    wording opened (first ++ second) = wording opened first ++ wording (openedAfter opened first) second := by
  induction first generalizing opened with
  | nil => rfl
  | cons step rest ih =>
    cases step with
    | write text => exact ih _
    | line text => exact congrArg (text :: ·) (ih (opensBlock text))
    | push token => exact ih _
    | pop => exact ih _
    | separate =>
      cases opened with
      | true => exact ih _
      | false => exact congrArg ("" :: ·) (ih false)

/-- Every row of a script has a text of its wording. -/
theorem text_mem_wording {depth : Nat} {opened : Bool} {script : Script} {r : Row} (h : r ∈ rows depth opened script) :
    r.text ∈ wording opened script := by
  rw [← map_text_rows depth]
  exact List.mem_map_of_mem h

/-! ## Every line of a script -/

/-- Whether every line of a script is as a predicate asks. -/
def EachLine (P : String → Prop) (script : Script) : Prop :=
  ∀ text, Step.line text ∈ script → P text

section EachLine

variable {P Q : String → Prop}

@[simp]
theorem eachLine_nil : EachLine P [] := by
  intro text hmem
  cases hmem

@[simp]
theorem eachLine_append {first second : Script} :
    EachLine P (first ++ second) ↔ EachLine P first ∧ EachLine P second := by
  simp only [EachLine, List.mem_append, or_imp, forall_and]

@[simp]
theorem eachLine_line_cons {text : String} {rest : Script} :
    EachLine P (.line text :: rest) ↔ P text ∧ EachLine P rest := by
  simp [EachLine, or_imp, forall_and]

@[simp]
theorem eachLine_separate_cons {rest : Script} : EachLine P (.separate :: rest) ↔ EachLine P rest := by
  simp [EachLine]

@[simp]
theorem eachLine_push_cons {token : String} {rest : Script} : EachLine P (.push token :: rest) ↔ EachLine P rest := by
  simp [EachLine]

@[simp]
theorem eachLine_pop_cons {rest : Script} : EachLine P (.pop :: rest) ↔ EachLine P rest := by
  simp [EachLine]

@[simp]
theorem eachLine_lines {texts : List String} : EachLine P (lines texts) ↔ ∀ text ∈ texts, P text := by
  simp [EachLine, lines]

@[simp]
theorem eachLine_flatMap {α : Type} {list : List α} {f : α → Script} :
    EachLine P (list.flatMap f) ↔ ∀ x ∈ list, EachLine P (f x) := by
  simp only [EachLine, List.mem_flatMap]
  exact ⟨fun h x hx text hmem => h text ⟨x, hx, hmem⟩, fun h text ⟨x, hx, hmem⟩ => h x hx text hmem⟩

/-- The lines of a block are those inside and its braces. -/
theorem eachLine_block {inner : Script} : EachLine P (block inner) ↔ P "\x7b" ∧ EachLine P inner ∧ P "\x7d" := by
  simp [block_eq]

theorem EachLine.mono {script : Script} (h : EachLine P script) (hPQ : ∀ text, P text → Q text) : EachLine Q script :=
  fun text hmem => hPQ text (h text hmem)

/-- What holds of every line and of a blank one holds of the wording. -/
theorem EachLine.wording {script : Script} (h : EachLine P script) (hblank : P "") (opened : Bool) :
    ∀ text ∈ script.wording opened, P text := by
  intro text hmem
  rw [← map_text_rows 0, List.mem_map] at hmem
  obtain ⟨r, hr, rfl⟩ := hmem
  rcases mem_rows hr with hempty | hline
  · exact hempty ▸ hblank
  · exact h _ hline

end EachLine

end Script

/-- The lines of what a nested script prints on a fresh emitter, without the tabs in front, are its wording and a blank
line behind the last line feed. -/
theorem Emitter.unindentedLines_run_fresh {script : Script} (h : script.Nested)
    (hlines : script.EachLine Text.SingleLine) :
    Text.unindentedLines (({} : Emitter).run script).text = (script.wording true).map Text.unindent ++ [""] := by
  have hsingle : ∀ r ∈ script.rows 0 true, Text.SingleLine r.text := fun r hr =>
    hlines.wording (by decide) true r.text (Script.text_mem_wording hr)
  have hprinted : ∀ text ∈ (script.rows 0 true).map Row.print, Text.SingleLine text := by
    intro text hmem
    obtain ⟨r, hr, rfl⟩ := List.mem_map.mp hmem
    exact Row.singleLine_print (hsingle r hr)
  have hunindent : (script.rows 0 true).map (Text.unindent ∘ Row.print) =
      (script.rows 0 true).map (Text.unindent ∘ Row.text) :=
    List.map_congr_left fun r hr => Row.unindent_print (hsingle r hr)
  rw [run_fresh h, Text.unindentedLines, Script.sheet, Text.lines_unlines hprinted, List.map_append, List.map_map,
    hunindent, ← Script.map_text_rows 0, List.map_map]
  rfl

/-! ## Lines in print -/

namespace Emitter

open Text

/-- The lines that a nested script prints are empty, or tabs and what is a line of one of its texts. -/
theorem mem_lines_run_fresh {script : Script} (h : script.Nested) {line : String}
    (hline : line ∈ lines (({} : Emitter).run script).text) :
    line = "" ∨ ∃ count text, .line text ∈ script ∧ ∃ piece ∈ lines text, line = tabs count ++ piece := by
  rw [run_fresh h, Script.sheet, lines_unlines_flatMap, List.mem_append, List.mem_singleton] at hline
  rcases hline with hline | hempty
  · obtain ⟨printed, hprinted, hline⟩ := List.mem_flatMap.mp hline
    obtain ⟨r, hr, rfl⟩ := List.mem_map.mp hprinted
    rw [Row.print, lines_indented (singleLine_tabs r.depth)] at hline
    obtain ⟨piece, hpiece, rfl⟩ := List.mem_map.mp hline
    by_cases hempty : piece = ""
    · exact .inl (if_pos hempty)
    · rw [if_neg hempty]
      rcases Script.mem_rows hr with hblank | htext
      · rw [hblank, lines_empty, List.mem_singleton] at hpiece
        exact absurd hpiece hempty
      · exact .inr ⟨r.depth, r.text, htext, piece, hpiece, rfl⟩
  · exact .inl hempty

/-- A line of a nested script's text is printed with some tabs in front, unless it is empty. -/
theorem exists_mem_lines_run_fresh {script : Script} (h : script.Nested) {text piece : String}
    (htext : .line text ∈ script) (hpiece : piece ∈ lines text) (hne : piece ≠ "") :
    ∃ count, tabs count ++ piece ∈ lines (({} : Emitter).run script).text := by
  obtain ⟨r, hr, rfl⟩ := Script.exists_mem_rows htext 0 true
  refine ⟨r.depth, ?_⟩
  rw [run_fresh h, Script.sheet, lines_unlines_flatMap]
  refine List.mem_append_left _ (List.mem_flatMap.mpr ⟨r.print, List.mem_map_of_mem hr, ?_⟩)
  rw [Row.print, lines_indented (singleLine_tabs r.depth)]
  exact List.mem_map.mpr ⟨piece, hpiece, if_neg hne⟩

end Emitter

end GeometrySource

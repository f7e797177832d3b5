import GeometrySource.Proofs.Layout.Nesting

/-!
# Rows

A script that writes whole lines under tabs prints a sheet of rows, each a text with some tabs in front. The rows of a
script can be read off its steps: whether `separate` leaves a row depends on the last line that the script has written,
and on the place where it starts if it has written none.
-/

namespace GeometrySource

/-- A line of a script, with the number of tabs that stand in front of it. -/
structure Row where
  depth : Nat
  text : String
  deriving DecidableEq, Repr

/-- Some tabs. -/
def Text.tabs (count : Nat) : String :=
  String.join (List.replicate count Script.tab)

/-- A row in print. -/
def Row.print (r : Row) : String :=
  Text.indented (Text.tabs r.depth) r.text

@[simp]
theorem Text.tabs_zero : tabs 0 = "" := rfl

@[simp]
theorem Row.print_zero (text : String) : Row.print ⟨0, text⟩ = text := by
  simp [print]

namespace Script

/-- Whether a line opens a block. -/
def opensBlock (text : String) : Bool :=
  text.toList.getLast? = some '\x7b'

/-- The rows of a script that starts with a number of tabs, where `opened` says whether `separate` leaves nothing at
first. -/
def rows : Nat → Bool → Script → List Row
  | _, _, [] => []
  | depth, _, .line text :: rest => ⟨depth, text⟩ :: rows depth (opensBlock text) rest
  | depth, true, .separate :: rest => rows depth true rest
  | depth, false, .separate :: rest => ⟨depth, ""⟩ :: rows depth false rest
  | depth, opened, .push _ :: rest => rows (depth + 1) opened rest
  | depth, opened, .pop :: rest => rows (depth - 1) opened rest
  | depth, opened, .write _ :: rest => rows depth opened rest

/-- The rows of a script, in print. -/
def sheet (opened : Bool) (script : Script) : String :=
  Text.unlines ((script.rows 0 opened).map Row.print)

/-- Whether `separate` leaves nothing behind a script. -/
def openedAfter (opened : Bool) : Script → Bool
  | [] => opened
  | .line text :: rest => openedAfter (opensBlock text) rest
  | .separate :: rest => openedAfter opened rest
  | .push _ :: rest => openedAfter opened rest
  | .pop :: rest => openedAfter opened rest
  | .write _ :: rest => openedAfter opened rest

/-- The rows of a script go on behind another one, with the tabs that this one leaves. -/
theorem rows_append {first : Script} {own after : Nat} (h : ownDepth? own first = some after) (depth : Nat)
    (opened : Bool) (second : Script) :
    rows (depth + own) opened (first ++ second) =
      rows (depth + own) opened first ++ rows (depth + after) (openedAfter opened first) second := by
  induction first generalizing own opened with
  | nil =>
    rw [ownDepth?, Option.some.injEq] at h
    rw [h]
    rfl
  | cons step rest ih =>
    cases step with
    | write text => exact ih h opened
    | line text => exact congrArg (⟨depth + own, text⟩ :: ·) (ih h (opensBlock text))
    | push token =>
      have hown : ownDepth? (own + 1) rest = some after := h
      exact ih hown opened
    | pop =>
      cases own with
      | zero => simp [ownDepth?] at h
      | succ own =>
        have hown : ownDepth? own rest = some after := h
        exact ih hown opened
    | separate =>
      cases opened with
      | true => exact ih h true
      | false => exact congrArg (⟨depth + own, ""⟩ :: ·) (ih h false)

/-- Behind a nested script the rows go on with the tabs of its start. -/
theorem Nested.rows_append {first : Script} (h : first.Nested) (depth : Nat) (opened : Bool) (second : Script) :
    rows depth opened (first ++ second) = rows depth opened first ++ rows depth (openedAfter opened first) second :=
  Script.rows_append h.level depth opened second

/-- The rows of lines are these lines. -/
@[simp]
theorem rows_lines (depth : Nat) (opened : Bool) (texts : List String) :
    rows depth opened (lines texts) = texts.map fun text => ⟨depth, text⟩ := by
  induction texts generalizing opened with
  | nil => rfl
  | cons text rest ih => exact congrArg (⟨depth, text⟩ :: ·) (ih (opensBlock text))

/-- The rows of a block are its braces and, one tab further in, what is inside. -/
theorem rows_block {inner : Script} (h : inner.Nested) (depth : Nat) (opened : Bool) :
    rows depth opened (block inner) =
      ⟨depth, "\x7b"⟩ :: (rows (depth + 1) true inner ++ [⟨depth, "\x7d"⟩]) := by
  have hopens : opensBlock "\x7b" = true := by decide
  rw [block_eq, rows, rows, h.rows_append, hopens]
  rfl

/-- Without `separate` the rows of a script do not depend on what was written before. -/
theorem rows_of_not_separate {script : Script} (h : Step.separate ∉ script) (depth : Nat) (opened opened' : Bool) :
    rows depth opened script = rows depth opened' script := by
  induction script generalizing depth opened opened' with
  | nil => rfl
  | cons step rest ih =>
    obtain ⟨hstep, hrest⟩ := not_or.mp (List.mem_cons.not.mp h)
    cases step with
    | line text => rfl
    | separate => exact absurd rfl hstep
    | _ => exact ih hrest _ _ _

/-- Without `separate` a script prints what it prints anywhere. -/
theorem sheet_of_not_separate {script : Script} (h : Step.separate ∉ script) (opened : Bool) :
    sheet opened script = sheet true script := by
  rw [sheet, sheet, rows_of_not_separate h 0 opened true]

@[simp]
theorem separate_mem_lines (texts : List String) : Step.separate ∉ lines texts := by
  simp [lines]

@[simp]
theorem separate_mem_block (inner : Script) : Step.separate ∈ block inner ↔ Step.separate ∈ inner := by
  simp [block_eq]

/-- Behind a nested script the sheet goes on. -/
theorem Nested.sheet_append {first : Script} (h : first.Nested) (opened : Bool) (second : Script) :
    sheet opened (first ++ second) = sheet opened first ++ sheet (openedAfter opened first) second := by
  rw [sheet, h.rows_append, List.map_append, Text.unlines_append]
  rfl

/-- A nested script without `separate`, which prints the same anywhere. -/
structure Plain (script : Script) : Prop where
  nested : script.Nested
  steady : Step.separate ∉ script

/-- Plain scripts one after another are plain. -/
theorem Plain.append {first second : Script} (h₁ : first.Plain) (h₂ : second.Plain) : Plain (first ++ second) :=
  ⟨(nested_append h₁.nested).mpr h₂.nested, fun hmem => (List.mem_append.mp hmem).elim h₁.steady h₂.steady⟩

/-- A plain script prints what it prints anywhere. -/
theorem Plain.sheet_eq {script : Script} (h : script.Plain) (opened : Bool) : sheet opened script = sheet true script :=
  sheet_of_not_separate h.steady opened

/-- Behind a nested script a plain script prints what it prints anywhere. -/
theorem Nested.sheet_append_plain {first second : Script} (h₁ : first.Nested) (h₂ : second.Plain) (opened : Bool) :
    sheet opened (first ++ second) = sheet opened first ++ sheet true second := by
  rw [h₁.sheet_append, h₂.sheet_eq]

/-- Every row is a line of the script or blank. -/
theorem mem_rows {depth : Nat} {opened : Bool} {script : Script} {r : Row} (h : r ∈ script.rows depth opened) :
    r.text = "" ∨ Step.line r.text ∈ script := by
  induction script generalizing depth opened with
  | nil => simp [rows] at h
  | cons step rest ih =>
    have hlater : ∀ {depth : Nat} {opened : Bool}, r ∈ rows depth opened rest →
        r.text = "" ∨ Step.line r.text ∈ step :: rest :=
      fun hr => (ih hr).imp_right (List.mem_cons_of_mem _)
    cases step with
    | write text => exact hlater h
    | line text =>
      rcases List.mem_cons.mp h with rfl | hr
      · exact Or.inr List.mem_cons_self
      · exact hlater hr
    | push token => exact hlater h
    | pop => exact hlater h
    | separate =>
      cases opened with
      | true => exact hlater h
      | false =>
        rcases List.mem_cons.mp h with rfl | hr
        · exact Or.inl rfl
        · exact hlater hr

/-- Every line of a script is the text of a row. -/
theorem exists_mem_rows {script : Script} {text : String} (h : .line text ∈ script) (depth : Nat) (opened : Bool) :
    ∃ r ∈ rows depth opened script, r.text = text := by
  induction script generalizing depth opened with
  | nil => cases h
  | cons step rest ih =>
    rcases List.mem_cons.mp h with rfl | hrest
    · exact ⟨_, List.mem_cons_self, rfl⟩
    · cases step with
      | line other =>
        obtain ⟨r, hr, htext⟩ := ih hrest depth (opensBlock other)
        exact ⟨r, List.mem_cons_of_mem _ hr, htext⟩
      | separate =>
        cases opened with
        | true => exact ih hrest depth true
        | false =>
          obtain ⟨r, hr, htext⟩ := ih hrest depth false
          exact ⟨r, List.mem_cons_of_mem _ hr, htext⟩
      | _ => exact ih hrest _ _

end Script

/-- Characters that all have the same tokens are a text under one margin. -/
theorem Ink.typeset_uniform (tokens : List String) (text : String) :
    typeset (text.toList.map fun c => ⟨c, tokens⟩) = Text.indented (String.join tokens) text := by
  have hplain : ∀ cs : List Char, typeset (cs.map fun c => ⟨c, []⟩) = String.ofList cs := by
    intro cs
    induction cs using List.reverseRecOn with
    | nil => rfl
    | append_singleton init c ih =>
      rw [List.map_append, List.map_singleton]
      by_cases hc : c = '\n'
      · rw [typeset_concat_lineFeed _ hc, ih, hc]
        simp
      by_cases hs : Text.Ended (written (init.map fun c => (⟨c, []⟩ : Ink)))
      · rw [typeset_concat_of_ended hs hc, ih]
        simp
      · rw [typeset_concat_of_not_ended hs hc, ih]
        simp
  have hunder : (text.toList.map fun c => (⟨c, tokens⟩ : Ink)) =
      (text.toList.map fun c => (⟨c, []⟩ : Ink)).map (under tokens) := by
    simp [under]
  rw [hunder, typeset_map_under tokens _ (by simp), hplain, String.ofList_toList]

namespace Emitter

/-- A line that is written at the start of a line stands under the margin. -/
theorem text_writeLine {e : Emitter} (hended : Text.Ended e.text) (hline : e.atLineStart = true) (text : String) :
    (e.writeLine text).text = e.text ++ Text.indented e.margin text ++ "\n" := by
  have hfollows := (follows_run hended hline [.line text]).text
  have hink : (({ tokens := e.indents.reverse, opened := e.opened } : Draft).run [.line text]).ink =
      (text ++ "\n").toList.map fun c => ⟨c, e.indents.reverse⟩ := rfl
  rw [hink, Ink.typeset_uniform, Text.indented_append_lineFeed_last, ← String.append_assoc] at hfollows
  exact hfollows

/-- After a line, `separate` leaves nothing exactly if the line opens a block. -/
theorem opened_writeLine {e : Emitter} (hended : Text.Ended e.text) (hline : e.atLineStart = true) (text : String) :
    (e.writeLine text).opened = Script.opensBlock text := by
  have hskips := (follows_run hended hline [.line text]).skips hended
  have hink : (({ tokens := e.indents.reverse, opened := e.opened } : Draft).run [.line text]).ink =
      (text ++ "\n").toList.map fun c => ⟨c, e.indents.reverse⟩ := rfl
  have hwritten : Ink.written ((text ++ "\n").toList.map fun c => ⟨c, e.indents.reverse⟩) = text ++ "\n" := by
    simp [Ink.written, Function.comp_def]
  rw [Draft.skips, hink, hwritten, if_neg (by simp)] at hskips
  rw [Bool.eq_iff_iff, Script.opensBlock, decide_eq_true_iff, ← Text.endsIn_append_lineFeed, ← hskips]
  rfl

/-- A blank line does not open a block. -/
theorem opened_endLine {e : Emitter} (hended : Text.Ended e.text) : e.endLine.opened = false := by
  have hends : ¬Text.endsIn (e.text ++ "\n") "\x7b\n" = true := by
    rw [Text.endsIn_append_lineFeed]
    intro hb
    exact absurd ((Text.ended_iff _).mp hended _ hb) (by decide)
  have htext : e.endLine.text = e.text ++ "\n" := by simp [endLine, ← String.toList_inj]
  rw [opened, htext]
  simpa using hends

/-- A tabular script that starts at the start of a line, under some tabs, prints its rows. -/
theorem text_run_rows {script : Script} (h : script.Tabular) {e : Emitter} (hended : Text.Ended e.text)
    (hline : e.atLineStart = true) {depth : Nat} (hindents : e.indents = List.replicate depth Script.tab) :
    (e.run script).text = e.text ++ Text.unlines ((script.rows depth e.opened).map Row.print) := by
  induction script generalizing e depth with
  | nil => simp [Script.rows]
  | cons step rest ih =>
    have hrest : Script.Tabular rest := (List.forall_mem_cons.mp h).2
    cases step with
    | write text => exact ((List.forall_mem_cons.mp h).1).elim
    | line text =>
      have hmargin : e.margin = Text.tabs depth := by rw [margin, hindents, List.reverse_replicate, Text.tabs]
      have htext := text_writeLine hended hline text
      have hended' : Text.Ended (e.writeLine text).text := htext ▸ Text.ended_append_lineFeed _
      have hindents' : (e.writeLine text).indents = List.replicate depth Script.tab := by
        rw [← hindents]
        exact indents_write e text
      rw [run_cons, perform, ih hrest hended' rfl hindents', htext, opened_writeLine hended hline, hmargin]
      simp only [Script.rows, List.map_cons, Text.unlines_cons, Row.print, String.append_assoc]
    | push token =>
      have htoken : token = Script.tab := (List.forall_mem_cons.mp h).1
      have hindents' : (e.push token).indents = List.replicate (depth + 1) Script.tab := by
        rw [push, hindents, htoken, List.replicate_succ]
      exact ih (e := e.push token) hrest hended hline hindents'
    | pop =>
      have hindents' : e.pop.indents = List.replicate (depth - 1) Script.tab := by
        rw [pop, hindents, List.tail_replicate]
      exact ih (e := e.pop) hrest hended hline hindents'
    | separate =>
      rw [run_cons, perform, separate_eq]
      cases hopened : e.opened with
      | true =>
        simp only [if_true, Script.rows]
        rw [ih hrest hended hline hindents, hopened]
      | false =>
        have htext : e.endLine.text = e.text ++ "\n" := by simp [endLine, ← String.toList_inj]
        have hended' : Text.Ended e.endLine.text := htext ▸ Text.ended_append_lineFeed _
        simp only [Bool.false_eq_true, if_false, Script.rows]
        rw [ih hrest hended' rfl hindents, opened_endLine hended, htext]
        simp [Row.print, String.append_assoc]

/-- A nested script prints its rows at the start of any line, under the margin of the place. -/
theorem text_run_sheet {script : Script} (h : script.Nested) {e : Emitter} (hended : Text.Ended e.text)
    (hline : e.atLineStart = true) :
    (e.run script).text = e.text ++ Text.indented e.margin (script.sheet e.opened) := by
  have hplace : ∀ opened : Bool, ∃ plain : Emitter, Text.Ended plain.text ∧ plain.atLineStart = true ∧
      plain.indents = List.replicate 0 Script.tab ∧ plain.opened = opened := by
    intro opened
    cases opened with
    | true => exact ⟨{}, by decide⟩
    | false => exact ⟨{ text := "\n" }, by decide⟩
  obtain ⟨plain, hended', hline', hindents, hopened⟩ := hplace e.opened
  have hprinted := (run_printed hended' hline' h.popsOwn h.pushesSingleLines).1
  have hmargin : plain.margin = "" := by simp [margin, hindents]
  rw [text_run_rows h.tabular hended' hline' hindents, hmargin, Text.indented_without_margin,
    String.append_right_inj, hopened] at hprinted
  rw [(run_printed hended hline h.popsOwn h.pushesSingleLines).1, ← hprinted, Script.sheet]

/-- A nested script prints its rows on a fresh emitter and leaves nothing else behind. -/
theorem run_fresh {script : Script} (h : script.Nested) : ({} : Emitter).run script = { text := script.sheet true } := by
  have htext := text_run_sheet h (e := {}) Text.ended_empty rfl
  have hmargin : ({} : Emitter).margin = "" := rfl
  rw [hmargin, Text.indented_without_margin, String.empty_append] at htext
  rw [Emitter.mk.injEq]
  exact ⟨htext, indents_run_nested h {}, atLineStart_run h.tabular rfl⟩

end Emitter

end GeometrySource

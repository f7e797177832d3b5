import GeometrySource.Proofs.Layout.Relocation

/-!
# Nesting

Scripts of whole lines whose tabs come and go in pairs. All that declarations are made of is such a script: it needs
nothing from the stack that it finds, leaves the stack as it was, and ends at the start of a line.
-/

namespace GeometrySource

namespace Script

/-- Whether a script writes whole lines only and adds no token but tabs. -/
def Tabular (script : Script) : Prop :=
  ∀ step ∈ script, match step with
    | .write _ => False
    | .push token => token = tab
    | _ => True

/-- A script of whole lines under tabs that removes exactly the tabs that it adds. -/
structure Nested (script : Script) : Prop where
  tabular : script.Tabular
  level : script.ownDepth? 0 = some 0

/-! ## How own tokens are counted -/

/-- Scripts one after another count one after another. -/
theorem ownDepth?_append (depth : Nat) (first second : Script) :
    ownDepth? depth (first ++ second) = (ownDepth? depth first).bind fun d => ownDepth? d second := by
  induction first generalizing depth with
  | nil => rfl
  | cons step rest ih =>
    cases step with
    | pop =>
      cases depth with
      | zero => rfl
      | succ depth => exact ih depth
    | _ => exact ih _

/-- Tokens that were there before do not matter to a script that removes only its own. -/
theorem ownDepth?_add {script : Script} {depth after : Nat} (h : ownDepth? depth script = some after) (more : Nat) :
    ownDepth? (depth + more) script = some (after + more) := by
  induction script generalizing depth with
  | nil =>
    rw [ownDepth?, Option.some.injEq] at h
    rw [ownDepth?, h]
  | cons step rest ih =>
    cases step with
    | pop =>
      cases depth with
      | zero => simp [ownDepth?] at h
      | succ depth =>
        rw [Nat.add_right_comm]
        exact ih h
    | push token =>
      rw [ownDepth?, Nat.add_right_comm]
      exact ih h
    | _ => exact ih h

/-- A nested script counts nothing, whatever was there. -/
theorem Nested.ownDepth? {script : Script} (h : script.Nested) (depth : Nat) : ownDepth? depth script = some depth := by
  have hadd := ownDepth?_add h.level depth
  rwa [Nat.zero_add] at hadd

/-- A nested script removes no token that it has not added. -/
theorem Nested.popsOwn {script : Script} (h : script.Nested) : script.PopsOwn := by
  rw [PopsOwn, h.level]
  rfl

/-- A nested script adds no token with a line feed. -/
theorem Nested.pushesSingleLines {script : Script} (h : script.Nested) : script.PushesSingleLines := by
  intro token ht
  have htoken : token = tab := h.tabular _ ht
  rw [htoken]
  decide

/-! ## How nested scripts are put together -/

theorem tabular_append {first second : Script} : Tabular (first ++ second) ↔ first.Tabular ∧ second.Tabular := by
  simp only [Tabular, List.mem_append, or_imp, forall_and]

@[simp]
theorem nested_nil : Nested [] :=
  ⟨by simp [Tabular], rfl⟩

/-- Behind a nested script, what follows has to be nested. -/
@[simp]
theorem nested_append {first second : Script} (h : first.Nested) : Nested (first ++ second) ↔ second.Nested := by
  have hlevel : Script.ownDepth? 0 (first ++ second) = Script.ownDepth? 0 second := by
    rw [ownDepth?_append, h.level, Option.bind_some]
  constructor
  · intro ⟨ht, hl⟩
    exact ⟨(tabular_append.mp ht).2, hlevel ▸ hl⟩
  · intro ⟨ht, hl⟩
    exact ⟨tabular_append.mpr ⟨h.tabular, ht⟩, hlevel ▸ hl⟩

/-- A line in front is of no account. -/
@[simp]
theorem nested_line_cons {text : String} {rest : Script} : Nested (.line text :: rest) ↔ rest.Nested := by
  have hline : Nested [.line text] := ⟨by simp [Tabular], rfl⟩
  exact nested_append hline

@[simp]
theorem nested_separate_cons {rest : Script} : Nested (.separate :: rest) ↔ rest.Nested := by
  have hseparate : Nested [.separate] := ⟨by simp [Tabular], rfl⟩
  exact nested_append hseparate

/-- Lines are nested. -/
@[simp]
theorem nested_lines (texts : List String) : (lines texts).Nested := by
  induction texts with
  | nil => exact nested_nil
  | cons text rest ih => exact nested_line_cons.mpr ih

/-- Nested scripts for the entries of a list are nested one after another. -/
theorem nested_flatMap {α : Type} {list : List α} {f : α → Script} (h : ∀ x ∈ list, (f x).Nested) :
    Nested (list.flatMap f) := by
  induction list with
  | nil => exact nested_nil
  | cons x rest ih =>
    rw [List.flatMap_cons, nested_append (h x List.mem_cons_self)]
    exact ih fun y hy => h y (List.mem_cons_of_mem _ hy)

/-- A block is its braces, a tab, and what is inside. -/
theorem block_eq (inner : Script) :
    block inner = .line "\x7b" :: .push tab :: (inner ++ [.pop, .line "\x7d"]) := by
  simp [block, openBlock, closeBlock, indentWith, dedentWith, lineOf?]

/-- A block around a nested script is nested. -/
@[simp]
theorem nested_block {inner : Script} (h : inner.Nested) : (block inner).Nested := by
  rw [block_eq, nested_line_cons]
  refine ⟨?_, ?_⟩
  · refine List.forall_mem_cons.mpr ⟨rfl, tabular_append.mpr ⟨h.tabular, ?_⟩⟩
    simp [Tabular]
  · rw [Script.ownDepth?, ownDepth?_append, h.ownDepth?]
    rfl

@[simp]
theorem nested_body (statements : List String) : (body statements).Nested :=
  nested_block (nested_lines statements)

/-- A region around a nested script is nested. -/
@[simp]
theorem nested_region (name : String) {inner : Script} (h : inner.Nested) : (region name inner).Nested := by
  simp [region, openRegion, closeRegion, h]

end Script

namespace Emitter

/-! ## What scripts do to the stack and to the line -/

theorem indents_write (e : Emitter) (text : String) : (e.write text).indents = e.indents := by
  have key : ∀ (cs : List Char) (e : Emitter), (cs.foldl put e).indents = e.indents := by
    intro cs
    induction cs with
    | nil => intro e; rfl
    | cons c rest ih =>
      intro e
      rw [List.foldl_cons, ih, put]
      split
      · rfl
      · split <;> rfl
  exact key text.toList e

theorem indents_separate (e : Emitter) : e.separate.indents = e.indents := by
  rw [separate_eq]
  split <;> rfl

/-- A script that removes only its own tokens never reaches those that were there, and leaves as many of its own as are
counted. -/
theorem indents_run {script : Script} {own below : List String} {after : Nat} {e : Emitter}
    (h : script.ownDepth? own.length = some after) (he : e.indents = own ++ below) :
    ∃ own', own'.length = after ∧ (e.run script).indents = own' ++ below := by
  induction script generalizing own e with
  | nil => exact ⟨own, by simpa [Script.ownDepth?] using h, he⟩
  | cons step rest ih =>
    cases step with
    | write text => exact ih (e := e.write text) h ((indents_write e text).trans he)
    | line text => exact ih (e := e.writeLine text) h ((indents_write e text).trans he)
    | push token =>
      have hown : Script.ownDepth? (token :: own).length rest = some after := h
      exact ih (e := e.push token) hown (congrArg (token :: ·) he)
    | pop =>
      cases own with
      | nil => simp [Script.ownDepth?] at h
      | cons token own => exact ih (e := e.pop) h (congrArg List.tail he)
    | separate => exact ih (e := e.separate) h ((indents_separate e).trans he)

/-- A nested script leaves the stack as it was. -/
theorem indents_run_nested {script : Script} (h : script.Nested) (e : Emitter) : (e.run script).indents = e.indents := by
  have hlevel : script.ownDepth? ([] : List String).length = some 0 := h.level
  obtain ⟨own, hlength, hindents⟩ := indents_run hlevel (List.nil_append e.indents).symm
  rw [hindents, List.length_eq_zero_iff.mp hlength, List.nil_append]

/-- A script of whole lines that begins at the start of a line ends at the start of one. -/
theorem atLineStart_run {script : Script} (h : script.Tabular) {e : Emitter} (he : e.atLineStart = true) :
    (e.run script).atLineStart = true := by
  induction script generalizing e with
  | nil => exact he
  | cons step rest ih =>
    obtain ⟨hstep, hrest⟩ := List.forall_mem_cons.mp h
    refine ih hrest ?_
    cases step with
    | write text => exact hstep.elim
    | line text => rfl
    | push token => exact he
    | pop => exact he
    | separate =>
      rw [perform, separate_eq]
      split
      · exact he
      · rfl

end Emitter

end GeometrySource

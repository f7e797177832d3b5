import GeometrySource.Proofs.Layout.Growth
import GeometrySource.Proofs.Layout.Writing

/-!
# Where lines start

An emitter does not look at its text to know whether a line has been begun: it has a flag. The flag agrees with the text,
and every step keeps this, also under tokens with line feeds, since a margin is never put down without a character behind
it. So separating leaves the start of a line also where it writes nothing.
-/

namespace GeometrySource.Emitter

open Text

variable {e : Emitter}

/-- Whether the flag agrees with the text: a line starts exactly where the text is empty or has a line feed last. -/
def Anchored (e : Emitter) : Prop :=
  e.atLineStart = true ↔ Ended e.text

theorem anchored_fresh : Anchored {} :=
  iff_of_true rfl ended_empty

theorem anchored_endLine (e : Emitter) : e.endLine.Anchored := by
  refine iff_of_true rfl ?_
  rw [endLine, String.push_eq_append]
  exact ended_append_lineFeed e.text

/-- Behind a character the flag agrees with the text, whatever was there before. -/
theorem anchored_put (e : Emitter) (c : Char) : (e.put c).Anchored := by
  by_cases hc : c = '\n'
  · rw [put, if_pos hc]
    exact e.anchored_endLine
  · have hinside : ∀ text : String, ¬Ended (text.push c) := by
      intro text hended
      exact hc ((ended_iff _).mp hended c (by simp))
    rw [put, if_neg hc]
    split
    · exact iff_of_false Bool.false_ne_true (hinside (e.text ++ e.margin))
    · rename_i hline
      exact iff_of_false hline (hinside e.text)

theorem Anchored.foldl_put (h : e.Anchored) (cs : List Char) : (cs.foldl put e).Anchored := by
  induction cs generalizing e with
  | nil => exact h
  | cons c rest ih => exact ih (e.anchored_put c)

/-- Writing keeps the agreement; where nothing is written there has to be one already. -/
theorem Anchored.write (h : e.Anchored) (text : String) : (e.write text).Anchored :=
  h.foldl_put text.toList

/-- A step keeps the agreement. -/
theorem Anchored.perform (h : e.Anchored) (step : Step) : (e.perform step).Anchored := by
  cases step with
  | write text => exact h.write text
  | line text => exact anchored_endLine _
  | push token => exact h
  | pop => exact h
  | separate =>
    rw [Emitter.perform, separate]
    split
    · exact h
    · exact anchored_endLine _

/-- A run keeps the agreement. -/
theorem Anchored.run (h : e.Anchored) (script : Script) : (e.run script).Anchored := by
  induction script generalizing e with
  | nil => exact h
  | cons step rest ih => exact ih (h.perform step)

/-! ## Behind a separation -/

/-- Separating ends the line, or there is nothing yet, or a brace has just ended its line. -/
theorem Anchored.atLineStart_separate (h : e.Anchored) : e.separate.atLineStart = true := by
  rw [separate]
  split
  · rename_i hopened
    apply h.mpr
    rcases hopened with hempty | hbrace
    · exact Or.inl hempty
    · obtain ⟨before, htext, -⟩ := (endsIn_brace_lineFeed e.text).mp hbrace
      rw [htext]
      exact ended_append_lineFeed before
  · rfl

theorem Anchored.ended_separate (h : e.Anchored) : Ended e.separate.text :=
  (h.perform .separate).mp h.atLineStart_separate

theorem margin_separate (e : Emitter) : e.separate.margin = e.margin := by
  rw [separate]
  split
  · rfl
  · rfl

/-- At the start of a line, the margin and nothing else is put in front of what the line begins with. -/
theorem startsWith_writeLine (hline : e.atLineStart = true) {head : String} (hsingle : SingleLine head) (hne : head ≠ "")
    (rest : String) : StartsWith (e.text ++ e.margin ++ head) (e.writeLine (head ++ rest)).text := by
  have hhead : (e.write head).text = e.text ++ e.margin ++ head := by
    rw [write_of_singleLine hsingle, writePart, if_neg hne, if_pos hline]
  rw [← hhead, writeLine, write_append]
  exact ((e.write head).startsWith_write rest).trans (startsWith_endLine _)

/-- A line that is written behind a separation begins on its own, whatever follows. -/
theorem Anchored.startsWith_line (h : e.Anchored) {head : String} (hsingle : SingleLine head) (hne : head ≠ "")
    (rest : String) (script : Script) :
    StartsWith (e.separate.text ++ e.margin ++ head) (e.run (.separate :: .line (head ++ rest) :: script)).text := by
  rw [run_cons, run_cons, ← margin_separate]
  exact (startsWith_writeLine h.atLineStart_separate hsingle hne rest).trans (startsWith_run _ script)

end GeometrySource.Emitter

import GeometrySource.Layout.Script
import GeometrySource.Proofs.Text.Opening

/-!
# Emitters only grow

No step takes back what has been written: the text that an emitter had stays in front of all that comes. A script with a
line at its end leaves more text than there was, and ends at the start of a line, from wherever it began.
-/

namespace GeometrySource.Emitter

open Text

theorem startsWith_push (text : String) (c : Char) : StartsWith text (text.push c) := by
  rw [String.push_eq_append]
  exact startsWith_append text _

theorem startsWith_put (e : Emitter) (c : Char) : StartsWith e.text (e.put c).text := by
  unfold put
  split
  · exact startsWith_push e.text '\n'
  · split
    · exact (startsWith_append e.text e.margin).trans (startsWith_push _ c)
    · exact startsWith_push e.text c

theorem startsWith_foldl_put (e : Emitter) (cs : List Char) : StartsWith e.text (cs.foldl put e).text := by
  induction cs generalizing e with
  | nil => exact List.prefix_rfl
  | cons c rest ih => exact (e.startsWith_put c).trans (ih (e.put c))

theorem startsWith_write (e : Emitter) (text : String) : StartsWith e.text (e.write text).text :=
  e.startsWith_foldl_put text.toList

theorem startsWith_endLine (e : Emitter) : StartsWith e.text e.endLine.text :=
  e.startsWith_write "\n"

/-- A step takes back nothing. -/
theorem startsWith_perform (e : Emitter) (step : Step) : StartsWith e.text (e.perform step).text := by
  cases step with
  | write text => exact e.startsWith_write text
  | line text => exact (e.startsWith_write text).trans (startsWith_endLine _)
  | push token => exact List.prefix_rfl
  | pop => exact List.prefix_rfl
  | separate =>
    rw [perform, separate]
    split
    · exact List.prefix_rfl
    · exact (e.startsWith_write "").trans (startsWith_endLine _)

/-- A run takes back nothing. -/
theorem startsWith_run (e : Emitter) (script : Script) : StartsWith e.text (e.run script).text := by
  induction script generalizing e with
  | nil => exact List.prefix_rfl
  | cons step rest ih => exact (e.startsWith_perform step).trans (ih (e.perform step))

/-- A line at the end of a script is a line feed at the end of the text. -/
theorem text_run_concat_line (e : Emitter) (script : Script) (text : String) :
    (e.run (script ++ [.line text])).text = ((e.run script).write text).text.push '\n' := by
  rw [run_append]
  rfl

theorem atLineStart_run_concat_line (e : Emitter) (script : Script) (text : String) :
    (e.run (script ++ [.line text])).atLineStart = true := by
  rw [run_append]
  rfl

/-- After a script with a line at its end there is more text than before. -/
theorem text_ne_run_concat_line (e : Emitter) (script : Script) (text : String) :
    e.text ≠ (e.run (script ++ [.line text])).text := by
  intro h
  have hlength := ((e.startsWith_run script).trans ((e.run script).startsWith_write text)).length_le
  rw [h, text_run_concat_line, String.toList_push, List.length_append, List.length_singleton] at hlength
  exact absurd hlength (Nat.not_succ_le_self _)

end GeometrySource.Emitter

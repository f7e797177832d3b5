import GeometrySource.Layout.Script
import GeometrySource.Proofs.Text.Indentation

/-!
# Drafts

A draft is what an emitter would have to remember if it put down no indentation: every written character with the
indentation tokens of that moment. `typeset` cuts the characters into lines and puts in front of each line that is not
empty the tokens of its first character. An emitter keeps a flag and its stack only, and its text is the typeset draft:
`Follows` is the relation between the two that every step keeps.
-/

namespace GeometrySource

/-- A written character, with the indentation tokens of that moment, outermost first. -/
structure Ink where
  char : Char
  tokens : List String
  deriving DecidableEq, Repr

namespace Ink

/-- The characters that were written, without any indentation. -/
def written (ink : List Ink) : String :=
  String.ofList (ink.map Ink.char)

/-- The lines of what was written, cut at every line feed. -/
def lines (ink : List Ink) : List (List Ink) :=
  ink.splitOnP fun i => i.char = '\n'

/-- A line in print: the tokens of its first character, and the characters. An empty line stays empty. -/
def setLine : List Ink → String
  | [] => ""
  | first :: rest => String.join first.tokens ++ written (first :: rest)

/-- What was written, in print. -/
def typeset (ink : List Ink) : String :=
  "\n".intercalate ((lines ink).map setLine)

/-! ### One more character -/

@[simp]
theorem written_nil : written [] = "" := rfl

@[simp]
theorem written_append (first second : List Ink) : written (first ++ second) = written first ++ written second := by
  simp [written]

@[simp]
theorem written_singleton (i : Ink) : written [i] = String.singleton i.char := by
  simp [written]

theorem lines_ne_nil (ink : List Ink) : lines ink ≠ [] :=
  List.splitOnP_ne_nil _ _

@[simp]
theorem typeset_nil : typeset [] = "" := rfl

/-- Behind a line feed there is a line of its own. -/
theorem lines_append_lineFeed (ink : List Ink) {i : Ink} (h : i.char = '\n') (line : List Ink)
    (hline : ∀ j ∈ line, j.char ≠ '\n') : lines (ink ++ i :: line) = lines ink ++ [line] := by
  have hsingle : line.splitOnP (fun j => decide (j.char = '\n')) = [line] :=
    List.splitOnP_eq_singleton fun j hj => by simpa using hline j hj
  rw [lines, List.splitOnP_append_cons _ _ (by simpa using h), hsingle]
  rfl

/-- Without a line feed there is one line. -/
theorem lines_of_line {line : List Ink} (hline : ∀ j ∈ line, j.char ≠ '\n') : lines line = [line] :=
  List.splitOnP_eq_singleton fun j hj => by simpa using hline j hj

/-- A line feed and a line behind it are printed behind what there is. -/
theorem typeset_append_line (ink : List Ink) {i : Ink} (h : i.char = '\n') (line : List Ink)
    (hline : ∀ j ∈ line, j.char ≠ '\n') : typeset (ink ++ i :: line) = typeset ink ++ "\n" ++ setLine line := by
  rw [typeset, lines_append_lineFeed ink h line hline, List.map_append, String.intercalate_append_of_ne_nil]
  · rfl
  · simpa using lines_ne_nil ink
  · simp

/-- A line feed is printed as it is. -/
theorem typeset_concat_lineFeed (ink : List Ink) {i : Ink} (h : i.char = '\n') :
    typeset (ink ++ [i]) = typeset ink ++ "\n" := by
  simpa [setLine] using typeset_append_line ink h [] (by simp)

/-- Ink is ended lines and a last line. -/
theorem exists_last_line (ink : List Ink) :
    ∃ front line, ink = front ++ line ∧ (front = [] ∨ ∃ init i, front = init ++ [i] ∧ i.char = '\n') ∧
      ∀ j ∈ line, j.char ≠ '\n' := by
  obtain ⟨front, line, hink, hfront, hline⟩ := Text.exists_append_of_last (fun i : Ink => decide (i.char = '\n')) ink
  refine ⟨front, line, hink, ?_, fun j hj => by simpa using hline j hj⟩
  rcases hfront with h | ⟨init, i, hi, hlast⟩
  · exact Or.inl h
  · exact Or.inr ⟨init, i, hi, by simpa using hlast⟩

/-- The last line is printed behind the ended ones. -/
theorem typeset_append_of_ended {front line : List Ink}
    (hfront : front = [] ∨ ∃ init i, front = init ++ [i] ∧ i.char = '\n') (hline : ∀ j ∈ line, j.char ≠ '\n') :
    typeset (front ++ line) = typeset front ++ setLine line := by
  rcases hfront with rfl | ⟨init, i, rfl, hi⟩
  · rw [List.nil_append, typeset_nil, String.empty_append, typeset, lines_of_line hline]
    rfl
  · rw [List.append_assoc, List.singleton_append, typeset_append_line init hi line hline,
      typeset_concat_lineFeed init hi]

/-- Ink whose characters are an ended text is empty or has a line feed last. -/
theorem ended_written_iff (ink : List Ink) :
    Text.Ended (written ink) ↔ ink = [] ∨ ∃ init i, ink = init ++ [i] ∧ i.char = '\n' := by
  cases ink using List.reverseRecOn with
  | nil => simp [Text.ended_empty]
  | append_singleton init i => simp [Text.ended_iff]

/-- At the start of a line the tokens of a character stand in front of it. -/
theorem typeset_concat_of_ended {ink : List Ink} {i : Ink} (hstart : Text.Ended (written ink)) (h : i.char ≠ '\n') :
    typeset (ink ++ [i]) = typeset ink ++ String.join i.tokens ++ String.singleton i.char := by
  rw [typeset_append_of_ended ((ended_written_iff ink).mp hstart) (by simpa using h)]
  simp [setLine, ← String.toList_inj]

/-- Inside a line a character is printed alone. -/
theorem typeset_concat_of_not_ended {ink : List Ink} {i : Ink} (hinside : ¬Text.Ended (written ink))
    (h : i.char ≠ '\n') :
    typeset (ink ++ [i]) = typeset ink ++ String.singleton i.char := by
  obtain ⟨front, line, rfl, hfront, hline⟩ := exists_last_line ink
  cases line with
  | nil =>
    rw [List.append_nil, ended_written_iff] at hinside
    exact absurd hfront hinside
  | cons first rest =>
    have hlong : ∀ j ∈ first :: (rest ++ [i]), j.char ≠ '\n' := by
      intro j hj
      rw [← List.cons_append, List.mem_append, List.mem_singleton] at hj
      rcases hj with hj | rfl
      · exact hline j hj
      · exact h
    rw [List.append_assoc, List.cons_append, typeset_append_of_ended hfront hlong, typeset_append_of_ended hfront hline]
    simp [setLine, written, ← String.toList_inj]

/-- What is in print ends in the last character that was written. -/
theorem getLast?_typeset (ink : List Ink) : (typeset ink).toList.getLast? = (written ink).toList.getLast? := by
  cases ink using List.reverseRecOn with
  | nil => rfl
  | append_singleton init i =>
    by_cases hi : i.char = '\n'
    · rw [typeset_concat_lineFeed init hi]
      simp [hi]
    · by_cases hs : Text.Ended (written init)
      · rw [typeset_concat_of_ended hs hi]
        simp [List.getLast?_append]
      · rw [typeset_concat_of_not_ended hs hi]
        simp [List.getLast?_append]

/-- Print is ended exactly when what was written is. -/
theorem ended_typeset (ink : List Ink) : Text.Ended (typeset ink) ↔ Text.Ended (written ink) := by
  rw [Text.ended_iff, Text.ended_iff, getLast?_typeset]

end Ink

/-- A text under construction as its characters, each with its tokens. -/
structure Draft where
  ink : List Ink := []
  /-- The indentation tokens, outermost first. -/
  tokens : List String := []
  /-- Whether `separate` leaves nothing as long as nothing has been written. -/
  opened : Bool := true
  deriving DecidableEq, Repr

namespace Draft

/-- Writes a text under the tokens of this moment. -/
def write (d : Draft) (text : String) : Draft :=
  { d with ink := d.ink ++ text.toList.map fun c => ⟨c, d.tokens⟩ }

/-- Adds an innermost token. -/
def push (d : Draft) (token : String) : Draft :=
  { d with tokens := d.tokens ++ [token] }

/-- Removes the innermost token, if there is one. -/
def pop (d : Draft) : Draft :=
  { d with tokens := d.tokens.dropLast }

/-- Whether `separate` leaves nothing: whether the last thing written is the opening line of a block. -/
def skips (d : Draft) : Bool :=
  if d.ink = [] then d.opened else Text.endsIn (Ink.written d.ink) "\x7b\n"

/-- Takes one step of a script. -/
def perform (d : Draft) : Step → Draft
  | .write text => d.write text
  | .line text => d.write (text ++ "\n")
  | .push token => d.push token
  | .pop => d.pop
  | .separate => if d.skips then d else d.write "\n"

/-- Takes the steps of a script. -/
def run (d : Draft) (script : Script) : Draft :=
  script.foldl perform d

@[simp]
theorem run_cons (d : Draft) (step : Step) (script : Script) : d.run (step :: script) = (d.perform step).run script :=
  rfl

@[simp]
theorem run_append (d : Draft) (first second : Script) : d.run (first ++ second) = (d.run first).run second :=
  List.foldl_append

end Draft

namespace Emitter

/-- Whether `separate` leaves nothing: nothing has been written, or the opening line of a block has been written
last. -/
def opened (e : Emitter) : Bool :=
  e.text = "" ∨ Text.endsIn e.text "\x7b\n"

/-- Separating ends a line unless the emitter is opened. -/
theorem separate_eq (e : Emitter) : e.separate = if e.opened then e else e.endLine := by
  simp [separate, opened, writeLine]

/-- The emitter `e`, which was `start` before the draft `d` was begun, is where the draft says: its text is that of the
start with the draft in print behind it, its stack is that of the draft, and it is at the start of a line exactly when
what was written is ended. -/
structure Follows (start e : Emitter) (d : Draft) : Prop where
  text : e.text = start.text ++ Ink.typeset d.ink
  indents : e.indents = d.tokens.reverse
  atLineStart : e.atLineStart = true ↔ Text.Ended (Ink.written d.ink)
  opened : d.opened = start.opened

/-- At the beginning nothing has been written. -/
theorem Follows.refl {start : Emitter} (h : start.atLineStart = true) :
    Follows start start { tokens := start.indents.reverse, opened := start.opened } where
  text := by simp
  indents := by simp
  atLineStart := by simp [h, Text.ended_empty]
  opened := rfl

/-- The margin of an emitter is made of the tokens of its draft. -/
theorem Follows.margin {start e : Emitter} {d : Draft} (h : Follows start e d) : e.margin = String.join d.tokens := by
  rw [Emitter.margin, h.indents, List.reverse_reverse]

/-- One more character is one more character of the draft. -/
theorem Follows.put {start e : Emitter} {d : Draft} (h : Follows start e d) (c : Char) :
    Follows start (e.put c) { d with ink := d.ink ++ [⟨c, d.tokens⟩] } := by
  by_cases hc : c = '\n'
  · subst hc
    have hput : e.put '\n' = e.endLine := if_pos rfl
    rw [hput]
    refine ⟨?_, h.indents, ?_, h.opened⟩
    · rw [Ink.typeset_concat_lineFeed _ rfl, ← String.append_assoc, ← h.text]
      simp [endLine, ← String.toList_inj]
    · simp [endLine, Text.ended_iff]
  · have hended : ¬Text.Ended (Ink.written (d.ink ++ [⟨c, d.tokens⟩])) := by simp [Text.ended_iff, hc]
    by_cases hs : e.atLineStart = true
    · have hput : e.put c = { e with text := (e.text ++ e.margin).push c, atLineStart := false } := by
        simp [Emitter.put, hc, hs]
      rw [hput]
      refine ⟨?_, h.indents, iff_of_false (by simp) hended, h.opened⟩
      rw [Ink.typeset_concat_of_ended (h.atLineStart.mp hs) hc, h.margin, h.text]
      simp [← String.toList_inj]
    · have hput : e.put c = { e with text := e.text.push c } := by simp [Emitter.put, hc, hs]
      rw [hput]
      refine ⟨?_, h.indents, iff_of_false hs hended, h.opened⟩
      rw [Ink.typeset_concat_of_not_ended (fun hw => hs (h.atLineStart.mpr hw)) hc, h.text]
      simp [← String.toList_inj]

/-- Writing a text is writing it on the draft. -/
theorem Follows.write {start e : Emitter} {d : Draft} (h : Follows start e d) (text : String) :
    Follows start (e.write text) (d.write text) := by
  have key : ∀ (cs : List Char) (e : Emitter) (d : Draft), Follows start e d →
      Follows start (cs.foldl Emitter.put e) { d with ink := d.ink ++ cs.map fun c => ⟨c, d.tokens⟩ } := by
    intro cs
    induction cs with
    | nil => intro e d h; simpa using h
    | cons c rest ih =>
      intro e d h
      simpa using ih _ _ (h.put c)
  exact key text.toList e d h

/-- Ending a line is writing a line feed. -/
theorem Follows.endLine {start e : Emitter} {d : Draft} (h : Follows start e d) :
    Follows start e.endLine (d.write "\n") :=
  h.write "\n"

/-- Whether anything is left between two parts can be read off the draft, since no margin ends in a brace and a line
feed: behind every margin there is a character. -/
theorem Follows.skips {start e : Emitter} {d : Draft} (hstart : Text.Ended start.text) (h : Follows start e d) :
    e.opened = d.skips := by
  unfold Draft.skips
  by_cases hink : d.ink = []
  · rw [if_pos hink, h.opened, Emitter.opened, Emitter.opened, h.text, hink]
    simp
  rw [if_neg hink]
  obtain ⟨init, i, hi⟩ : ∃ init i, d.ink = init ++ [i] := by
    cases hd : d.ink using List.reverseRecOn with
    | nil => exact absurd hd hink
    | append_singleton init i => exact ⟨init, i, rfl⟩
  have hlast : e.text.toList.getLast? = some i.char := by
    rw [h.text, String.toList_append, List.getLast?_append, Ink.getLast?_typeset, hi]
    simp
  have hne : e.text ≠ "" := by
    rintro hempty
    simp [hempty] at hlast
  rw [Bool.eq_iff_iff, Emitter.opened]
  simp only [hne, false_or, decide_eq_true_eq]
  by_cases hc : i.char = '\n'
  · -- Both ask for the character in front of the line feed: the last one in print, or else the last one of the start.
    have htext : e.text = start.text ++ Ink.typeset init ++ "\n" := by
      rw [h.text, hi, Ink.typeset_concat_lineFeed init hc, String.append_assoc]
    have hwritten : Ink.written d.ink = Ink.written init ++ "\n" := by
      rw [hi, Ink.written_append, Ink.written_singleton, hc]
      rfl
    rw [htext, hwritten, Text.endsIn_append_lineFeed, Text.endsIn_append_lineFeed, String.toList_append,
      List.getLast?_append, Ink.getLast?_typeset]
    cases hw : (Ink.written init).toList.getLast? with
    | some c => simp
    | none =>
      have hs : start.text.toList.getLast? ≠ some '\x7b' := by
        intro hb
        exact absurd ((Text.ended_iff _).mp hstart _ hb) (by decide)
      simp [hs]
  · have hno : ∀ t : String, t.toList.getLast? = some i.char → ¬Text.endsIn t "\x7b\n" = true := by
      intro t ht hends
      obtain ⟨before, rfl, -⟩ := (Text.endsIn_brace_lineFeed t).mp hends
      simp at ht
      exact hc ht.symm
    have hwritten : (Ink.written d.ink).toList.getLast? = some i.char := by simp [hi]
    exact iff_of_false (hno _ hlast) (hno _ hwritten)

/-- Every step is a step of the draft. -/
theorem Follows.perform {start e : Emitter} {d : Draft} (hstart : Text.Ended start.text) (h : Follows start e d)
    (step : Step) : Follows start (e.perform step) (d.perform step) := by
  cases step with
  | write text => exact h.write text
  | line text =>
    have hline := (h.write text).endLine
    have hd : (d.write text).write "\n" = d.write (text ++ "\n") := by simp [Draft.write]
    rwa [hd] at hline
  | push token => exact ⟨h.text, by simp [Emitter.perform, Emitter.push, Draft.perform, Draft.push, h.indents],
      h.atLineStart, h.opened⟩
  | pop => exact ⟨h.text, by simp [Emitter.perform, Emitter.pop, Draft.perform, Draft.pop, h.indents, List.tail_reverse],
      h.atLineStart, h.opened⟩
  | separate =>
    simp only [Emitter.perform, Draft.perform, separate_eq, h.skips hstart]
    by_cases hd : d.skips = true
    · simpa [hd] using h
    · simpa [hd] using h.endLine

/-- Every run is a run of the draft. -/
theorem Follows.run {start e : Emitter} {d : Draft} (hstart : Text.Ended start.text) (h : Follows start e d)
    (script : Script) : Follows start (e.run script) (d.run script) := by
  induction script generalizing e d with
  | nil => exact h
  | cons step rest ih => exact ih (h.perform hstart step)

/-- From the start of a line, a run follows the draft that begins there. -/
theorem follows_run {start : Emitter} (hstart : Text.Ended start.text) (hline : start.atLineStart = true)
    (script : Script) :
    Follows start (start.run script)
      (({ tokens := start.indents.reverse, opened := start.opened } : Draft).run script) :=
  (Follows.refl hline).run hstart script

end Emitter

end GeometrySource

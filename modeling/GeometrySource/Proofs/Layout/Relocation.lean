import GeometrySource.Proofs.Layout.Draft
import GeometrySource.Proofs.Layout.LineStart

/-!
# Relocation

A script that removes no tokens but its own and adds none with a line feed prints the same wherever it starts: what it
appends on an empty stack, with the margin of the place put in front of every line that is not empty. `separate` reads
the text back, but what it finds depends on the script alone once something has been written.
-/

namespace GeometrySource

namespace Script

/-- How many tokens of its own stand on the stack behind a script that starts with `depth` of them, unless the script
removes a token that is not its own. -/
def ownDepth? : Nat → Script → Option Nat
  | depth, [] => some depth
  | depth, .push _ :: rest => ownDepth? (depth + 1) rest
  | 0, .pop :: _ => none
  | depth + 1, .pop :: rest => ownDepth? depth rest
  | depth, .write _ :: rest => ownDepth? depth rest
  | depth, .line _ :: rest => ownDepth? depth rest
  | depth, .separate :: rest => ownDepth? depth rest

/-- Whether a script removes no token that it has not added. -/
def PopsOwn (script : Script) : Prop :=
  (script.ownDepth? 0).isSome = true

instance (script : Script) : Decidable script.PopsOwn :=
  inferInstanceAs (Decidable (_ = true))

/-- Whether no token that a script adds has a line feed. -/
def PushesSingleLines (script : Script) : Prop :=
  ∀ token, Step.push token ∈ script → Text.SingleLine token

/-- What a script prints at the start of a line on an empty stack, where `opened` says whether `separate` leaves nothing
at first. -/
def printed (opened : Bool) (script : Script) : String :=
  Ink.typeset (({ opened := opened } : Draft).run script).ink

end Script

/-- A character with more tokens outside of its own. -/
def Ink.under (outer : List String) (i : Ink) : Ink :=
  { i with tokens := outer ++ i.tokens }

namespace Draft

/-- A draft with more tokens outside of its own. -/
def under (outer : List String) (d : Draft) : Draft :=
  { d with ink := d.ink.map (Ink.under outer), tokens := outer ++ d.tokens }

/-- More tokens outside change nothing of what was written. -/
theorem written_map_under (outer : List String) (ink : List Ink) :
    Ink.written (ink.map (Ink.under outer)) = Ink.written ink := by
  simp [Ink.written, Function.comp_def, Ink.under]

theorem skips_under (outer : List String) (d : Draft) : (d.under outer).skips = d.skips := by
  simp [skips, under, written_map_under]

theorem write_under (outer : List String) (d : Draft) (text : String) :
    (d.under outer).write text = (d.write text).under outer := by
  simp [write, under, Ink.under, Function.comp_def]

/-- Separating leaves the tokens alone. -/
theorem tokens_perform_separate (d : Draft) : (d.perform .separate).tokens = d.tokens := by
  rw [perform]
  cases d.skips <;> rfl

/-- The count of own tokens goes along with the draft, as long as only own tokens are removed. -/
theorem ownDepth?_perform (d : Draft) (step : Step) (rest : Script)
    (h : (Script.ownDepth? d.tokens.length (step :: rest)).isSome = true) :
    Script.ownDepth? (d.perform step).tokens.length rest = Script.ownDepth? d.tokens.length (step :: rest) := by
  cases step with
  | write text => simp [perform, write, Script.ownDepth?]
  | line text => simp [perform, write, Script.ownDepth?]
  | push token => simp [perform, push, Script.ownDepth?]
  | pop =>
    cases htokens : d.tokens using List.reverseRecOn with
    | nil => simp [htokens, Script.ownDepth?] at h
    | append_singleton own token => simp [perform, pop, htokens, Script.ownDepth?]
  | separate => rw [tokens_perform_separate, Script.ownDepth?]

/-- A step under more tokens is the step with these tokens outside, unless it removes a token that is not its own. -/
theorem perform_under (outer : List String) (d : Draft) (step : Step) (rest : Script)
    (h : (Script.ownDepth? d.tokens.length (step :: rest)).isSome = true) :
    (d.under outer).perform step = (d.perform step).under outer := by
  cases step with
  | write text => exact write_under outer d text
  | line text => exact write_under outer d (text ++ "\n")
  | push token => simp [perform, push, under]
  | pop =>
    cases htokens : d.tokens using List.reverseRecOn with
    | nil => simp [htokens, Script.ownDepth?] at h
    | append_singleton own token =>
      simp only [perform, pop, under, htokens, ← List.append_assoc, List.dropLast_concat]
  | separate =>
    rw [perform, perform, skips_under, write_under]
    cases d.skips <;> rfl

/-- A run under more tokens is the run with these tokens outside, as long as only own tokens are removed. -/
theorem run_under (outer : List String) (script : Script) (d : Draft)
    (h : (script.ownDepth? d.tokens.length).isSome = true) :
    (d.under outer).run script = (d.run script).under outer := by
  induction script generalizing d with
  | nil => rfl
  | cons step rest ih =>
    rw [run_cons, run_cons, perform_under outer d step rest h]
    exact ih _ (by rwa [ownDepth?_perform d step rest h])

/-- Whether no token of a draft, on its stack or behind a character, has a line feed. -/
structure SingleLineTokens (d : Draft) : Prop where
  tokens : ∀ token ∈ d.tokens, Text.SingleLine token
  ink : ∀ i ∈ d.ink, ∀ token ∈ i.tokens, Text.SingleLine token

theorem SingleLineTokens.write {d : Draft} (h : d.SingleLineTokens) (text : String) :
    (d.write text).SingleLineTokens := by
  refine ⟨h.tokens, ?_⟩
  intro i hi
  rcases List.mem_append.mp hi with hi | hi
  · exact h.ink i hi
  · obtain ⟨c, -, rfl⟩ := List.mem_map.mp hi
    exact h.tokens

/-- A step that adds no token with a line feed leaves none. -/
theorem SingleLineTokens.perform {d : Draft} (h : d.SingleLineTokens) (step : Step)
    (hstep : ∀ token, step = .push token → Text.SingleLine token) : (d.perform step).SingleLineTokens := by
  cases step with
  | write text => exact h.write text
  | line text => exact h.write (text ++ "\n")
  | push token =>
    refine ⟨?_, h.ink⟩
    intro t ht
    rcases List.mem_append.mp ht with ht | ht
    · exact h.tokens t ht
    · rw [List.mem_singleton.mp ht]
      exact hstep token rfl
  | pop => exact ⟨fun t ht => h.tokens t ((List.dropLast_sublist _).subset ht), h.ink⟩
  | separate =>
    rw [Draft.perform]
    cases d.skips
    · exact h.write "\n"
    · exact h

theorem SingleLineTokens.run {d : Draft} (h : d.SingleLineTokens) {script : Script} (hs : script.PushesSingleLines) :
    (d.run script).SingleLineTokens := by
  induction script generalizing d with
  | nil => exact h
  | cons step rest ih =>
    refine ih (h.perform step ?_) fun token ht => hs token (List.mem_cons_of_mem _ ht)
    rintro token rfl
    exact hs token List.mem_cons_self

end Draft

/-- Tokens without a line feed make a margin without one. -/
theorem Text.singleLine_join {tokens : List String} (h : ∀ token ∈ tokens, Text.SingleLine token) :
    Text.SingleLine (String.join tokens) := by
  unfold Text.SingleLine at *
  rw [String.toList_join, List.mem_flatMap]
  rintro ⟨token, ht, hmem⟩
  exact h token ht hmem

/-- More tokens outside put their margin in front of every printed line that is not empty. -/
theorem Ink.typeset_map_under (outer : List String) (ink : List Ink)
    (h : ∀ i ∈ ink, ∀ token ∈ i.tokens, Text.SingleLine token) :
    typeset (ink.map (under outer)) = Text.indented (String.join outer) (typeset ink) := by
  induction ink using List.reverseRecOn with
  | nil => simp
  | append_singleton init i ih =>
    have hinit := ih fun j hj => h j (List.mem_append_left _ hj)
    have hmargin : Text.SingleLine (String.join i.tokens) :=
      Text.singleLine_join (h i (List.mem_append_right _ (List.mem_singleton_self i)))
    rw [List.map_append, List.map_singleton]
    by_cases hi : i.char = '\n'
    · rw [typeset_concat_lineFeed _ hi, typeset_concat_lineFeed _ (show (i.under outer).char = '\n' from hi), hinit,
        Text.indented_append_lineFeed_last]
    have hchar : Text.SingleLine (String.singleton i.char) := by simpa [Text.SingleLine] using Ne.symm hi
    have hsame := Draft.written_map_under outer init
    by_cases hs : Text.Ended (written init)
    · have hline : Text.SingleLine (String.join i.tokens ++ String.singleton i.char) := by
        unfold Text.SingleLine at *
        rw [String.toList_append, List.mem_append]
        exact not_or.mpr ⟨hmargin, hchar⟩
      have hne : String.join i.tokens ++ String.singleton i.char ≠ "" := by
        rw [Ne, String.append_eq_empty_iff]
        simp
      rw [typeset_concat_of_ended hs hi, String.append_assoc,
        Text.indented_append _ _ ((ended_typeset init).mpr hs), Text.indented_of_singleLine _ hline hne,
        typeset_concat_of_ended (hsame ▸ hs) (show (i.under outer).char ≠ '\n' from hi), hinit]
      simp only [under, String.join_append, String.append_assoc]
    · rw [typeset_concat_of_not_ended hs hi,
        typeset_concat_of_not_ended (hsame ▸ hs) (show (i.under outer).char ≠ '\n' from hi), hinit,
        Text.indented_append_of_not_ended _ (fun ht => hs ((ended_typeset init).mp ht)) hchar]
      rfl

namespace Emitter

/-- What a script prints at the start of a line is what it prints on an empty stack, with the margin in front of every
line that is not empty, and the tokens that it leaves are its own, above those that were there. -/
theorem run_printed {e : Emitter} (hended : Text.Ended e.text) (hline : e.atLineStart = true) {script : Script}
    (hpops : script.PopsOwn) (hpushes : script.PushesSingleLines) :
    (e.run script).text = e.text ++ Text.indented e.margin (script.printed e.opened) ∧
      (e.run script).indents = (({ opened := e.opened } : Draft).run script).tokens.reverse ++ e.indents := by
  have hfollows := follows_run hended hline script
  have hunder : ({ tokens := e.indents.reverse, opened := e.opened } : Draft) =
      ({ opened := e.opened } : Draft).under e.indents.reverse := by simp [Draft.under]
  rw [hunder, Draft.run_under _ script { opened := e.opened } hpops] at hfollows
  have hplain : ({ opened := e.opened } : Draft).SingleLineTokens := ⟨by simp, by simp⟩
  constructor
  · rw [hfollows.text]
    exact congrArg (e.text ++ ·) (Ink.typeset_map_under e.indents.reverse _ (hplain.run hpushes).ink)
  · rw [hfollows.indents]
    simp [Draft.under]

/-- A state that some script leads to from a fresh emitter. -/
def Reachable (e : Emitter) : Prop :=
  ∃ script : Script, e = ({} : Emitter).run script

/-- In a reachable state a line starts exactly where the text is empty or has a line feed last. -/
theorem Reachable.atLineStart_iff {e : Emitter} (h : e.Reachable) : e.atLineStart = true ↔ Text.Ended e.text := by
  obtain ⟨script, rfl⟩ := h
  exact anchored_fresh.run script

/-- The second pair of states is the first pair in another place: what was appended is the same but for the margin in
front of every line that is not empty, and the same tokens are above those of the beginning. -/
def Relocated (first first' second second' : Emitter) : Prop :=
  ∃ (text : String) (own : List String),
    first'.text = first.text ++ text ∧ second'.text = second.text ++ Text.indented second.margin text ∧
      first'.indents = own ++ first.indents ∧ second'.indents = own ++ second.indents

/-- Two states that a script cannot tell apart: both at the start of a line, one of them with an empty stack, and
`separate` leaves the same in both. -/
structure Alike (first second : Emitter) : Prop where
  first_reachable : first.Reachable
  second_reachable : second.Reachable
  first_line : first.atLineStart = true
  second_line : second.atLineStart = true
  bare : first.indents = []
  opened : first.opened = second.opened

/-- A script that removes only its own tokens, and adds none with a line feed, runs the same from states that are
alike. -/
theorem relocated_run {first second : Emitter} (h : Alike first second) {script : Script} (hpops : script.PopsOwn)
    (hpushes : script.PushesSingleLines) : Relocated first (first.run script) second (second.run script) := by
  obtain ⟨htext, hindents⟩ :=
    run_printed (h.first_reachable.atLineStart_iff.mp h.first_line) h.first_line hpops hpushes
  obtain ⟨htext', hindents'⟩ :=
    run_printed (h.second_reachable.atLineStart_iff.mp h.second_line) h.second_line hpops hpushes
  have hmargin : first.margin = "" := by simp [margin, h.bare]
  rw [hmargin, Text.indented_without_margin] at htext
  rw [← h.opened] at htext' hindents'
  exact ⟨_, _, htext, htext', hindents, hindents'⟩

end Emitter

end GeometrySource

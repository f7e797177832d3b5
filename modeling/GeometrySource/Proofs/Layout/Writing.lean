import GeometrySource.Layout.Emitter
import GeometrySource.Proofs.Text.Indentation

/-!
# Writing in pieces

A text can be written line by line: it is cut at its line feeds, its first part goes on with the line at hand, each further
part begins a line, and the margin goes in front of the first part of a line that is not empty. An emitter takes a text
character by character, and the two come to the same. So it makes no difference in which pieces a text is written.
-/

namespace GeometrySource

/-- What a formatted write is given: the literal texts and the texts of the arguments, in order. -/
structure Formatted where
  fragments : List String
  /-- The whole text, where it is known without any formatting. -/
  known? : Option String
  known_eq : ∀ text, known? = some text → text = String.join fragments

/-- The text that a formatted write stands for. -/
def Formatted.text (f : Formatted) : String :=
  String.join f.fragments

namespace Emitter

/-- Writes a part of a line. The margin goes in front of the first part that is not empty. -/
def writePart (e : Emitter) (part : String) : Emitter :=
  if part = "" then
    e
  else if e.atLineStart then
    { e with text := e.text ++ e.margin ++ part, atLineStart := false }
  else
    { e with text := e.text ++ part }

/-- Ends the line and writes a part of the next one. -/
def writeNext (e : Emitter) (part : String) : Emitter :=
  e.endLine.writePart part

/-- Writes parts of lines, each but the first on a line after that of the one before. -/
def writeParts (e : Emitter) : List String → Emitter
  | [] => e
  | first :: rest => rest.foldl writeNext (e.writePart first)

/-- Writes the text of a formatted write: the known one, or else the fragments put together. -/
def writeFormatted (e : Emitter) (f : Formatted) : Emitter :=
  match f.known? with
  | some text => e.write text
  | none => e.write f.text

/-! ## Line by line -/

/-- Inside a line, characters that do not end it are put behind the text. -/
theorem foldl_put_inside {cs : List Char} (hcs : '\n' ∉ cs) {e : Emitter} (he : e.atLineStart = false) :
    cs.foldl put e = { e with text := e.text ++ String.ofList cs } := by
  induction cs generalizing e with
  | nil => simp
  | cons c rest ih =>
    rw [List.mem_cons, not_or] at hcs
    obtain ⟨hc, hrest⟩ := hcs
    have hput : e.put c = { e with text := e.text.push c } := by simp [put, Ne.symm hc, he]
    have hnext : ({ e with text := e.text.push c } : Emitter).atLineStart = false := he
    rw [List.foldl_cons, hput, ih hrest hnext]
    simp [← String.toList_inj]

/-- Without a line feed, writing a text is writing a part of a line. -/
theorem write_of_singleLine {part : String} (h : Text.SingleLine part) (e : Emitter) :
    e.write part = e.writePart part := by
  cases hpart : part.toList with
  | nil =>
    have hempty : part = "" := String.toList_eq_nil_iff.mp hpart
    simp [hempty, writePart]
  | cons c rest =>
    rw [Text.SingleLine, hpart, List.mem_cons, not_or] at h
    obtain ⟨hc, hrest⟩ := h
    have hne : part ≠ "" := by
      rintro rfl
      cases hpart
    have htext : part = String.ofList (c :: rest) := by rw [← hpart, String.ofList_toList]
    cases he : e.atLineStart with
    | false =>
      have hinside : '\n' ∉ c :: rest := by simp [hc, hrest]
      rw [write, hpart, foldl_put_inside hinside he, ← htext]
      simp [writePart, hne, he]
    | true =>
      have hput : e.put c = { e with text := (e.text ++ e.margin).push c, atLineStart := false } := by
        simp [put, Ne.symm hc, he]
      rw [write, hpart, List.foldl_cons, hput, foldl_put_inside hrest rfl]
      simp [writePart, he, htext, ← String.toList_inj]

/-- Lines with a line feed between them are written one after the other. -/
theorem write_intercalate {first : String} {rest : List String} (hfirst : Text.SingleLine first)
    (hrest : ∀ line ∈ rest, Text.SingleLine line) (e : Emitter) :
    e.write ("\n".intercalate (first :: rest)) = rest.foldl writeNext (e.writePart first) := by
  induction rest generalizing first e with
  | nil => rw [String.intercalate_singleton, write_of_singleLine hfirst, List.foldl_nil]
  | cons second more ih =>
    obtain ⟨hsecond, hmore⟩ := List.forall_mem_cons.mp hrest
    rw [String.intercalate_cons_cons, write_append, write_append, write_of_singleLine hfirst, write_lineFeed,
      ih hsecond hmore, List.foldl_cons, writeNext]

/-- Writing a text is writing its lines. -/
theorem write_eq_writeParts (e : Emitter) (text : String) : e.write text = e.writeParts (Text.lines text) := by
  obtain ⟨first, rest, hlines⟩ := List.exists_cons_of_ne_nil (Text.lines_ne_nil text)
  have hsingle : ∀ line ∈ first :: rest, Text.SingleLine line :=
    fun line hline => Text.singleLine_of_mem_lines (hlines ▸ hline)
  obtain ⟨hfirst, hrest⟩ := List.forall_mem_cons.mp hsingle
  calc e.write text = e.write ("\n".intercalate (Text.lines text)) := by rw [Text.intercalate_lines]
    _ = e.writeParts (Text.lines text) := by rw [hlines, write_intercalate hfirst hrest, writeParts]

/-! ## Piece by piece -/

/-- Writing pieces one after the other is writing all of them at once. -/
theorem foldl_write (e : Emitter) (pieces : List String) : pieces.foldl write e = e.write (String.join pieces) := by
  induction pieces generalizing e with
  | nil => rfl
  | cons piece rest ih => rw [List.foldl_cons, ih, ← write_append, String.join_cons]

/-- A text is made of its characters. -/
theorem join_map_singleton (text : String) : String.join (text.toList.map String.singleton) = text := by
  simp [← String.toList_inj, List.flatMap_map]

theorem writeLine_eq_write (e : Emitter) (text : String) : e.writeLine text = e.write (text ++ "\n") := by
  rw [write_append, write_lineFeed, writeLine]

/-- Whether or not the text is known without formatting makes no difference. -/
theorem writeFormatted_eq_write (e : Emitter) (f : Formatted) : e.writeFormatted f = e.write f.text := by
  unfold writeFormatted
  cases hknown : f.known? with
  | some text => rw [f.known_eq text hknown, Formatted.text]
  | none => rfl

/-- Writing does not depend on the pieces. From every state of an emitter:
1. A text is written line by line, the margin in front of the first part of a line that is not empty.
2. Two writes leave what one write of both texts leaves, and so does any number of writes, down to single characters.
3. Ending a line is writing a line feed too.
4. A formatted write is a write of its text, also fragment by fragment. -/
theorem write_pieces (e : Emitter) :
    (∀ text, e.write text = e.writeParts (Text.lines text)) ∧
      ((∀ first second, (e.write first).write second = e.write (first ++ second)) ∧
        (∀ pieces : List String, pieces.foldl write e = e.write (String.join pieces)) ∧
        ∀ text : String, (text.toList.map String.singleton).foldl write e = e.write text) ∧
      (∀ text, e.writeLine text = e.write (text ++ "\n")) ∧
      ∀ f : Formatted, e.writeFormatted f = e.write f.text ∧ f.fragments.foldl write e = e.write f.text := by
  refine ⟨e.write_eq_writeParts, ⟨fun first second => (write_append e first second).symm, e.foldl_write, fun text => ?_⟩,
    e.writeLine_eq_write, fun f => ⟨e.writeFormatted_eq_write f, e.foldl_write f.fragments⟩⟩
  rw [foldl_write, join_map_singleton]

/-- A literal text is known without formatting. -/
example (e : Emitter) :
    e.writeFormatted ⟨["struct Circle"], some "struct Circle", fun _ h => Option.some.inj h ▸ rfl⟩ =
      e.write "struct Circle" := rfl

/-- With an argument between the literal texts there is only what the fragments make. -/
example (e : Emitter) :
    e.writeFormatted ⟨["struct ", "Circle", " :"], none, fun _ h => nomatch h⟩ = e.write "struct Circle :" := rfl

end Emitter

end GeometrySource

import GeometrySource.Text.Lines
import Mathlib.Data.List.Induction

/-!
# Lines and margins

A text is cut into lines at its line feeds, and `indented` puts a margin in front of every line that is not empty. The
laws here say how the two treat texts that are put together: at a line feed both come apart, and inside a line nothing
new is put in front.
-/

namespace GeometrySource.Text

/-- The lines of a text, which is cut at every line feed. After a line feed at the end there is one more line, an empty
one. -/
def lines (text : String) : List String :=
  (text.toList.splitOn '\n').map String.ofList

/-- A text with a margin in front of every line that is not empty. -/
def indented (margin text : String) : String :=
  "\n".intercalate ((lines text).map fun line => if line = "" then "" else margin ++ line)

/-- Texts one after another, each with a line feed at its end. -/
def unlines (texts : List String) : String :=
  String.join (texts.map (· ++ "\n"))

/-- Whether a text stays on one line. -/
def SingleLine (text : String) : Prop :=
  '\n' ∉ text.toList

instance (text : String) : Decidable (SingleLine text) :=
  inferInstanceAs (Decidable ('\n' ∉ text.toList))

/-- Whether what is written after a text starts a line: the text is empty or has a line feed at its end. -/
def Ended (text : String) : Prop :=
  text = "" ∨ text.toList.getLast? = some '\n'

instance (text : String) : Decidable (Ended text) :=
  inferInstanceAs (Decidable (_ ∨ _))

/-! ## Texts on one line -/

/-- Texts one after another stay on one line if each of them does. -/
@[simp]
theorem singleLine_append (first second : String) :
    SingleLine (first ++ second) ↔ SingleLine first ∧ SingleLine second := by
  simp [SingleLine]

/-- Whether a text is written down, as characters of which a predicate holds. -/
def Written (P : List Char → Prop) (text : String) : Prop :=
  ∃ cs, String.ofList cs = text ∧ P cs

theorem Written.intro {P : List Char → Prop} {cs : List Char} (h : P cs) : Written P (String.ofList cs) :=
  ⟨cs, rfl, h⟩

/-- A text that is written down stays on one line if there is no line feed among its characters. -/
theorem singleLine_of_written {text : String} (h : Written ('\n' ∉ ·) text) : SingleLine text := by
  obtain ⟨cs, rfl, hcs⟩ := h
  rwa [SingleLine, String.toList_ofList]

/-- Texts with another one between them stay on one line exactly if each of them does. -/
theorem singleLine_intercalate {separator : String} (h : Written ('\n' ∉ ·) separator) (texts : List String) :
    SingleLine (separator.intercalate texts) ↔ ∀ text ∈ texts, SingleLine text := by
  induction texts with
  | nil => simp [SingleLine]
  | cons first rest ih =>
    cases rest with
    | nil => simp
    | cons second more =>
      rw [String.intercalate_cons_cons, singleLine_append, singleLine_append, ih, List.forall_mem_cons (a := first)]
      simp [singleLine_of_written h]

/-! ## What a text ends in -/

/-- A text ends in another one exactly when that one is its last part. -/
theorem endsIn_iff (text ending : String) : endsIn text ending = true ↔ ∃ before, text = before ++ ending := by
  unfold endsIn
  rw [List.isSuffixOf_iff_suffix]
  constructor
  · rintro ⟨before, h⟩
    refine ⟨String.ofList before, ?_⟩
    rw [← String.toList_inj, String.toList_append, String.toList_ofList, h]
  · rintro ⟨before, rfl⟩
    exact ⟨before.toList, String.toList_append.symm⟩

/-- A text that ends in an opening brace and a line feed has a line feed last and the brace before it. -/
theorem endsIn_brace_lineFeed (text : String) :
    endsIn text "\x7b\n" = true ↔ ∃ before, text = before ++ "\n" ∧ before.toList.getLast? = some '\x7b' := by
  rw [endsIn_iff]
  constructor
  · rintro ⟨before, rfl⟩
    exact ⟨before ++ "\x7b", by rw [String.append_assoc]; rfl, by simp⟩
  · rintro ⟨before, rfl, h⟩
    obtain ⟨front, hfront⟩ := List.getLast?_eq_some_iff.mp h
    refine ⟨String.ofList front, ?_⟩
    rw [← String.toList_inj]
    simp [hfront]

/-- Behind a text a line feed completes the end of an opening line exactly if the text ends in an opening brace. -/
theorem endsIn_append_lineFeed (text : String) :
    endsIn (text ++ "\n") "\x7b\n" = true ↔ text.toList.getLast? = some '\x7b' := by
  rw [endsIn_brace_lineFeed]
  constructor
  · rintro ⟨before, heq, hb⟩
    have ht : text = before := by simpa [← String.toList_inj] using heq
    rwa [ht]
  · intro ht
    exact ⟨text, rfl, ht⟩

/-- Only the last character decides whether a text is ended. -/
theorem ended_iff (text : String) : Ended text ↔ ∀ c, text.toList.getLast? = some c → c = '\n' := by
  unfold Ended
  rw [← String.toList_eq_nil_iff]
  cases h : text.toList.getLast? with
  | none => simp [List.getLast?_eq_none_iff.mp h]
  | some c =>
    have hne : text.toList ≠ [] := by
      intro he
      simp [he] at h
    simp [hne]

theorem ended_empty : Ended "" := Or.inl rfl

/-- A line feed ends a text. -/
@[simp]
theorem ended_append_lineFeed (text : String) : Ended (text ++ "\n") := by
  right
  simp

/-- A text with an ended text behind it is ended if it is ended itself or the other is not empty. -/
theorem Ended.append {first second : String} (h₁ : Ended first) (h₂ : Ended second) : Ended (first ++ second) := by
  rcases h₂ with rfl | h₂
  · simpa using h₁
  · right
    simp [List.getLast?_append, h₂]

/-- An ended text that is not empty is a text with a line feed behind it. -/
theorem Ended.eq_append {text : String} (h : Ended text) (hne : text ≠ "") : ∃ before, text = before ++ "\n" := by
  obtain ⟨front, hfront⟩ := List.getLast?_eq_some_iff.mp (h.resolve_left hne)
  refine ⟨String.ofList front, ?_⟩
  rw [← String.toList_inj]
  simp [hfront]

/-- A list is a part that ends where the predicate holds, and a part throughout which it fails. -/
theorem exists_append_of_last {α : Type} (p : α → Bool) (list : List α) :
    ∃ front back, list = front ++ back ∧ (front = [] ∨ ∃ init last, front = init ++ [last] ∧ p last = true) ∧
      ∀ x ∈ back, p x = false := by
  induction list using List.reverseRecOn with
  | nil => exact ⟨[], [], rfl, Or.inl rfl, by simp⟩
  | append_singleton init x ih =>
    cases hx : p x with
    | true => exact ⟨init ++ [x], [], by simp, Or.inr ⟨init, x, rfl, hx⟩, by simp⟩
    | false =>
      obtain ⟨front, back, rfl, hf, hb⟩ := ih
      refine ⟨front, back ++ [x], by simp, hf, ?_⟩
      intro y hy
      rcases List.mem_append.mp hy with hy | hy
      · exact hb y hy
      · rw [List.mem_singleton.mp hy, hx]

/-- Every text is an ended part and a last line. -/
theorem exists_last_line (text : String) : ∃ front back, text = front ++ back ∧ Ended front ∧ SingleLine back := by
  obtain ⟨front, back, htext, hf, hb⟩ := exists_append_of_last (· == '\n') text.toList
  refine ⟨String.ofList front, String.ofList back, ?_, ?_, ?_⟩
  · rw [← String.toList_inj]
    simp [htext]
  · rcases hf with rfl | ⟨init, last, rfl, hl⟩
    · exact Or.inl rfl
    · right
      simpa using hl
  · intro hmem
    rw [String.toList_ofList] at hmem
    simpa using hb _ hmem

/-! ## Cutting into lines -/

theorem lines_ne_nil (text : String) : lines text ≠ [] := by
  simp [lines, List.splitOn_ne_nil]

/-- The empty text is one empty line. -/
@[simp]
theorem lines_empty : lines "" = [""] := rfl

/-- Two texts with a line feed between them have the lines of both. -/
theorem lines_append_lineFeed (first second : String) :
    lines (first ++ "\n" ++ second) = lines first ++ lines second := by
  have h : (first ++ "\n" ++ second).toList = first.toList ++ '\n' :: second.toList := by simp
  rw [lines, h, List.splitOn_append_cons_self, List.map_append]
  rfl

/-- A text without a line feed is one line. -/
theorem lines_of_singleLine {text : String} (h : SingleLine text) : lines text = [text] := by
  rw [lines, List.splitOn_eq_singleton h]
  simp

/-- No line has a line feed in it. -/
theorem singleLine_of_mem_lines {text line : String} (h : line ∈ lines text) : SingleLine line := by
  have key : ∀ cs : List Char, ∀ piece ∈ cs.splitOn '\n', '\n' ∉ piece := by
    intro cs
    induction cs with
    | nil => simp
    | cons c rest ih =>
      intro piece hpiece
      rw [List.splitOn_cons_eq_if_modifyHead] at hpiece
      by_cases hc : c = '\n'
      · simp only [hc, beq_self_eq_true, if_true, List.mem_cons] at hpiece
        rcases hpiece with rfl | hpiece
        · simp
        · exact ih piece hpiece
      · obtain ⟨head, tail, hsplit⟩ := List.exists_cons_of_ne_nil (List.splitOn_ne_nil '\n' rest)
        rw [hsplit] at hpiece ih
        simp only [beq_iff_eq, hc, if_false, List.modifyHead_cons, List.mem_cons] at hpiece
        rcases hpiece with rfl | hpiece
        · simpa [Ne.symm hc] using ih head List.mem_cons_self
        · exact ih piece (List.mem_cons_of_mem _ hpiece)
  obtain ⟨piece, hpiece, rfl⟩ := List.mem_map.mp h
  intro hmem
  rw [String.toList_ofList] at hmem
  exact key text.toList piece hpiece hmem

/-- The lines with line feeds between them are the text. -/
theorem intercalate_lines (text : String) : "\n".intercalate (lines text) = text := by
  have h : ∀ l : List (List Char), (l.map String.ofList).map String.toList = l := by
    intro l
    simp [Function.comp_def]
  rw [← String.toList_inj, String.toList_intercalate, lines, h]
  exact List.intercalate_splitOn '\n'

/-- The lines of ended lines are these lines and the empty one behind them. -/
theorem lines_unlines {texts : List String} (h : ∀ text ∈ texts, SingleLine text) :
    lines (unlines texts) = texts ++ [""] := by
  induction texts with
  | nil => rfl
  | cons text rest ih =>
    have hrest : lines (unlines rest) = rest ++ [""] := ih fun t ht => h t (List.mem_cons_of_mem _ ht)
    have hcons : unlines (text :: rest) = text ++ "\n" ++ unlines rest := by simp [unlines]
    rw [hcons, lines_append_lineFeed, lines_of_singleLine (h text List.mem_cons_self), hrest]
    rfl

/-- Single lines with line feeds between them are cut into these lines again. -/
theorem lines_intercalate {texts : List String} (hne : texts ≠ []) (h : ∀ text ∈ texts, SingleLine text) :
    lines ("\n".intercalate texts) = texts := by
  induction texts with
  | nil => exact absurd rfl hne
  | cons first rest ih =>
    obtain ⟨hfirst, hrest⟩ := List.forall_mem_cons.mp h
    cases rest with
    | nil => rw [String.intercalate_singleton, lines_of_singleLine hfirst]
    | cons second more =>
      rw [String.intercalate_cons_cons, lines_append_lineFeed, lines_of_singleLine hfirst, ih (by simp) hrest]
      rfl

/-- What stands in front of a text stands in front of its first line. -/
theorem lines_append {front : String} (h : SingleLine front) (text : String) :
    lines (front ++ text) = (lines text).modifyHead (front ++ ·) := by
  obtain ⟨head, tail, hlines⟩ := List.exists_cons_of_ne_nil (lines_ne_nil text)
  have hsingle : ∀ line ∈ (front ++ head) :: tail, SingleLine line := by
    have hall : ∀ line ∈ head :: tail, SingleLine line := fun line hmem => singleLine_of_mem_lines (hlines ▸ hmem)
    obtain ⟨hhead, htail⟩ := List.forall_mem_cons.mp hall
    exact List.forall_mem_cons.mpr ⟨(singleLine_append front head).mpr ⟨h, hhead⟩, htail⟩
  have htext : front ++ text = "\n".intercalate ((front ++ head) :: tail) := by
    rw [← intercalate_lines text, hlines]
    cases tail with
    | nil => simp
    | cons second more => rw [String.intercalate_cons_cons, String.intercalate_cons_cons]; simp only [String.append_assoc]
  rw [htext, lines_intercalate (by simp) hsingle, hlines, List.modifyHead_cons]

/-- The lines of ended texts are the lines of each of them, and the empty one behind them. -/
theorem lines_unlines_flatMap (texts : List String) : lines (unlines texts) = texts.flatMap lines ++ [""] := by
  induction texts with
  | nil => rfl
  | cons text rest ih =>
    have hcons : unlines (text :: rest) = text ++ "\n" ++ unlines rest := by simp [unlines]
    rw [hcons, lines_append_lineFeed, ih, List.flatMap_cons, List.append_assoc]

/-! ## Ended lines -/

@[simp]
theorem unlines_nil : unlines [] = "" := rfl

@[simp]
theorem unlines_cons (text : String) (rest : List String) : unlines (text :: rest) = text ++ "\n" ++ unlines rest := by
  simp [unlines]

@[simp]
theorem unlines_append (first second : List String) : unlines (first ++ second) = unlines first ++ unlines second := by
  simp [unlines]

/-- Ended lines are an ended text. -/
theorem ended_unlines (texts : List String) : Ended (unlines texts) := by
  induction texts with
  | nil => exact ended_empty
  | cons text rest ih =>
    rw [unlines_cons]
    exact (ended_append_lineFeed text).append ih

/-! ## Margins -/

@[simp]
theorem indented_empty (margin : String) : indented margin "" = "" := by
  simp [indented]

/-- The margin stands in front of a line that is not empty. -/
theorem indented_of_singleLine {text : String} (margin : String) (h : SingleLine text) (hne : text ≠ "") :
    indented margin text = margin ++ text := by
  simp [indented, lines_of_singleLine h, hne]

/-- A margin stands in front of each line that is not empty. -/
theorem lines_indented {margin : String} (h : SingleLine margin) (text : String) :
    lines (indented margin text) = (lines text).map fun line => if line = "" then "" else margin ++ line := by
  refine lines_intercalate (by simpa using lines_ne_nil text) fun line hmem => ?_
  obtain ⟨piece, hpiece, rfl⟩ := List.mem_map.mp hmem
  split
  · decide
  · exact (singleLine_append margin piece).mpr ⟨h, singleLine_of_mem_lines hpiece⟩

/-- At a line feed a margin comes apart. -/
theorem indented_append_lineFeed (margin first second : String) :
    indented margin (first ++ "\n" ++ second) = indented margin first ++ "\n" ++ indented margin second := by
  unfold indented
  rw [lines_append_lineFeed, List.map_append, String.intercalate_append_of_ne_nil]
  · simpa using lines_ne_nil first
  · simpa using lines_ne_nil second

/-- A line feed at the end gets no margin. -/
@[simp]
theorem indented_append_lineFeed_last (margin text : String) :
    indented margin (text ++ "\n") = indented margin text ++ "\n" := by
  simpa using indented_append_lineFeed margin text ""

/-- A margin leaves an ended text ended. -/
theorem Ended.indented {text : String} (h : Ended text) (margin : String) : Ended (indented margin text) := by
  by_cases hne : text = ""
  · simp [hne, ended_empty]
  · obtain ⟨before, rfl⟩ := h.eq_append hne
    rw [indented_append_lineFeed_last]
    exact ended_append_lineFeed _

/-- Behind an ended text a margin starts anew. -/
theorem indented_append {first : String} (margin second : String) (h : Ended first) :
    indented margin (first ++ second) = indented margin first ++ indented margin second := by
  by_cases hne : first = ""
  · simp [hne]
  · obtain ⟨before, rfl⟩ := h.eq_append hne
    rw [indented_append_lineFeed, indented_append_lineFeed_last]

/-- A margin in front of ended lines stands in front of each of them. -/
theorem indented_unlines (margin : String) (texts : List String) :
    indented margin (unlines texts) = unlines (texts.map (indented margin)) := by
  induction texts with
  | nil => simp
  | cons text rest ih => rw [unlines_cons, indented_append_lineFeed, ih, List.map_cons, unlines_cons]

/-- Inside a line a margin puts nothing in front. -/
theorem indented_append_of_not_ended {first second : String} (margin : String) (h₁ : ¬Ended first)
    (h₂ : SingleLine second) : indented margin (first ++ second) = indented margin first ++ second := by
  obtain ⟨front, back, rfl, hf, hb⟩ := exists_last_line first
  have hne : back ≠ "" := by
    rintro rfl
    exact h₁ (by simpa using hf)
  have hs : SingleLine (back ++ second) := by
    unfold SingleLine at *
    simp [hb, h₂]
  rw [String.append_assoc, indented_append margin _ hf, indented_append margin _ hf,
    indented_of_singleLine margin hb hne, indented_of_singleLine margin hs (by simp [hne])]
  simp only [String.append_assoc]

/-- Without a margin a text stays as it is. -/
@[simp]
theorem indented_without_margin (text : String) : indented "" text = text := by
  have h : ((lines text).map fun line => if line = "" then "" else "" ++ line) = lines text := by
    conv_rhs => rw [← List.map_id (lines text)]
    apply List.map_congr_left
    intro line _
    by_cases hl : line = "" <;> simp [hl]
  rw [indented, h, intercalate_lines]

end GeometrySource.Text

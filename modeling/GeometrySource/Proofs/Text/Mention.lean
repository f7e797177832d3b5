import GeometrySource.Proofs.Text.Indentation
import GeometrySource.Proofs.Text.Reading

/-!
# Words that a text mentions

The words among the tokens of a text. Texts that do not meet inside a word have the words of both, and every word of a
line is one of the text's.
-/

namespace GeometrySource.Text

/-- The word that a token is, if it is one. -/
def Token.word? : Token → Option String
  | .word text => some text
  | .mark _ => none

/-- The words among some tokens. -/
def wordsAmong (list : List Token) : List String :=
  list.filterMap Token.word?

/-- The words of a text, in order. -/
def words (text : String) : List String :=
  wordsAmong (tokens text)

theorem mem_wordsAmong {list : List Token} {w : String} : w ∈ wordsAmong list ↔ .word w ∈ list := by
  rw [wordsAmong, List.mem_filterMap]
  constructor
  · rintro ⟨t, ht, hword⟩
    cases t with
    | word text => exact Option.some.inj hword ▸ ht
    | mark c => cases hword
  · exact fun h => ⟨_, h, rfl⟩

/-- Texts that do not meet inside a word have the words of both. -/
theorem words_append {first second : String} (h : EndsApart first ∨ BeginsApart second) :
    words (first ++ second) = words first ++ words second := by
  rw [words, tokens_append h, wordsAmong, List.filterMap_append]
  rfl

/-- A word has itself as its only word. -/
theorem words_of_isWord {text : String} (h : IsWord text) : words text = [text] := by
  rw [words, tokens_of_isWord h]
  rfl

/-- The words of texts with a separator between them are those of the texts. -/
theorem mem_words_intercalate {separator : String} {mark : Char} (h : Separates separator mark) {texts : List String}
    {w : String} : w ∈ words (separator.intercalate texts) ↔ ∃ text ∈ texts, w ∈ words text := by
  obtain ⟨htokens, hbegin, hend⟩ := h
  induction texts with
  | nil => simp [words, wordsAmong]
  | cons text rest ih =>
    by_cases hrest : rest = []
    · subst hrest
      simp
    · have hseparator : words separator = [] := by
        rw [words, htokens]
        rfl
      have hne : separator ≠ "" := by
        rintro rfl
        simp at htokens
      rw [String.intercalate_cons_of_ne_nil hrest, words_append (.inl (hend.append text hne)),
        words_append (.inr hbegin), hseparator, List.append_nil, List.mem_append, ih]
      simp

/-- Every word of a line is a word of the text. -/
theorem mem_words_of_mem_lines {text line w : String} (hline : line ∈ lines text) (hw : w ∈ words line) :
    w ∈ words text := by
  have hseparator : Separates "\n" '\n' := by decide
  rw [← intercalate_lines text, mem_words_intercalate hseparator]
  exact ⟨line, hline, hw⟩

/-- Every token of a piece is one of the tokens that were cut. -/
theorem mem_of_mem_cut {separator : Char} {depth : Nat} {list piece : List Token} {t : Token}
    (hpiece : piece ∈ cut separator depth list) (ht : t ∈ piece) : t ∈ list := by
  induction list generalizing depth piece with
  | nil =>
    rw [cut, List.mem_singleton] at hpiece
    rwa [← hpiece]
  | cons first rest ih =>
    rw [cut] at hpiece
    split at hpiece
    · rcases List.mem_cons.mp hpiece with rfl | hpiece
      · cases ht
      · exact List.mem_cons_of_mem _ (ih hpiece ht)
    · obtain ⟨head, tail, hcut⟩ := List.exists_cons_of_ne_nil (cut_ne_nil separator (parentheses depth first) rest)
      rw [hcut, List.modifyHead_cons, List.mem_cons] at hpiece
      rcases hpiece with rfl | hpiece
      · rcases List.mem_cons.mp ht with rfl | ht
        · exact List.mem_cons_self
        · exact List.mem_cons_of_mem _ (ih (hcut ▸ List.mem_cons_self) ht)
      · exact List.mem_cons_of_mem _ (ih (hcut ▸ List.mem_cons_of_mem _ hpiece) ht)

/-- A character that stands for itself is one of the text's. -/
theorem mem_of_mark_mem_scan {c : Char} {pending cs : List Char} (h : .mark c ∈ scan pending cs) : c ∈ cs := by
  have hflush : ∀ pending : List Char, Token.mark c ∉ flush pending := by
    intro pending hmem
    unfold flush at hmem
    split at hmem <;> simp at hmem
  induction cs generalizing pending with
  | nil => exact absurd h (hflush pending)
  | cons d rest ih =>
    rw [scan] at h
    split at h
    · exact List.mem_cons_of_mem d (ih h)
    · simp only [List.mem_append] at h
      rcases h with (hpending | hmark) | hrest
      · exact absurd hpending (hflush pending)
      · unfold markOf at hmark
        split at hmark
        · cases hmark
        · rw [List.mem_singleton, Token.mark.injEq] at hmark
          exact hmark ▸ List.mem_cons_self
      · exact List.mem_cons_of_mem d (ih hrest)

end GeometrySource.Text

import Mathlib.Data.List.Induction

/-!
# Tokens

How a compiler sees a line of text: words, and single characters that are not part of a word. Spaces between tokens do
not count. Texts that do not meet inside a word have the tokens of both.
-/

namespace GeometrySource.Text

/-- Whether a character is part of a word: a letter, a digit, an underscore, or any character outside ASCII. -/
def isWordChar (c : Char) : Bool :=
  c.isAlphanum || c = '_' || 128 ≤ c.toNat

/-- A part of a line that is not divided further. -/
inductive Token
  /-- A word, such as a name, a keyword or a number. -/
  | word (text : String)
  /-- A character that stands for itself, such as a comma or a parenthesis. -/
  | mark (c : Char)
  deriving DecidableEq, Repr

/-- The word made of the characters that were collected, if there are any. -/
def flush (pending : List Char) : List Token :=
  if pending = [] then [] else [.word (String.ofList pending)]

/-- The token of a character that is not part of a word. A space is none. -/
def markOf (c : Char) : List Token :=
  if c = ' ' then [] else [.mark c]

/-- The tokens of characters, behind characters of a word that has not ended. -/
def scan : List Char → List Char → List Token
  | pending, [] => flush pending
  | pending, c :: rest =>
    if isWordChar c then
      scan (pending ++ [c]) rest
    else
      flush pending ++ markOf c ++ scan [] rest

/-- The tokens of a text. -/
def tokens (text : String) : List Token :=
  scan [] text.toList

/-- Whether a text is one word. -/
def IsWord (text : String) : Prop :=
  text ≠ "" ∧ ∀ c ∈ text.toList, isWordChar c = true

-- The instances name how they go through the characters of a text: the instance that is found for a quantifier over
-- characters may go through all characters there are.
instance (text : String) : Decidable (IsWord text) :=
  have : Decidable (∀ c ∈ text.toList, isWordChar c = true) := List.decidableBAll _ _
  inferInstanceAs (Decidable (_ ∧ _))

/-- Whether no word goes on at the beginning of a text. -/
def BeginsApart (text : String) : Prop :=
  ∀ c ∈ text.toList.head?, isWordChar c = false

/-- Whether no word goes on behind a text. -/
def EndsApart (text : String) : Prop :=
  ∀ c ∈ text.toList.getLast?, isWordChar c = false

instance (text : String) : Decidable (BeginsApart text) :=
  Option.decidableForallMem text.toList.head?

instance (text : String) : Decidable (EndsApart text) :=
  Option.decidableForallMem text.toList.getLast?

/-! ## Words -/

/-- Characters of a word go to the word that has not ended. -/
theorem scan_wordChars {cs : List Char} (h : ∀ c ∈ cs, isWordChar c = true) (pending rest : List Char) :
    scan pending (cs ++ rest) = scan (pending ++ cs) rest := by
  induction cs generalizing pending with
  | nil => simp
  | cons c cs ih =>
    have hc : isWordChar c = true := h c List.mem_cons_self
    rw [List.cons_append, scan, if_pos hc, ih fun d hd => h d (List.mem_cons_of_mem _ hd), List.append_assoc,
      List.singleton_append]

/-- A word is one token. -/
theorem tokens_of_isWord {text : String} (h : IsWord text) : tokens text = [.word text] := by
  have hscan := scan_wordChars h.2 [] []
  rw [List.append_nil, List.nil_append] at hscan
  rw [tokens, hscan, scan, flush, if_neg (by simpa using h.1), String.ofList_toList]

/-- Words without anything between them are a word. -/
theorem IsWord.append {first second : String} (h₁ : IsWord first) (h₂ : ∀ c ∈ second.toList, isWordChar c = true) :
    IsWord (first ++ second) := by
  refine ⟨?_, ?_⟩
  · rw [Ne, String.append_eq_empty_iff]
    exact fun hempty => h₁.1 hempty.1
  · intro c hc
    rw [String.toList_append, List.mem_append] at hc
    exact hc.elim (h₁.2 c) (h₂ c)

/-! ## Texts one after another -/

@[simp]
theorem tokens_empty : tokens "" = [] := rfl

/-- Where the second text does not go on with a word, the tokens come apart. -/
theorem scan_append_of_beginsApart (pending first : List Char) {second : List Char}
    (h : ∀ c ∈ second.head?, isWordChar c = false) :
    scan pending (first ++ second) = scan pending first ++ scan [] second := by
  induction first generalizing pending with
  | nil =>
    cases second with
    | nil => simp [scan, flush]
    | cons c rest =>
      have hc : isWordChar c = false := h c rfl
      simp [scan, hc, flush]
  | cons c rest ih =>
    rw [List.cons_append, scan, scan]
    split
    · exact ih _
    · simp only [ih, List.append_assoc]

/-- Where the first text does not end inside a word, the tokens come apart. -/
theorem scan_append_of_endsApart (pending : List Char) {first : List Char} (hne : first ≠ []) (second : List Char)
    (h : ∀ c ∈ first.getLast?, isWordChar c = false) :
    scan pending (first ++ second) = scan pending first ++ scan [] second := by
  induction first generalizing pending with
  | nil => exact absurd rfl hne
  | cons c rest ih =>
    rw [List.cons_append, scan, scan]
    by_cases hrest : rest = []
    · subst hrest
      have hc : isWordChar c = false := h c rfl
      simp [hc, scan, flush]
    · have hlast : ∀ d ∈ rest.getLast?, isWordChar d = false := by
        intro d hd
        refine h d ?_
        rw [Option.mem_def, List.getLast?_cons]
        rw [Option.mem_def] at hd
        rw [hd]
        rfl
      split
      · exact ih _ hrest hlast
      · simp only [ih _ hrest hlast, List.append_assoc]

/-- Texts that do not meet inside a word have the tokens of both. -/
theorem tokens_append {first second : String} (h : EndsApart first ∨ BeginsApart second) :
    tokens (first ++ second) = tokens first ++ tokens second := by
  rw [tokens, String.toList_append]
  rcases h with h | h
  · by_cases hne : first = ""
    · subst hne
      rfl
    · exact scan_append_of_endsApart [] (by simpa using hne) _ h
  · exact scan_append_of_beginsApart [] _ h

/-- Behind more text a text that ends apart still does. -/
theorem EndsApart.append {second : String} (first : String) (h : EndsApart second) (hne : second ≠ "") :
    EndsApart (first ++ second) := by
  intro c hc
  refine h c ?_
  cases hlast : second.toList.getLast? with
  | none => exact absurd (List.getLast?_eq_none_iff.mp hlast) (by simpa using hne)
  | some d => simpa [List.getLast?_append, hlast] using hc

/-- In front of more text a text that begins apart still does. -/
theorem BeginsApart.append {first : String} (second : String) (h : BeginsApart first) (hne : first ≠ "") :
    BeginsApart (first ++ second) := by
  intro c hc
  refine h c ?_
  cases hhead : first.toList.head? with
  | none => exact absurd (List.head?_eq_none_iff.mp hhead) (by simpa using hne)
  | some d => simpa [List.head?_append, hhead] using hc

end GeometrySource.Text

import GeometrySource.Proofs.Text.Token

/-!
# Reading lists

How a compiler reads a list of things in a text: it cuts the tokens at a separator that stands in no parentheses, and
reads every piece by a pattern with gaps for words. What was written with words in the gaps, and with separators in
between, is read back piece by piece and word by word.
-/

namespace GeometrySource.Text

/-- The number of open parentheses behind a token. -/
def parentheses (depth : Nat) : Token → Nat
  | .mark '(' => depth + 1
  | .mark ')' => depth - 1
  | _ => depth

/-- Tokens cut at every separator outside of parentheses, where `depth` of them are open already. -/
def cut (separator : Char) : Nat → List Token → List (List Token)
  | _, [] => [[]]
  | depth, t :: rest =>
    if depth = 0 ∧ t = .mark separator then
      [] :: cut separator 0 rest
    else
      (cut separator (parentheses depth t) rest).modifyHead (t :: ·)

/-- How many parentheses are open behind tokens, unless these are cut somewhere. -/
def uncut? (separator : Char) : Nat → List Token → Option Nat
  | depth, [] => some depth
  | depth, t :: rest =>
    if depth = 0 ∧ t = .mark separator then none else uncut? separator (parentheses depth t) rest

/-- What stands between tokens that begin and tokens that end a list, if it begins and ends so. -/
def inside (front back list : List Token) : Option (List Token) :=
  let rest := list.drop front.length
  if front.isPrefixOf list ∧ back.isSuffixOf rest then
    some (rest.take (rest.length - back.length))
  else
    none

/-- The things in a text between `front` and `back`, with separators in between. -/
def readList {α : Type} (front back : String) (separator : Char) (read : List Token → Option α) (text : String) :
    Option (List α) :=
  (inside (tokens front) (tokens back) (tokens text)).bind fun list => (cut separator 0 list).mapM read

/-- The words of a list of tokens in the gaps of a pattern, if it is this pattern otherwise. A gap is a question
mark. -/
def wordsIn : List Token → List Token → Option (List String)
  | [], [] => some []
  | .mark '?' :: pattern, .word w :: list => (wordsIn pattern list).map (w :: ·)
  | p :: pattern, t :: list => if p = t then wordsIn pattern list else none
  | _, _ => none

/-- Reads tokens by a pattern in which every question mark stands for a word. -/
def readPattern (pattern : String) (list : List Token) : Option (List String) :=
  wordsIn (tokens pattern) list

/-! ## Lists -/

theorem cut_ne_nil (separator : Char) (depth : Nat) (list : List Token) : cut separator depth list ≠ [] := by
  induction list generalizing depth with
  | nil => simp [cut]
  | cons t rest ih =>
    rw [cut]
    split
    · simp
    · obtain ⟨first, more, h⟩ := List.exists_cons_of_ne_nil (ih (parentheses depth t))
      simp [h]

theorem uncut?_append (separator : Char) (depth : Nat) (first second : List Token) :
    uncut? separator depth (first ++ second) = (uncut? separator depth first).bind fun d => uncut? separator d second := by
  induction first generalizing depth with
  | nil => rfl
  | cons t rest ih =>
    rw [List.cons_append, uncut?, uncut?]
    split
    · rfl
    · exact ih _

/-- Tokens that are not cut belong to the first piece. -/
theorem cut_append {separator : Char} {depth after : Nat} {piece : List Token}
    (h : uncut? separator depth piece = some after) (rest : List Token) :
    cut separator depth (piece ++ rest) = (cut separator after rest).modifyHead (piece ++ ·) := by
  induction piece generalizing depth with
  | nil =>
    rw [uncut?, Option.some.injEq] at h
    obtain ⟨first, more, hrest⟩ := List.exists_cons_of_ne_nil (cut_ne_nil separator after rest)
    simp [h, hrest]
  | cons t piece ih =>
    rw [uncut?] at h
    split at h
    · cases h
    · rename_i hcut
      obtain ⟨first, more, hrest⟩ := List.exists_cons_of_ne_nil (cut_ne_nil separator after rest)
      rw [List.cons_append, cut, if_neg hcut, ih h, hrest]
      rfl

/-- Pieces with separators between them are cut into these pieces. -/
theorem cut_intercalate {separator : Char} {pieces : List (List Token)} (hne : pieces ≠ [])
    (h : ∀ piece ∈ pieces, uncut? separator 0 piece = some 0) :
    cut separator 0 ([.mark separator].intercalate pieces) = pieces := by
  induction pieces with
  | nil => exact absurd rfl hne
  | cons piece rest ih =>
    have hpiece := h piece List.mem_cons_self
    by_cases hrest : rest = []
    · subst hrest
      have hcut := cut_append hpiece []
      simpa [cut, List.intercalate] using hcut
    · rw [List.intercalate_cons_of_ne_nil hrest, List.append_assoc, List.singleton_append, cut_append hpiece, cut,
        if_pos ⟨rfl, rfl⟩, ih hrest fun p hp => h p (List.mem_cons_of_mem _ hp)]
      simp

/-- Inside of parentheses a list with separators is not cut. -/
theorem uncut?_intercalate {separator : Char} {depth : Nat} {pieces : List (List Token)}
    (hmark : parentheses (depth + 1) (.mark separator) = depth + 1)
    (h : ∀ piece ∈ pieces, uncut? separator (depth + 1) piece = some (depth + 1)) :
    uncut? separator (depth + 1) ([.mark separator].intercalate pieces) = some (depth + 1) := by
  induction pieces with
  | nil => rfl
  | cons piece rest ih =>
    have hpiece := h piece List.mem_cons_self
    by_cases hrest : rest = []
    · subst hrest
      simpa [List.intercalate] using hpiece
    · rw [List.intercalate_cons_of_ne_nil hrest, List.append_assoc, uncut?_append, hpiece, Option.bind_some,
        List.singleton_append, uncut?, if_neg (fun hboth => Nat.succ_ne_zero depth hboth.1), hmark]
      exact ih fun p hp => h p (List.mem_cons_of_mem _ hp)

@[simp]
theorem inside_append (front middle back : List Token) : inside front back (front ++ (middle ++ back)) = some middle := by
  have hback : back.isSuffixOf (middle ++ back) = true := List.isSuffixOf_iff_suffix.mpr ⟨middle, rfl⟩
  simp [inside, hback]

/-- Texts with separators between them have the tokens of these texts with separators between them. -/
theorem tokens_intercalate {separator : String} (texts : List String) (hne : separator ≠ "")
    (hbegin : BeginsApart separator) (hend : EndsApart separator) :
    tokens (separator.intercalate texts) = (tokens separator).intercalate (texts.map tokens) := by
  induction texts with
  | nil => rfl
  | cons text rest ih =>
    by_cases hrest : rest = []
    · subst hrest
      simp [List.intercalate]
    · rw [String.intercalate_cons_of_ne_nil hrest, List.map_cons,
        List.intercalate_cons_of_ne_nil (by simpa using hrest), tokens_append (.inl (hend.append text hne)),
        tokens_append (.inr hbegin), ih]

/-- Reading every entry of a list that was written entry by entry gives the entries. -/
theorem mapM_read {α β γ : Type} {read : β → Option γ} {write : α → β} {item : α → γ} {list : List α}
    (h : ∀ x ∈ list, read (write x) = some (item x)) : (list.map write).mapM read = some (list.map item) := by
  induction list with
  | nil => rfl
  | cons x rest ih =>
    rw [List.map_cons, List.mapM_cons, h x List.mem_cons_self, ih fun y hy => h y (List.mem_cons_of_mem _ hy)]
    rfl

/-- Whether a text is a separator between words or other texts. -/
def Separates (separator : String) (mark : Char) : Prop :=
  tokens separator = [.mark mark] ∧ BeginsApart separator ∧ EndsApart separator

instance (separator : String) (mark : Char) : Decidable (Separates separator mark) :=
  inferInstanceAs (Decidable (_ ∧ _ ∧ _))

/-- What is written as a list between `front` and `back` is read back. -/
theorem readList_write {α β : Type} {front back separator : String} {mark : Char} {read : List Token → Option β}
    {write : α → String} {item : α → β} {list : List α} (hne : list ≠ []) (hfront : EndsApart front)
    (hback : BeginsApart back) (hseparator : Separates separator mark)
    (huncut : ∀ x ∈ list, uncut? mark 0 (tokens (write x)) = some 0)
    (hread : ∀ x ∈ list, read (tokens (write x)) = some (item x)) :
    readList front back mark read (front ++ separator.intercalate (list.map write) ++ back) = some (list.map item) := by
  obtain ⟨htokens, hbegin, hend⟩ := hseparator
  have hsome : separator ≠ "" := by
    rintro rfl
    simp at htokens
  have hcut : cut mark 0 ([.mark mark].intercalate ((list.map write).map tokens)) = (list.map write).map tokens := by
    refine cut_intercalate (by simpa using hne) ?_
    simpa using huncut
  rw [readList, tokens_append (.inr hback), tokens_append (.inl hfront), tokens_intercalate _ hsome hbegin hend,
    htokens, List.append_assoc, inside_append, Option.bind_some, hcut, List.map_map]
  exact mapM_read hread

/-! ## Patterns -/

/-- A text made of a first piece and, again and again, a word and another piece. -/
def filled (first : String) : List (String × String) → String
  | [] => first
  | (word, piece) :: rest => first ++ word ++ filled piece rest

/-- Whether no word goes on in the pieces of a text around it. -/
def Apart (first : String) : List String → Prop
  | [] => True
  | piece :: rest => EndsApart first ∧ BeginsApart piece ∧ (rest ≠ [] → piece ≠ "") ∧ Apart piece rest

instance decidableApart (first : String) (pieces : List String) : Decidable (Apart first pieces) :=
  match pieces with
  | [] => inferInstanceAs (Decidable True)
  | piece :: rest =>
    have : Decidable (Apart piece rest) := decidableApart piece rest
    inferInstanceAs (Decidable (_ ∧ _ ∧ _ ∧ _))

/-- Whether a pattern has gaps exactly between some pieces, and has no separator outside of parentheses. -/
def Fits (separator : Char) (pattern first : String) (pieces : List String) : Prop :=
  Apart first pieces ∧ tokens pattern = tokens first ++ pieces.flatMap (.mark '?' :: tokens ·) ∧
    (∀ piece ∈ first :: pieces, .mark '?' ∉ tokens piece) ∧ uncut? separator 0 (tokens pattern) = some 0 ∧
    separator ≠ '?'

instance (separator : Char) (pattern first : String) (pieces : List String) :
    Decidable (Fits separator pattern first pieces) :=
  inferInstanceAs (Decidable (_ ∧ _ ∧ _ ∧ _ ∧ _))

/-- A text with words in its gaps has these words as tokens. -/
theorem tokens_filled {first : String} {gaps : List (String × String)} (h : Apart first (gaps.map Prod.snd))
    (hwords : ∀ gap ∈ gaps, IsWord gap.1) :
    tokens (filled first gaps) = tokens first ++ gaps.flatMap fun gap => .word gap.1 :: tokens gap.2 := by
  induction gaps generalizing first with
  | nil => simp [filled]
  | cons gap rest ih =>
    obtain ⟨word, piece⟩ := gap
    obtain ⟨hend, hbegin, hsome, hrest⟩ := h
    have hbegins : BeginsApart (filled piece rest) := by
      cases rest with
      | nil => exact hbegin
      | cons gap more =>
        rw [filled, String.append_assoc]
        exact hbegin.append _ (hsome (by simp))
    rw [filled, String.append_assoc, tokens_append (.inl hend), tokens_append (.inr hbegins),
      tokens_of_isWord (hwords _ List.mem_cons_self), ih hrest fun g hg => hwords g (List.mem_cons_of_mem _ hg)]
    simp

/-- What a pattern has besides gaps is found again. -/
theorem wordsIn_append {common : List Token} (h : .mark '?' ∉ common) (pattern list : List Token) :
    wordsIn (common ++ pattern) (common ++ list) = wordsIn pattern list := by
  induction common with
  | nil => rfl
  | cons t rest ih =>
    obtain ⟨ht, hrest⟩ := not_or.mp (List.mem_cons.not.mp h)
    rw [List.cons_append, List.cons_append, wordsIn, if_pos rfl, ih hrest]
    rintro - hmark -
    exact ht hmark.symm

/-- A text with words in the gaps of a pattern is read as these words. -/
theorem readPattern_filled {separator : Char} {pattern first : String} {gaps : List (String × String)}
    (h : Fits separator pattern first (gaps.map Prod.snd)) (hwords : ∀ gap ∈ gaps, IsWord gap.1) :
    readPattern pattern (tokens (filled first gaps)) = some (gaps.map Prod.fst) := by
  obtain ⟨hapart, hpattern, hmarks, -, -⟩ := h
  have hgaps : ∀ gaps : List (String × String), (∀ piece ∈ gaps.map Prod.snd, .mark '?' ∉ tokens piece) →
      wordsIn ((gaps.map Prod.snd).flatMap (.mark '?' :: tokens ·))
        (gaps.flatMap fun gap => .word gap.1 :: tokens gap.2) = some (gaps.map Prod.fst) := by
    intro gaps
    induction gaps with
    | nil => intro _; rfl
    | cons gap rest ih =>
      intro hpieces
      obtain ⟨hpiece, hrest⟩ := List.forall_mem_cons.mp hpieces
      rw [List.map_cons, List.flatMap_cons, List.flatMap_cons, List.cons_append, List.cons_append, wordsIn,
        wordsIn_append hpiece, ih hrest]
      rfl
  rw [readPattern, hpattern, tokens_filled hapart hwords, wordsIn_append (hmarks first List.mem_cons_self)]
  exact hgaps gaps fun piece hpiece => hmarks piece (List.mem_cons_of_mem _ hpiece)

/-- Words in the gaps of a pattern leave a text uncut. -/
theorem uncut?_filled {separator : Char} {pattern first : String} {gaps : List (String × String)}
    (h : Fits separator pattern first (gaps.map Prod.snd)) (hwords : ∀ gap ∈ gaps, IsWord gap.1) :
    uncut? separator 0 (tokens (filled first gaps)) = some 0 := by
  obtain ⟨hapart, hpattern, -, huncut, hmark⟩ := h
  have hgaps : ∀ (gaps : List (String × String)) (depth : Nat),
      uncut? separator depth (gaps.flatMap fun gap => .word gap.1 :: tokens gap.2) =
        uncut? separator depth ((gaps.map Prod.snd).flatMap (.mark '?' :: tokens ·)) := by
    intro gaps
    induction gaps with
    | nil => intro depth; rfl
    | cons gap rest ih =>
      intro depth
      have hne : ¬(Token.mark '?' = .mark separator) := fun heq => hmark (Token.mark.inj heq).symm
      rw [List.map_cons, List.flatMap_cons, List.flatMap_cons, uncut?_append, uncut?_append, uncut?, uncut?,
        if_neg (fun hboth => nomatch hboth.2), if_neg (fun hboth => hne hboth.2)]
      exact Option.bind_congr fun d _ => ih d
  rw [tokens_filled hapart hwords, uncut?_append]
  rw [hpattern, uncut?_append] at huncut
  rw [← huncut]
  exact Option.bind_congr fun d _ => hgaps gaps d

/-- A list whose entries have words in the gaps of a pattern is read back as these words. -/
theorem readList_filled {α : Type} {front back pattern : String} {mark : Char} {list : List α} {text : String}
    (separator first : String) (pieces : List String) (gaps : α → List (String × String))
    (htext : text = front ++ separator.intercalate (list.map fun x => filled first (gaps x)) ++ back) (hne : list ≠ [])
    (hfront : EndsApart front) (hback : BeginsApart back) (hseparator : Separates separator mark)
    (hfits : Fits mark pattern first pieces) (hpieces : ∀ x ∈ list, (gaps x).map Prod.snd = pieces)
    (hwords : ∀ x ∈ list, ∀ gap ∈ gaps x, IsWord gap.1) :
    readList front back mark (readPattern pattern) text = some (list.map fun x => (gaps x).map Prod.fst) := by
  rw [htext]
  refine readList_write hne hfront hback hseparator ?_ ?_
  · intro x hx
    exact uncut?_filled (hpieces x hx ▸ hfits) (hwords x hx)
  · intro x hx
    exact readPattern_filled (hpieces x hx ▸ hfits) (hwords x hx)

/-- Statements that have words in the gaps of a pattern are read back as these words. -/
theorem mapM_readPattern_filled {α : Type} {pattern : String} {list : List α} {texts : List String}
    (first : String) (pieces : List String) (gaps : α → List (String × String))
    (htexts : texts = list.map fun x => filled first (gaps x)) (hfits : Fits ',' pattern first pieces)
    (hpieces : ∀ x ∈ list, (gaps x).map Prod.snd = pieces) (hwords : ∀ x ∈ list, ∀ gap ∈ gaps x, IsWord gap.1) :
    texts.mapM (readPattern pattern ∘ tokens) = some (list.map fun x => (gaps x).map Prod.fst) := by
  rw [htexts]
  refine mapM_read ?_
  intro x hx
  exact readPattern_filled (hpieces x hx ▸ hfits) (hwords x hx)

end GeometrySource.Text

import GeometrySource.Json.Token
import GeometrySource.Proofs.Json.Number
import GeometrySource.Proofs.Json.Quoted
import Mathlib.Data.List.Chain

/-!
# Tokens in a text

How tokens may be spelled: each in one of its spellings, with any blanks around it. The reader gives exactly the tokens that
a text spells, as long as no two numbers stand side by side; without a blank, nothing tells where the first of them ends.
-/

namespace GeometrySource.Json

/-- A blank is no part of a number. -/
theorem isPart_of_isGap {c : Char} (h : isGap c = true) : Number.isPart c = false := by
  simp only [isGap, Bool.or_eq_true, decide_eq_true_eq] at h
  rcases h with ((rfl | rfl) | rfl) | rfl
  all_goals decide

namespace Token

/-- Whether a text is a spelling of a token. Only strings have more than one. -/
def Spelled : Token → List Char → Prop
  | number literal, text => literal.Proper ∧ text = literal.text
  | string items, text => ∃ body, items.Spelled body ∧ text = '"' :: (body ++ ['"'])
  | token, text => text = token.text

/-- Whether a token is a number. -/
def isNumber : Token → Bool
  | number _ => true
  | _ => false

variable {token : Token} {text rest : List Char}

/-- A spelled token begins with a character that is no blank, and with one that may stand in a number only if it is one. -/
theorem Spelled.exists_cons (h : token.Spelled text) :
    ∃ c more, text = c :: more ∧ isGap c = false ∧ (token.isNumber = false → Number.isPart c = false) := by
  cases token with
  | number literal =>
    obtain ⟨hproper, rfl⟩ := h
    obtain ⟨c, more, htext, hc⟩ := hproper.exists_cons
    refine ⟨c, more, htext, ?_, by simp [isNumber]⟩
    rcases hc with rfl | hdigit
    · decide
    · by_contra hgap
      have hpart := isPart_of_isGap (Bool.not_eq_false _ ▸ hgap)
      simp [Number.isPart, hdigit] at hpart
  | string items =>
    obtain ⟨body, -, rfl⟩ := h
    exact ⟨'"', _, rfl, by decide, fun _ => by decide⟩
  | bool value =>
    obtain rfl := h
    cases value <;> exact ⟨_, _, rfl, by decide, fun _ => by decide⟩
  | _ =>
    obtain rfl := h
    exact ⟨_, _, rfl, by decide, fun _ => by decide⟩

/-- A text that begins like a number is read as one. -/
theorem read?_of_number {c : Char} (hc : c = '-' ∨ c.isDigit = true) :
    read? (c :: text) = (Number.read? (c :: text)).map fun (literal, rest) => (number literal, rest) := by
  unfold read?
  split
  case h_11 => rfl
  all_goals
    rename_i heq
    rw [(List.cons.inj heq).1] at hc
    exact absurd hc (by decide)

/-- A spelled token is read off the front of a text; behind a number the text may not go on like one. -/
theorem Spelled.read?_append (h : token.Spelled text)
    (hrest : token.isNumber = true → Avoids Number.isPart rest) : read? (text ++ rest) = some (token, rest) := by
  cases token with
  | number literal =>
    obtain ⟨hproper, rfl⟩ := h
    have hread := hproper.read?_append (hrest rfl)
    obtain ⟨c, more, htext, hc⟩ := hproper.exists_cons
    rw [htext, List.cons_append] at hread ⊢
    rw [read?_of_number hc, hread, Option.map_some]
  | string items =>
    obtain ⟨body, hbody, rfl⟩ := h
    have hread := hbody.read?_append rest
    rw [List.cons_append, List.append_assoc, List.singleton_append, read?, hread, Option.map_some]
  | bool value =>
    obtain rfl := h
    cases value <;> rfl
  | _ =>
    obtain rfl := h
    rfl

/-- What is read as a token is a spelling of it. -/
theorem spelled_of_read? (h : read? text = some (token, rest)) :
    ∃ front, token.Spelled front ∧ text = front ++ rest := by
  unfold read? at h
  split at h
  case h_10 =>
    obtain ⟨⟨items, after⟩, hread, heq⟩ := Option.map_eq_some_iff.mp h
    obtain ⟨rfl, rfl⟩ := Prod.mk.inj heq
    obtain ⟨body, hbody, rfl⟩ := Quoted.spelled_of_read? hread
    exact ⟨_, ⟨body, hbody, rfl⟩, by simp⟩
  case h_11 =>
    obtain ⟨⟨literal, after⟩, hread, heq⟩ := Option.map_eq_some_iff.mp h
    obtain ⟨rfl, rfl⟩ := Prod.mk.inj heq
    obtain ⟨hproper, rfl⟩ := Number.proper_of_read? hread
    exact ⟨_, ⟨hproper, rfl⟩, rfl⟩
  all_goals
    obtain ⟨rfl, rfl⟩ := Prod.mk.inj (Option.some.inj h)
    exact ⟨_, rfl, rfl⟩

end Token

/-! ## Lists of tokens -/

/-- The ways to spell a list of tokens, with any blanks in front of each and behind the last. -/
inductive Spelling : List Token → List Char → Prop
  | nil {gap : List Char} (hgap : ∀ c ∈ gap, isGap c = true) : Spelling [] gap
  | cons {gap front back : List Char} {token : Token} {tokens : List Token} (hgap : ∀ c ∈ gap, isGap c = true)
      (htoken : token.Spelled front) (hrest : Spelling tokens back) : Spelling (token :: tokens) (gap ++ (front ++ back))

namespace Spelling

variable {tokens : List Token} {text : List Char}

/-- Tokens that are spelled one after the other, without blanks. -/
theorem of_text (h : ∀ token ∈ tokens, token.Spelled token.text) : Spelling tokens (tokens.flatMap Token.text) := by
  induction tokens with
  | nil => exact .nil (List.forall_mem_nil _)
  | cons token tokens ih =>
    rw [List.forall_mem_cons] at h
    have hcons := Spelling.cons (List.forall_mem_nil _) h.1 (ih h.2)
    exact hcons

/-- Every token takes up some text. -/
theorem length_le (h : Spelling tokens text) : tokens.length ≤ text.length := by
  induction h with
  | nil => exact Nat.zero_le _
  | cons _ htoken _ ih =>
    obtain ⟨c, more, rfl, -⟩ := htoken.exists_cons
    simp only [List.length_cons, List.length_append]
    omega

/-- A text whose first token is no number does not begin like one. -/
theorem avoids_isPart (h : Spelling tokens text) (hhead : ∀ token ∈ tokens.head?, token.isNumber = false) :
    Avoids Number.isPart text := by
  cases h with
  | nil hgap =>
    cases text with
    | nil => exact avoids_nil _
    | cons c gap => exact avoids_cons.mpr (isPart_of_isGap (hgap c List.mem_cons_self))
  | @cons gap _ _ _ _ hgap htoken _ =>
    cases gap with
    | nil =>
      obtain ⟨c, more, rfl, -, hpart⟩ := htoken.exists_cons
      exact avoids_cons.mpr (hpart (hhead _ rfl))
    | cons c gap => exact avoids_cons.mpr (isPart_of_isGap (hgap c List.mem_cons_self))

end Spelling

namespace Token

variable {tokens : List Token} {text : List Char}

/-- Two tokens that are not both numbers. -/
def Apart (first second : Token) : Prop :=
  ¬(first.isNumber = true ∧ second.isNumber = true)

theorem readAllWithin?_of_spelling {n : Nat} (h : Spelling tokens text) (hn : tokens.length ≤ n)
    (hapart : tokens.IsChain Apart) : readAllWithin? n text = some tokens := by
  induction h generalizing n with
  | nil hgap =>
    unfold readAllWithin?
    rw [List.dropWhile_eq_nil_iff.mpr hgap]
  | @cons gap front back token tokens hgap htoken hrest ih =>
    obtain ⟨n, rfl⟩ := Nat.exists_eq_succ_of_ne_zero (Nat.ne_zero_of_lt hn)
    -- Only a number could go on in what follows; the next token is none, so it does not.
    have hafter : token.isNumber = true → Avoids Number.isPart back := by
      intro hnumber
      refine hrest.avoids_isPart fun next hnext => ?_
      by_contra hnext'
      exact (List.isChain_cons.mp hapart).1 next hnext ⟨hnumber, Bool.not_eq_false _ ▸ hnext'⟩
    have hread := htoken.read?_append hafter
    have hmore := ih (Nat.le_of_succ_le_succ hn) (List.isChain_cons.mp hapart).2
    obtain ⟨c, more, rfl, hc, -⟩ := htoken.exists_cons
    unfold readAllWithin?
    rw [List.dropWhile_append_of_pos hgap, List.cons_append, List.dropWhile_cons_of_neg (by simp [hc])]
    rw [List.cons_append] at hread
    simp only [hread, hmore, Option.bind_eq_bind, Option.bind_some]

/-- A text is read as the tokens that it spells. -/
theorem readAll?_of_spelling (h : Spelling tokens text) (hapart : tokens.IsChain Apart) :
    readAll? text = some tokens :=
  readAllWithin?_of_spelling h h.length_le hapart

theorem spelling_of_readAllWithin? {n : Nat} (h : readAllWithin? n text = some tokens) : Spelling tokens text := by
  fun_induction readAllWithin? n text generalizing tokens with
  | case1 text _ hdrop =>
    obtain rfl := Option.some.inj h
    exact .nil (List.dropWhile_eq_nil_iff.mp hdrop)
  | case2 => cases h
  | case3 text _ c rest hdrop ih =>
    simp only [Option.bind_eq_bind, Option.bind_eq_some_iff, Prod.exists, Option.some.injEq] at h
    obtain ⟨token, after, htoken, others, hothers, rfl⟩ := h
    obtain ⟨front, hfront, hafter⟩ := spelled_of_read? htoken
    rw [← List.takeWhile_append_dropWhile (p := isGap) (l := text), hdrop, hafter]
    exact .cons (fun c hc => List.mem_takeWhile_imp hc) hfront (ih after hothers)

/-- The tokens that are read are spelled by the text. -/
theorem spelling_of_readAll? (h : readAll? text = some tokens) : Spelling tokens text :=
  spelling_of_readAllWithin? h

end Token

end GeometrySource.Json

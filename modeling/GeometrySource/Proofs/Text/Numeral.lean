import Mathlib.Algebra.Group.Nat.Defs

/-!
# Decimal numerals

A numeral stands for one number. Two numerals without anything between them need not: 111 is 1 and 11, and it is 11 and 1.
Which numeral a digit in the middle belongs to can only be in doubt if it is part of a number of eleven or more either way.
-/

namespace GeometrySource.Text

/-- The number that decimal digits stand for. -/
def numeralValue (digits : List Char) : Nat :=
  Nat.ofDigitChars 10 digits 0

theorem numeralValue_toDigits (n : Nat) : numeralValue (Nat.toDigits 10 n) = n :=
  Nat.ofDigitChars_ten_toDigits

theorem toDigits_injective {n m : Nat} (h : Nat.toDigits 10 n = Nat.toDigits 10 m) : n = m := by
  rw [← numeralValue_toDigits n, h, numeralValue_toDigits]

/-- The digits of a number tell it apart. -/
theorem repr_injective {n m : Nat} (h : n.repr = m.repr) : n = m :=
  toDigits_injective (by rw [← Nat.toList_repr, ← Nat.toList_repr, h])

theorem isDigit_of_mem_repr {n : Nat} {c : Char} (h : c ∈ n.repr.toList) : c.isDigit = true := by
  rw [Nat.toList_repr] at h
  exact Nat.isDigit_of_mem_toDigits (by decide) (by decide) h

/-- Digits count ten times as much for every digit behind them. -/
theorem numeralValue_append (front back : List Char) :
    numeralValue (front ++ back) = 10 ^ back.length * numeralValue front + numeralValue back := by
  rw [numeralValue, Nat.ofDigitChars_append, Nat.ofDigitChars_eq_ofDigitChars_zero]
  rfl

/-- Digits in two parts, neither of which is zero, stand for eleven or more. -/
theorem eleven_le_numeralValue_append {front back : List Char} (hfront : 0 < numeralValue front)
    (hback : 0 < numeralValue back) : 11 ≤ numeralValue (front ++ back) := by
  have hlength : 0 < back.length := by
    rw [List.length_pos_iff]
    rintro rfl
    exact Nat.lt_irrefl 0 hback
  have hten : 10 ^ 1 ≤ 10 ^ back.length := Nat.pow_le_pow_right (by decide) hlength
  have hmany : 10 ^ 1 * 1 ≤ 10 ^ back.length * numeralValue front := Nat.mul_le_mul hten hfront
  rw [numeralValue_append]
  omega

/-- Digits that can end the numeral in front of them or begin the one behind them: there are none, or either number is eleven
or more with them. -/
theorem eq_or_eleven_le_of_shared {a b c d : Nat} (ha : 0 < a) (hd : 0 < d) {shared : List Char}
    (hc : Nat.toDigits 10 c = Nat.toDigits 10 a ++ shared) (hb : Nat.toDigits 10 b = shared ++ Nat.toDigits 10 d) :
    (a = c ∧ b = d) ∨ (11 ≤ b ∧ 11 ≤ c) := by
  by_cases hne : shared = []
  · rw [hne, List.append_nil] at hc
    rw [hne, List.nil_append] at hb
    exact Or.inl ⟨(toDigits_injective hc).symm, toDigits_injective hb⟩
  have hshared : 0 < numeralValue shared := by
    rw [Nat.pos_iff_ne_zero]
    intro hzero
    -- Zeros in front would not change the number, so the numeral would be the one without them.
    have hvalue := congrArg numeralValue hb
    rw [numeralValue_append, hzero, Nat.mul_zero, Nat.zero_add, numeralValue_toDigits, numeralValue_toDigits] at hvalue
    rw [hvalue, List.self_eq_append_left] at hb
    exact hne hb
  rw [← numeralValue_toDigits a] at ha
  rw [← numeralValue_toDigits d] at hd
  refine Or.inr ⟨?_, ?_⟩
  · rw [← numeralValue_toDigits b, hb]
    exact eleven_le_numeralValue_append hshared hd
  · rw [← numeralValue_toDigits c, hc]
    exact eleven_le_numeralValue_append ha hshared

/-- Two pairs of positive numbers that read the same without anything between the numerals are the same pair, or the second
number of one of them and the first number of the other are eleven or more. -/
theorem eq_or_eleven_le_of_repr_append_eq {a b c d : Nat} (ha : 0 < a) (hb : 0 < b) (hc : 0 < c) (hd : 0 < d)
    (h : a.repr ++ b.repr = c.repr ++ d.repr) : (a = c ∧ b = d) ∨ (11 ≤ b ∧ 11 ≤ c) ∨ (11 ≤ d ∧ 11 ≤ a) := by
  have hdigits : Nat.toDigits 10 a ++ Nat.toDigits 10 b = Nat.toDigits 10 c ++ Nat.toDigits 10 d := by
    simpa only [String.toList_append, Nat.toList_repr] using congrArg String.toList h
  rcases List.append_eq_append_iff.mp hdigits with ⟨shared, hfirst, hsecond⟩ | ⟨shared, hfirst, hsecond⟩
  · exact (eq_or_eleven_le_of_shared ha hd hfirst hsecond).imp_right Or.inl
  · rcases eq_or_eleven_le_of_shared hc hb hfirst hsecond with ⟨hca, hdb⟩ | hlarge
    · exact Or.inl ⟨hca.symm, hdb.symm⟩
    · exact Or.inr (Or.inr hlarge)

end GeometrySource.Text

import GeometrySource.Json.Number
import Mathlib.Data.List.TakeWhile

/-!
# Number literals in a text

Which characters make a number literal, and that the reader takes just these: a literal is read off the front of a text
that does not go on like a number, and what is read was a literal. The literal that a natural number is written as is one,
and stands for that number.
-/

namespace GeometrySource.Json

/-- Whether a text does not begin with a character of a kind. -/
def Avoids (kind : Char → Bool) (text : List Char) : Prop :=
  ∀ c, text.head? = some c → kind c = false

@[simp]
theorem avoids_nil (kind : Char → Bool) : Avoids kind [] := by
  simp [Avoids]

@[simp]
theorem avoids_cons {kind : Char → Bool} {c : Char} {text : List Char} : Avoids kind (c :: text) ↔ kind c = false := by
  simp [Avoids]

theorem Avoids.mono {kind other : Char → Bool} {text : List Char} (h : Avoids kind text)
    (hsub : ∀ c, other c = true → kind c = true) : Avoids other text := by
  intro c hc
  by_contra hother
  rw [Bool.not_eq_false] at hother
  exact Bool.false_ne_true ((h c hc).symm.trans (hsub c hother))

namespace Number

/-! ## What a literal is made of -/

/-- Whether a text is made of digits, at least one. -/
def IsDigits (text : List Char) : Prop :=
  text ≠ [] ∧ ∀ c ∈ text, c.isDigit = true

/-- Whether a text can stand before a fraction: a lone zero, or digits that do not begin with one. -/
def IsWhole (text : List Char) : Prop :=
  text = ['0'] ∨ IsDigits text ∧ text.head? ≠ some '0'

/-- Whether a text is nothing, or a point and digits. -/
def IsFraction (text : List Char) : Prop :=
  text = [] ∨ ∃ digits, IsDigits digits ∧ text = '.' :: digits

/-- Whether a text is nothing, or the letter of an exponent, a sign or none, and digits. -/
def IsExponent (text : List Char) : Prop :=
  text = [] ∨ ∃ letter sign digits, (letter = 'e' ∨ letter = 'E') ∧ (sign = [] ∨ sign = ['+'] ∨ sign = ['-']) ∧
    IsDigits digits ∧ text = letter :: (sign ++ digits)

/-- A literal that may stand in a JSON text. -/
structure Proper (n : Number) : Prop where
  whole : IsWhole n.whole
  fraction : IsFraction n.fraction
  exponent : IsExponent n.exponent

/-- Whether a character may stand inside a literal, signs apart. -/
def isPart (c : Char) : Bool :=
  c.isDigit || c = '.' || c = 'e' || c = 'E'

theorem avoids_isDigit {rest : List Char} (h : Avoids isPart rest) : Avoids Char.isDigit rest :=
  h.mono (by simp +contextual [isPart])

/-! ## Digits -/

theorem IsDigits.exists_cons {digits : List Char} (h : IsDigits digits) :
    ∃ c rest, digits = c :: rest ∧ c.isDigit = true := by
  obtain ⟨c, rest, rfl⟩ := List.exists_cons_of_ne_nil h.1
  exact ⟨c, rest, rfl, h.2 c List.mem_cons_self⟩

/-- Digits are read up to the first other character. -/
theorem readDigits?_append {digits rest : List Char} (h : IsDigits digits) (hrest : Avoids Char.isDigit rest) :
    readDigits? (digits ++ rest) = some (digits, rest) := by
  have htake : rest.takeWhile Char.isDigit = [] := by
    cases rest with
    | nil => rfl
    | cons c rest => exact List.takeWhile_cons_of_neg (by simpa using avoids_cons.mp hrest)
  have hdrop : rest.dropWhile Char.isDigit = rest := by
    cases rest with
    | nil => rfl
    | cons c rest => exact List.dropWhile_cons_of_neg (by simpa using avoids_cons.mp hrest)
  obtain ⟨first, others, rfl⟩ := List.exists_cons_of_ne_nil h.1
  rw [readDigits?, List.takeWhile_append_of_pos h.2, List.dropWhile_append_of_pos h.2, htake, hdrop, List.append_nil]

/-- What is read as digits is digits. -/
theorem isDigits_of_readDigits? {text digits rest : List Char} (h : readDigits? text = some (digits, rest)) :
    IsDigits digits ∧ text = digits ++ rest := by
  unfold readDigits? at h
  split at h
  · cases h
  · rename_i hne
    obtain ⟨rfl, rfl⟩ := Prod.mk.inj (Option.some.inj h)
    exact ⟨⟨hne, fun c hc => List.mem_takeWhile_imp hc⟩, List.takeWhile_append_dropWhile.symm⟩

/-! ## The digits before a fraction -/

theorem readWhole?_append {whole rest : List Char} (h : IsWhole whole) (hrest : Avoids Char.isDigit rest) :
    readWhole? (whole ++ rest) = some (whole, rest) := by
  rcases h with rfl | ⟨hdigits, hzero⟩
  · rfl
  · obtain ⟨c, others, rfl, -⟩ := hdigits.exists_cons
    rw [← readDigits?_append hdigits hrest]
    unfold readWhole?
    split
    · rename_i heq
      exact absurd (congrArg some (List.cons.inj heq).1) hzero
    · rfl

theorem isWhole_of_readWhole? {text whole rest : List Char} (h : readWhole? text = some (whole, rest)) :
    IsWhole whole ∧ text = whole ++ rest := by
  unfold readWhole? at h
  split at h
  · obtain ⟨rfl, rfl⟩ := Prod.mk.inj (Option.some.inj h)
    exact ⟨Or.inl rfl, rfl⟩
  · rename_i hne
    obtain ⟨hdigits, rfl⟩ := isDigits_of_readDigits? h
    obtain ⟨c, others, rfl, -⟩ := hdigits.exists_cons
    refine ⟨Or.inr ⟨hdigits, ?_⟩, rfl⟩
    rintro hzero
    exact hne _ (congrArg (· :: _) (Option.some.inj hzero))

/-! ## Fractions -/

theorem readFraction?_append {fraction rest : List Char} (h : IsFraction fraction)
    (hrest : Avoids (fun c => c.isDigit || c = '.') rest) : readFraction? (fraction ++ rest) = some (fraction, rest) := by
  rcases h with rfl | ⟨digits, hdigits, rfl⟩
  · rw [List.nil_append]
    unfold readFraction?
    split
    · exact absurd (avoids_cons.mp hrest) (by decide)
    · rfl
  · have hread := readDigits?_append hdigits (hrest.mono (by simp +contextual))
    rw [List.cons_append, readFraction?, hread]
    rfl

theorem isFraction_of_readFraction? {text fraction rest : List Char} (h : readFraction? text = some (fraction, rest)) :
    IsFraction fraction ∧ text = fraction ++ rest := by
  unfold readFraction? at h
  split at h
  · obtain ⟨⟨digits, after⟩, hread, heq⟩ := Option.map_eq_some_iff.mp h
    obtain ⟨rfl, rfl⟩ := Prod.mk.inj heq
    obtain ⟨hdigits, rfl⟩ := isDigits_of_readDigits? hread
    exact ⟨Or.inr ⟨digits, hdigits, rfl⟩, rfl⟩
  · obtain ⟨rfl, rfl⟩ := Prod.mk.inj (Option.some.inj h)
    exact ⟨Or.inl rfl, rfl⟩

/-! ## Exponents -/

/-- A sign is read off the front of a text that goes on with digits. -/
theorem readSign_append {sign digits rest : List Char} (hsign : sign = [] ∨ sign = ['+'] ∨ sign = ['-'])
    (h : IsDigits digits) : readSign (sign ++ (digits ++ rest)) = (sign, digits ++ rest) := by
  obtain ⟨c, others, rfl, hc⟩ := h.exists_cons
  rcases hsign with rfl | rfl | rfl
  · rw [List.nil_append, List.cons_append]
    unfold readSign
    split
    · rename_i heq
      rw [(List.cons.inj heq).1] at hc
      exact absurd hc (by decide)
    · rename_i heq
      rw [(List.cons.inj heq).1] at hc
      exact absurd hc (by decide)
    · rfl
  · rfl
  · rfl

theorem append_of_readSign {text sign rest : List Char} (h : readSign text = (sign, rest)) :
    (sign = [] ∨ sign = ['+'] ∨ sign = ['-']) ∧ text = sign ++ rest := by
  unfold readSign at h
  split at h
  all_goals
    obtain ⟨rfl, rfl⟩ := Prod.mk.inj h
    simp

theorem readExponent?_append {exponent rest : List Char} (h : IsExponent exponent) (hrest : Avoids isPart rest) :
    readExponent? (exponent ++ rest) = some (exponent, rest) := by
  rcases h with rfl | ⟨letter, sign, digits, hletter, hsign, hdigits, rfl⟩
  · cases rest with
    | nil => rfl
    | cons c rest =>
      have hc : ¬(c = 'e' ∨ c = 'E') := by
        rintro (rfl | rfl)
        · exact absurd (avoids_cons.mp hrest) (by decide)
        · exact absurd (avoids_cons.mp hrest) (by decide)
      rw [List.nil_append, readExponent?, if_neg hc]
  · have hread := readDigits?_append hdigits (avoids_isDigit hrest)
    rw [List.cons_append, List.append_assoc, readExponent?, if_pos hletter, readSign_append hsign hdigits]
    simp only [hread, Option.map_some]

theorem isExponent_of_readExponent? {text exponent rest : List Char} (h : readExponent? text = some (exponent, rest)) :
    IsExponent exponent ∧ text = exponent ++ rest := by
  cases text with
  | nil =>
    obtain ⟨rfl, rfl⟩ := Prod.mk.inj (Option.some.inj h)
    exact ⟨Or.inl rfl, rfl⟩
  | cons letter text =>
    rw [readExponent?] at h
    split at h
    · rename_i hletter
      cases hsign : readSign text with
      | mk sign after =>
        obtain ⟨hplus, rfl⟩ := append_of_readSign hsign
        simp only [hsign] at h
        obtain ⟨⟨digits, last⟩, hread, heq⟩ := Option.map_eq_some_iff.mp h
        obtain ⟨rfl, rfl⟩ := Prod.mk.inj heq
        obtain ⟨hdigits, rfl⟩ := isDigits_of_readDigits? hread
        exact ⟨Or.inr ⟨letter, sign, digits, hletter, hplus, hdigits, rfl⟩, by simp⟩
    · obtain ⟨rfl, rfl⟩ := Prod.mk.inj (Option.some.inj h)
      exact ⟨Or.inl rfl, rfl⟩

/-! ## Whole literals -/

/-- What stands behind the digits of a literal does not go on with a digit. -/
theorem Proper.avoids_fraction {n : Number} (h : n.Proper) {rest : List Char} (hrest : Avoids isPart rest) :
    Avoids Char.isDigit (n.fraction ++ (n.exponent ++ rest)) := by
  rcases h.fraction with hfraction | ⟨digits, -, hfraction⟩
  · rw [hfraction, List.nil_append]
    rcases h.exponent with hexponent | ⟨letter, sign, digits, hletter, -, -, hexponent⟩
    · rw [hexponent]
      exact avoids_isDigit hrest
    · rw [hexponent]
      rcases hletter with rfl | rfl <;> simp
  · simp [hfraction]

/-- What stands behind the fraction of a literal does not go on with a digit or a point. -/
theorem Proper.avoids_exponent {n : Number} (h : n.Proper) {rest : List Char} (hrest : Avoids isPart rest) :
    Avoids (fun c => c.isDigit || c = '.') (n.exponent ++ rest) := by
  rcases h.exponent with hexponent | ⟨letter, sign, digits, hletter, -, -, hexponent⟩
  · rw [hexponent]
    exact hrest.mono (by simp +contextual [isPart])
  · rw [hexponent]
    rcases hletter with rfl | rfl <;> simp

theorem Proper.readUnsigned?_append {n : Number} (h : n.Proper) {rest : List Char} (hrest : Avoids isPart rest) :
    readUnsigned? n.negative (n.whole ++ (n.fraction ++ (n.exponent ++ rest))) = some (n, rest) := by
  simp only [readUnsigned?, readWhole?_append h.whole (h.avoids_fraction hrest),
    readFraction?_append h.fraction (h.avoids_exponent hrest), readExponent?_append h.exponent hrest, Option.bind_eq_bind,
    Option.bind_some]

theorem IsWhole.exists_cons {whole : List Char} (h : IsWhole whole) :
    ∃ c rest, whole = c :: rest ∧ c.isDigit = true := by
  rcases h with rfl | ⟨hdigits, -⟩
  · exact ⟨'0', [], rfl, by decide⟩
  · exact hdigits.exists_cons

/-- A literal is read off the front of a text that does not go on like a number. -/
theorem Proper.read?_append {n : Number} (h : n.Proper) {rest : List Char} (hrest : Avoids isPart rest) :
    read? (n.text ++ rest) = some (n, rest) := by
  have hunsigned := h.readUnsigned?_append hrest
  unfold text
  cases hn : n.negative with
  | true =>
    rw [hn] at hunsigned
    simpa [read?] using hunsigned
  | false =>
    obtain ⟨c, others, hwhole, hc⟩ := h.whole.exists_cons
    rw [hn, hwhole, List.cons_append] at hunsigned
    simp only [Bool.false_eq_true, if_false, List.nil_append, List.append_assoc, hwhole, List.cons_append]
    unfold read?
    split
    · rename_i heq
      rw [(List.cons.inj heq).1] at hc
      exact absurd hc (by decide)
    · exact hunsigned

theorem proper_of_readUnsigned? {negative : Bool} {text rest : List Char} {n : Number}
    (h : readUnsigned? negative text = some (n, rest)) :
    n.Proper ∧ n.negative = negative ∧ text = n.whole ++ (n.fraction ++ (n.exponent ++ rest)) := by
  unfold readUnsigned? at h
  simp only [Option.bind_eq_bind, Option.bind_eq_some_iff, Prod.exists, Option.some.injEq, Prod.mk.injEq] at h
  obtain ⟨whole, _, hwhole, fraction, _, hfraction, exponent, _, hexponent, rfl, rfl⟩ := h
  obtain ⟨hw, rfl⟩ := isWhole_of_readWhole? hwhole
  obtain ⟨hf, rfl⟩ := isFraction_of_readFraction? hfraction
  obtain ⟨he, rfl⟩ := isExponent_of_readExponent? hexponent
  exact ⟨⟨hw, hf, he⟩, rfl, rfl⟩

/-- What is read as a literal is one. -/
theorem proper_of_read? {text rest : List Char} {n : Number} (h : read? text = some (n, rest)) :
    n.Proper ∧ text = n.text ++ rest := by
  unfold read? at h
  split at h
  · obtain ⟨hproper, hn, rfl⟩ := proper_of_readUnsigned? h
    exact ⟨hproper, by simp [Number.text, hn]⟩
  · obtain ⟨hproper, hn, rfl⟩ := proper_of_readUnsigned? h
    exact ⟨hproper, by simp [Number.text, hn]⟩

/-- A literal begins with a minus sign or a digit. -/
theorem Proper.exists_cons {n : Number} (h : n.Proper) : ∃ c rest, n.text = c :: rest ∧ (c = '-' ∨ c.isDigit = true) := by
  obtain ⟨c, others, hwhole, hc⟩ := h.whole.exists_cons
  unfold text
  cases n.negative with
  | true => exact ⟨'-', _, rfl, Or.inl rfl⟩
  | false => exact ⟨c, others ++ n.fraction ++ n.exponent, by simp [hwhole], Or.inr hc⟩

/-! ## Natural numbers -/

/-- No digits of a number other than zero begin with a zero. -/
theorem head?_toDigits {n : Nat} (h : n ≠ 0) : (Nat.toDigits 10 n).head? ≠ some '0' := by
  induction n using Nat.strong_induction_on with
  | _ n ih =>
    by_cases hn : n < 10
    · have hall : ∀ d < 10, d ≠ 0 → d.digitChar ≠ '0' := by decide
      rw [Nat.toDigits_of_lt_base hn]
      simpa using hall n hn h
    · have hrest : (Nat.toDigits 10 (n / 10)).head? ≠ some '0' := ih (n / 10) (by omega) (by omega)
      rw [Nat.toDigits_of_base_le (by decide) (by omega), List.head?_append]
      obtain ⟨c, others, hdigits⟩ := List.exists_cons_of_ne_nil (@Nat.toDigits_ne_nil (n / 10) 10)
      rw [hdigits] at hrest ⊢
      exact hrest

/-- The literal that a number is written as is one. -/
theorem proper_ofNat (n : Nat) : (ofNat n).Proper where
  whole := by
    by_cases hn : n = 0
    · rw [hn]
      exact Or.inl rfl
    · exact Or.inr ⟨⟨Nat.toDigits_ne_nil, fun c hc => Nat.isDigit_of_mem_toDigits (by decide) (by decide) hc⟩,
        head?_toDigits hn⟩
  fraction := Or.inl rfl
  exponent := Or.inl rfl

/-- A literal stands for a natural number exactly if it has neither sign nor fraction nor exponent. -/
theorem toNat?_eq_some_iff {literal : Number} {n : Nat} :
    literal.toNat? = some n ↔
      (literal.negative = false ∧ literal.fraction = [] ∧ literal.exponent = []) ∧
        Nat.ofDigitChars 10 literal.whole 0 = n := by
  unfold toNat?
  split
  · rename_i h
    simp only [reduceCtorEq, false_iff, not_and]
    rintro ⟨hn, hf, he⟩
    simp [hn, hf, he] at h
  · rename_i h
    simp only [not_or, not_not, Bool.not_eq_true] at h
    simp [h]

/-- The literal that a number is written as stands for it. -/
theorem toNat?_ofNat (n : Nat) : (ofNat n).toNat? = some n :=
  toNat?_eq_some_iff.mpr ⟨⟨rfl, rfl, rfl⟩, Nat.ofDigitChars_ten_toDigits⟩

end Number

end GeometrySource.Json

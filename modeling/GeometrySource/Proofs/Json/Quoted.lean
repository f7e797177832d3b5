import GeometrySource.Json.Quoted
import Mathlib.Data.List.Basic

/-!
# Strings in a text

How the items of a JSON string may be spelled, and which text they stand for. The reader takes exactly what is spelled
between quotes. Decoding gives exactly the text that the items stand for, where a character above `U+FFFF` is two code
units; a code unit of such a pair that stands alone is part of no text. A text that is encoded is spelled as it is written,
and decodes to itself.
-/

namespace GeometrySource.Json

/-! ## Hexadecimal digits -/

/-- Whether a character is the hexadecimal digit of a value, in either letter case. -/
def IsHexDigit (c : Char) (value : Nat) : Prop :=
  value < 16 ∧ (c = value.digitChar ∨ c = value.digitChar.toUpper)

instance (c : Char) (value : Nat) : Decidable (IsHexDigit c value) :=
  inferInstanceAs (Decidable (_ ∧ _))

/-- Hexadecimal digits are ASCII characters. -/
theorem toNat_lt_of_hexDigit? {c : Char} {value : Nat} (h : hexDigit? c = some value) : c.toNat < 128 := by
  have hlast : ∀ last : Char, c ≤ last → last.toNat < 128 → c.toNat < 128 := fun _ hle hlt => Nat.lt_of_le_of_lt hle hlt
  unfold hexDigit? at h
  split_ifs at h with hdigit hlower hupper
  · exact hlast '9' hdigit.2 (by decide)
  · exact hlast 'f' hlower.2 (by decide)
  · exact hlast 'F' hupper.2 (by decide)

/-- The value that is read is that of the digit. -/
theorem hexDigit?_eq_some_iff {c : Char} {value : Nat} : hexDigit? c = some value ↔ IsHexDigit c value := by
  constructor
  · intro h
    have hall : ∀ n < 128, (hexDigit? (Char.ofNat n)).all (fun v => decide (IsHexDigit (Char.ofNat n) v)) = true := by
      decide
    have hc := hall c.toNat (toNat_lt_of_hexDigit? h)
    rw [Char.ofNat_toNat, h] at hc
    simpa using hc
  · rintro ⟨hvalue, hc⟩
    have hall : ∀ v < 16, hexDigit? v.digitChar = some v ∧ hexDigit? v.digitChar.toUpper = some v := by decide
    rcases hc with rfl | rfl
    · exact (hall value hvalue).1
    · exact (hall value hvalue).2

/-- Four digits are read as the code unit whose digits they are. -/
theorem hexUnit?_eq_some_iff {a b c d : Char} {code : UInt16} :
    hexUnit? a b c d = some code ↔
      ∃ va vb vc vd, IsHexDigit a va ∧ IsHexDigit b vb ∧ IsHexDigit c vc ∧ IsHexDigit d vd ∧
        UInt16.ofNat (((va * 16 + vb) * 16 + vc) * 16 + vd) = code := by
  simp only [hexUnit?, Option.bind_eq_bind, Option.bind_eq_some_iff, hexDigit?_eq_some_iff, Option.some.injEq,
    exists_and_left]

/-! ## How items are spelled -/

/-- The escape with a letter is found. -/
theorem Escape.ofLetter?_eq_some_iff {c : Char} {e : Escape} : Escape.ofLetter? c = some e ↔ e.letter = c := by
  constructor
  · intro h
    simpa using List.find?_some h
  · rintro rfl
    cases e <;> decide

/-- The ways to spell an item. -/
inductive Item.Spelled : Item → List Char → Prop
  /-- A character stands for itself, but for the control characters, the quote and the backslash. -/
  | plain {c : Char} (hcontrol : isControl c = false) (hquote : c ≠ '"') (hbackslash : c ≠ '\\') : Spelled (.plain c) [c]
  /-- An escape is a backslash and its letter. -/
  | escape (e : Escape) : Spelled (.escape e) ['\\', e.letter]
  /-- A code unit is a backslash, the letter `u` and four hexadecimal digits. -/
  | unit {a b c d : Char} {va vb vc vd : Nat} (ha : IsHexDigit a va) (hb : IsHexDigit b vb) (hc : IsHexDigit c vc)
      (hd : IsHexDigit d vd) :
      Spelled (.unit (UInt16.ofNat (((va * 16 + vb) * 16 + vc) * 16 + vd))) ['\\', 'u', a, b, c, d]

namespace Item

variable {item : Item} {text rest : List Char}

/-- A spelled item is read off the front of any text. -/
theorem Spelled.read?_append (h : item.Spelled text) (rest : List Char) : read? (text ++ rest) = some (item, rest) := by
  cases h with
  | @plain c hcontrol hquote hbackslash =>
    rw [List.singleton_append]
    unfold read?
    split
    · rename_i heq
      exact absurd (List.cons.inj heq).1 hbackslash
    · rename_i heq
      exact absurd (List.cons.inj heq).1 hbackslash
    · rename_i heq
      obtain ⟨rfl, rfl⟩ := List.cons.inj heq
      simp [hcontrol, hquote, hbackslash]
    · rename_i heq
      cases heq
  | escape e => cases e <;> rfl
  | unit ha hb hc hd =>
    have hunit := hexUnit?_eq_some_iff.mpr ⟨_, _, _, _, ha, hb, hc, hd, rfl⟩
    simp only [List.cons_append, List.nil_append, read?, hunit, Option.map_some]

/-- What is read as an item is a spelling of it. -/
theorem spelled_of_read? (h : read? text = some (item, rest)) : ∃ front, item.Spelled front ∧ text = front ++ rest := by
  unfold read? at h
  split at h
  · obtain ⟨code, hunit, heq⟩ := Option.map_eq_some_iff.mp h
    obtain ⟨rfl, rfl⟩ := Prod.mk.inj heq
    obtain ⟨va, vb, vc, vd, ha, hb, hc, hd, rfl⟩ := hexUnit?_eq_some_iff.mp hunit
    exact ⟨_, .unit ha hb hc hd, rfl⟩
  · obtain ⟨e, hletter, heq⟩ := Option.map_eq_some_iff.mp h
    obtain ⟨rfl, rfl⟩ := Prod.mk.inj heq
    obtain rfl := Escape.ofLetter?_eq_some_iff.mp hletter
    exact ⟨_, .escape e, rfl⟩
  · split at h
    · cases h
    · rename_i c _ _ _ hc
      obtain ⟨rfl, rfl⟩ := Prod.mk.inj (Option.some.inj h)
      simp only [not_or, Bool.not_eq_true] at hc
      exact ⟨[c], .plain hc.1 hc.2.1 hc.2.2, rfl⟩
  · cases h

/-- A spelled item does not begin with a quote. -/
theorem Spelled.exists_cons (h : item.Spelled text) : ∃ c more, text = c :: more ∧ c ≠ '"' := by
  cases h with
  | plain hcontrol hquote hbackslash => exact ⟨_, [], rfl, hquote⟩
  | escape e => exact ⟨'\\', _, rfl, by decide⟩
  | unit ha hb hc hd => exact ⟨'\\', _, rfl, by decide⟩

end Item

namespace Quoted

/-- The ways to spell items: each of them, one after the other. -/
inductive Spelled : Quoted → List Char → Prop
  | nil : Spelled [] []
  | cons {item : Item} {items : Quoted} {front back : List Char} (hitem : item.Spelled front)
      (hitems : Spelled items back) : Spelled (item :: items) (front ++ back)

variable {items : Quoted} {body text rest : List Char}

/-- Every item takes up some text. -/
theorem Spelled.length_le (h : items.Spelled body) : items.length ≤ body.length := by
  induction h with
  | nil => exact Nat.le_refl 0
  | cons hitem _ ih =>
    obtain ⟨c, more, rfl, -⟩ := hitem.exists_cons
    simp only [List.length_cons, List.length_append]
    omega

theorem Spelled.readWithin?_append (h : items.Spelled body) {n : Nat} (hn : items.length < n) (rest : List Char) :
    readWithin? n (body ++ '"' :: rest) = some (items, rest) := by
  induction h generalizing n with
  | nil =>
    obtain ⟨n, rfl⟩ := Nat.exists_eq_succ_of_ne_zero (Nat.ne_zero_of_lt hn)
    rfl
  | @cons item items front back hitem _ ih =>
    obtain ⟨n, rfl⟩ := Nat.exists_eq_succ_of_ne_zero (Nat.ne_zero_of_lt hn)
    have hread := hitem.read?_append (back ++ '"' :: rest)
    have hmore := ih (Nat.lt_of_succ_lt_succ hn)
    obtain ⟨c, more, rfl, hc⟩ := hitem.exists_cons
    rw [List.append_assoc]
    unfold readWithin?
    split
    · contradiction
    · rename_i heq
      exact absurd (List.cons.inj heq).1 hc
    · rename_i heq _
      obtain rfl := Nat.succ.inj heq
      simp only [hread, hmore, Option.bind_eq_bind, Option.bind_some]

theorem spelled_of_readWithin? {n : Nat} (h : readWithin? n text = some (items, rest)) :
    ∃ body, items.Spelled body ∧ text = body ++ '"' :: rest := by
  induction n generalizing text items with
  | zero => cases h
  | succ n ih =>
    unfold readWithin? at h
    split at h
    · contradiction
    · obtain ⟨rfl, rfl⟩ := Prod.mk.inj (Option.some.inj h)
      exact ⟨[], .nil, rfl⟩
    · rename_i heq _
      obtain rfl := Nat.succ.inj heq
      simp only [Option.bind_eq_bind, Option.bind_eq_some_iff, Prod.exists, Option.some.injEq, Prod.mk.injEq] at h
      obtain ⟨item, after, hitem, others, _, hothers, rfl, rfl⟩ := h
      obtain ⟨front, hfront, rfl⟩ := Item.spelled_of_read? hitem
      obtain ⟨back, hback, rfl⟩ := ih hothers
      exact ⟨front ++ back, .cons hfront hback, (List.append_assoc ..).symm⟩

/-- Spelled items are read up to the quote behind them. -/
theorem Spelled.read?_append (h : items.Spelled body) (rest : List Char) :
    read? (body ++ '"' :: rest) = some (items, rest) := by
  have hlen := h.length_le
  exact h.readWithin?_append (by rw [List.length_append, List.length_cons]; omega) rest

/-- What is read as items is a spelling of them, with a quote behind it. -/
theorem spelled_of_read? (h : read? text = some (items, rest)) :
    ∃ body, items.Spelled body ∧ text = body ++ '"' :: rest :=
  spelled_of_readWithin? h

/-! ## The text that items stand for -/

/-- The text that items stand for, if they stand for one. A code unit stands for the character with its number, a
surrogate pair of them for a character above `U+FFFF`. -/
inductive Says : Quoted → List Char → Prop
  | nil : Says [] []
  | plain (c : Char) {items : Quoted} {text : List Char} (h : Says items text) : Says (.plain c :: items) (c :: text)
  | escape (e : Escape) {items : Quoted} {text : List Char} (h : Says items text) :
      Says (.escape e :: items) (e.meaning :: text)
  | unit {code : UInt16} {c : Char} {items : Quoted} {text : List Char} (hc : c.toNat = code.toNat)
      (h : Says items text) : Says (.unit code :: items) (c :: text)
  | pair {high low : UInt16} {c : Char} {items : Quoted} {text : List Char}
      (hhigh : 0xD800 ≤ high.toNat ∧ high.toNat ≤ 0xDBFF) (hlow : 0xDC00 ≤ low.toNat ∧ low.toNat ≤ 0xDFFF)
      (hc : c.toNat = 0x10000 + (high.toNat - 0xD800) * 0x400 + (low.toNat - 0xDC00)) (h : Says items text) :
      Says (.unit high :: .unit low :: items) (c :: text)

theorem isHigh_iff {code : UInt16} : isHigh code = true ↔ 0xD800 ≤ code.toNat ∧ code.toNat ≤ 0xDBFF := by
  simp [isHigh, UInt16.le_iff_toNat_le]

theorem isLow_iff {code : UInt16} : isLow code = true ↔ 0xDC00 ≤ code.toNat ∧ code.toNat ≤ 0xDFFF := by
  simp [isLow, UInt16.le_iff_toNat_le]

/-- A valid number is that of its character. -/
theorem toNat_ofNat_of_isValidChar {n : Nat} (h : n.isValidChar) : (Char.ofNat n).toNat = n := by
  rw [Char.ofNat, dif_pos h]
  rfl

/-- No character is numbered like a surrogate code unit. -/
theorem not_surrogate_of_toNat_eq {c : Char} {code : UInt16} (hc : c.toNat = code.toNat) :
    isHigh code = false ∧ isLow code = false := by
  have hvalid : c.toNat < 0xD800 ∨ 0xDFFF < c.toNat ∧ c.toNat < 0x110000 := c.valid
  rw [← Bool.not_eq_true, ← Bool.not_eq_true, isHigh_iff, isLow_iff]
  omega

/-- A code unit that is no surrogate is the number of a character. -/
theorem isValidChar_of_not_surrogate {code : UInt16} (hhigh : isHigh code = false) (hlow : isLow code = false) :
    code.toNat.isValidChar := by
  rw [← Bool.not_eq_true, isHigh_iff] at hhigh
  rw [← Bool.not_eq_true, isLow_iff] at hlow
  have hlt := code.toNat_lt
  unfold Nat.isValidChar
  omega

/-- The character of a surrogate pair has the number that the two code units make. -/
theorem toNat_pairChar {high low : UInt16} (hhigh : isHigh high = true) (hlow : isLow low = true) :
    (pairChar high low).toNat = 0x10000 + (high.toNat - 0xD800) * 0x400 + (low.toNat - 0xDC00) := by
  rw [isHigh_iff] at hhigh
  rw [isLow_iff] at hlow
  exact toNat_ofNat_of_isValidChar (by unfold Nat.isValidChar; omega)

/-- A code unit that is no surrogate is decoded whatever follows it. -/
theorem decodeChars?_unit {code : UInt16} (hhigh : isHigh code = false) (hlow : isLow code = false) (rest : Quoted) :
    decodeChars? (.unit code :: rest) = (decodeChars? rest).map (Char.ofNat code.toNat :: ·) := by
  cases rest with
  | nil => simp [decodeChars?, hhigh, hlow]
  | cons next rest => cases next <;> simp [decodeChars?, hhigh, hlow]

/-- Decoding gives exactly the text that the items stand for. -/
theorem decodeChars?_eq_some_iff {chars : List Char} : decodeChars? items = some chars ↔ items.Says chars := by
  constructor
  · intro h
    -- The cases that are not named are those of surrogates without their partners, where nothing is decoded.
    fun_induction decodeChars? items generalizing chars with
    | case1 =>
      obtain rfl := Option.some.inj h
      exact .nil
    | case2 c rest ih =>
      obtain ⟨more, hmore, rfl⟩ := Option.map_eq_some_iff.mp h
      exact .plain c (ih hmore)
    | case3 e rest ih =>
      obtain ⟨more, hmore, rfl⟩ := Option.map_eq_some_iff.mp h
      exact .escape e (ih hmore)
    | case4 high low rest hhigh hlow ih =>
      obtain ⟨more, hmore, rfl⟩ := Option.map_eq_some_iff.mp h
      exact .pair (isHigh_iff.mp hhigh) (isLow_iff.mp hlow) (toNat_pairChar hhigh hlow) (ih hmore)
    | case7 high low rest hhigh hlow ih =>
      obtain ⟨more, hmore, rfl⟩ := Option.map_eq_some_iff.mp h
      rw [Bool.not_eq_true] at hhigh hlow
      exact .unit (toNat_ofNat_of_isValidChar (isValidChar_of_not_surrogate hhigh hlow)) (ih hmore)
    | case9 code rest hnext hcode ih =>
      obtain ⟨more, hmore, rfl⟩ := Option.map_eq_some_iff.mp h
      simp only [Bool.or_eq_true, not_or, Bool.not_eq_true] at hcode
      exact .unit (toNat_ofNat_of_isValidChar (isValidChar_of_not_surrogate hcode.1 hcode.2)) (ih hmore)
    | _ => cases h
  · intro h
    induction h with
    | nil => rfl
    | plain c _ ih => rw [decodeChars?, ih, Option.map_some]
    | escape e _ ih => rw [decodeChars?, ih, Option.map_some]
    | unit hc _ ih =>
      obtain ⟨hhigh, hlow⟩ := not_surrogate_of_toNat_eq hc
      rw [decodeChars?_unit hhigh hlow, ih, Option.map_some, ← hc, Char.ofNat_toNat]
    | @pair high low c _ _ hhigh hlow hc _ ih =>
      have hpair : pairChar high low = c := by rw [pairChar, ← hc, Char.ofNat_toNat]
      rw [decodeChars?, if_pos (isHigh_iff.mpr hhigh), if_pos (isLow_iff.mpr hlow), ih, Option.map_some, hpair]

theorem decode?_eq_some_iff {name : String} : items.decode? = some name ↔ items.Says name.toList := by
  rw [← decodeChars?_eq_some_iff, decode?, Option.map_eq_some_iff]
  constructor
  · rintro ⟨chars, hchars, rfl⟩
    rw [hchars, String.toList_ofList]
  · intro h
    exact ⟨_, h, String.ofList_toList⟩

end Quoted

/-! ## What a text is encoded as -/

namespace Item

/-- A code unit is spelled by its digits. -/
theorem spelled_unit (code : UInt16) : (unit code).Spelled (unit code).text := by
  have hdigit : ∀ v < 16, IsHexDigit v.digitChar v := fun v hv => ⟨hv, Or.inl rfl⟩
  have hlt := code.toNat_lt
  have hvalue : ((code.toNat / 4096 * 16 + code.toNat / 256 % 16) * 16 + code.toNat / 16 % 16) * 16 + code.toNat % 16 =
      code.toNat := by omega
  have h := Spelled.unit (hdigit (code.toNat / 4096) (by omega)) (hdigit (code.toNat / 256 % 16) (by omega))
    (hdigit (code.toNat / 16 % 16) (by omega)) (hdigit (code.toNat % 16) (by omega))
  rw [hvalue, UInt16.ofNat_toNat] at h
  exact h

/-- The item that a character is written as is spelled by its text. -/
theorem spelled_ofChar (c : Char) : (ofChar c).Spelled (ofChar c).text := by
  unfold ofChar
  split
  · exact .escape _
  · rename_i hnone
    split
    · exact spelled_unit _
    · rename_i hcontrol
      refine .plain (Bool.not_eq_true _ ▸ hcontrol) ?_ ?_
      · rintro rfl
        exact absurd hnone (by decide)
      · rintro rfl
        exact absurd hnone (by decide)

/-- The item that a character is written as stands for it. -/
theorem says_ofChar (c : Char) {items : Quoted} {text : List Char} (h : items.Says text) :
    Quoted.Says (ofChar c :: items) (c :: text) := by
  unfold ofChar
  split
  · rename_i e he
    have hmeaning : e.meaning = c := by simpa using List.find?_some he
    exact hmeaning ▸ .escape e h
  · split
    · rename_i hcontrol
      simp only [isControl, decide_eq_true_eq] at hcontrol
      exact .unit (by rw [UInt16.toNat_ofNat']; omega) h
    · exact .plain c h

end Item

namespace Quoted

/-- An encoded text is spelled as it is written. -/
theorem spelled_encode (text : String) : (encode text).Spelled ((encode text).flatMap Item.text) := by
  unfold encode
  induction text.toList with
  | nil => exact .nil
  | cons c more ih => exact .cons (Item.spelled_ofChar c) ih

/-- An encoded text stands for that text. -/
theorem says_encode (text : String) : (encode text).Says text.toList := by
  unfold encode
  induction text.toList with
  | nil => exact .nil
  | cons c more ih => exact Item.says_ofChar c ih

end Quoted

end GeometrySource.Json

import GeometrySource.Numeric.Conversion
import Mathlib

/-!
# Widening loses nothing

An integer representation holds the integers that its bit patterns stand for, in two's complement if it is signed. One
integer representation widens to another exactly if the other holds all its integers and more. Floating representations
widen to wider ones only, and all integers widen to them; so over all representations widening is a strict partial order.
-/

namespace GeometrySource

namespace Representation

/-- The integers that a representation holds: what its bit patterns stand for, in two's complement if it is signed. None
are counted for a floating representation, whose width alone does not say which of its numbers are integers. -/
def integers (r : Representation) : Set Int :=
  match r.numberClass with
  | .signedInteger => Set.range (BitVec.toInt : BitVec r.bits → Int)
  | .unsignedInteger => Set.range fun pattern : BitVec r.bits => (pattern.toNat : Int)
  | .floating => ∅

variable {bits width : Nat} {source target : Representation}

/-! ## Ranges -/

/-- Half of the patterns of a signed representation stand for negative integers. -/
theorem integers_signed (h : 1 ≤ bits) :
    integers ⟨.signedInteger, bits⟩ = Set.Icc (-2 ^ (bits - 1)) (2 ^ (bits - 1) - 1) := by
  ext z
  constructor
  · rintro ⟨pattern, rfl⟩
    exact ⟨BitVec.le_toInt pattern, Int.le_sub_one_of_lt (BitVec.toInt_lt (x := pattern))⟩
  · rintro ⟨hlower, hupper⟩
    exact ⟨BitVec.ofInt bits z, BitVec.toInt_ofInt_eq_self h hlower (Int.lt_of_le_sub_one hupper)⟩

/-- The patterns of an unsigned representation are counted from zero. -/
theorem integers_unsigned : integers ⟨.unsignedInteger, bits⟩ = Set.Icc 0 (2 ^ bits - 1) := by
  ext z
  constructor
  · rintro ⟨pattern, rfl⟩
    have hlt : (pattern.toNat : Int) < 2 ^ bits := by exact_mod_cast pattern.isLt
    exact ⟨Int.natCast_nonneg _, Int.le_sub_one_of_lt hlt⟩
  · rintro ⟨hlower, hupper⟩
    obtain ⟨n, rfl⟩ := Int.eq_ofNat_of_zero_le hlower
    have hlt : n < 2 ^ bits := by exact_mod_cast Int.lt_of_le_sub_one hupper
    exact ⟨BitVec.ofNat bits n, by simp [Nat.mod_eq_of_lt hlt]⟩

/-! ## What holds what -/

theorem signed_subset_signed_iff (h : 1 ≤ bits) (hw : 1 ≤ width) :
    integers ⟨.signedInteger, bits⟩ ⊆ integers ⟨.signedInteger, width⟩ ↔ bits ≤ width := by
  have hpos : (0 : Int) < 2 ^ (bits - 1) := Int.pow_pos (by decide)
  have hpow : (2 : Int) ^ (bits - 1) ≤ 2 ^ (width - 1) ↔ bits - 1 ≤ width - 1 := pow_le_pow_iff_right₀ (by decide)
  rw [integers_signed h, integers_signed hw, Set.Icc_subset_Icc_iff (by omega), Int.neg_le_neg_iff]
  omega

theorem unsigned_subset_unsigned_iff :
    integers ⟨.unsignedInteger, bits⟩ ⊆ integers ⟨.unsignedInteger, width⟩ ↔ bits ≤ width := by
  have hpos : (0 : Int) < 2 ^ bits := Int.pow_pos (by decide)
  have hpow : (2 : Int) ^ bits ≤ 2 ^ width ↔ bits ≤ width := pow_le_pow_iff_right₀ (by decide)
  rw [integers_unsigned, integers_unsigned, Set.Icc_subset_Icc_iff (by omega)]
  omega

/-- One bit of a signed representation is taken by the sign. -/
theorem unsigned_subset_signed_iff (hw : 1 ≤ width) :
    integers ⟨.unsignedInteger, bits⟩ ⊆ integers ⟨.signedInteger, width⟩ ↔ bits < width := by
  have hpos : (0 : Int) < 2 ^ bits := Int.pow_pos (by decide)
  have hpos' : (0 : Int) < 2 ^ (width - 1) := Int.pow_pos (by decide)
  have hpow : (2 : Int) ^ bits ≤ 2 ^ (width - 1) ↔ bits ≤ width - 1 := pow_le_pow_iff_right₀ (by decide)
  rw [integers_unsigned, integers_signed hw, Set.Icc_subset_Icc_iff (by omega)]
  omega

/-- Every signed representation holds a negative integer, even that of one bit. -/
theorem not_signed_subset_unsigned (h : 1 ≤ bits) :
    ¬integers ⟨.signedInteger, bits⟩ ⊆ integers ⟨.unsignedInteger, width⟩ := by
  have hpos : (0 : Int) < 2 ^ (bits - 1) := Int.pow_pos (by decide)
  rw [integers_signed h, integers_unsigned, Set.Icc_subset_Icc_iff (by omega)]
  omega

/-- An integer representation widens to another exactly if the other holds all its integers and more. -/
theorem widensTo_iff_ssubset (hs : source.isFloating = false) (ht : target.isFloating = false)
    (hsource : 1 ≤ source.bits) (htarget : 1 ≤ target.bits) :
    source.widensTo target = true ↔ source.integers ⊂ target.integers := by
  obtain ⟨sourceClass, bits⟩ := source
  obtain ⟨targetClass, width⟩ := target
  rw [ssubset_iff_subset_not_subset]
  cases sourceClass with
  | floating => cases hs
  | signedInteger =>
    cases targetClass with
    | floating => cases ht
    | signedInteger =>
      rw [signed_subset_signed_iff hsource htarget, signed_subset_signed_iff htarget hsource]
      simp only [widensTo, decide_eq_true_eq]
      omega
    | unsignedInteger => simp [widensTo, not_signed_subset_unsigned hsource]
  | unsignedInteger =>
    cases targetClass with
    | floating => cases ht
    | signedInteger => simp [widensTo, unsigned_subset_signed_iff htarget, not_signed_subset_unsigned htarget]
    | unsignedInteger =>
      rw [unsigned_subset_unsigned_iff, unsigned_subset_unsigned_iff]
      simp only [widensTo, decide_eq_true_eq]
      omega

/-! ## The order -/

/-- There are two ways to widen: from integers to floating numbers, and otherwise by more bits, within a class or to signed
from unsigned. -/
theorem widensTo_iff :
    source.widensTo target = true ↔
      (source.numberClass ≠ .floating ∧ target.numberClass = .floating) ∨
        (source.bits < target.bits ∧ (source.numberClass = target.numberClass ∨
          (source.numberClass = .unsignedInteger ∧ target.numberClass = .signedInteger))) := by
  obtain ⟨sourceClass, bits⟩ := source
  obtain ⟨targetClass, width⟩ := target
  cases sourceClass <;> cases targetClass <;> simp [widensTo]

/-- No integer representation is wide enough for floating numbers. -/
theorem not_widensTo_integer (hs : source.isFloating = true) (ht : target.isFloating = false) :
    source.widensTo target = false := by
  have hfloating : source.numberClass = .floating := of_decide_eq_true hs
  have hinteger : target.numberClass ≠ .floating := of_decide_eq_false ht
  rw [Bool.eq_false_iff, ne_eq, widensTo_iff, hfloating]
  rintro (⟨hne, -⟩ | ⟨-, hsame | ⟨hunsigned, -⟩⟩)
  · exact hne rfl
  · exact hinteger hsame.symm
  · cases hunsigned

theorem not_widensTo_self (r : Representation) : r.widensTo r = false := by
  rw [Bool.eq_false_iff, ne_eq, widensTo_iff]
  rintro (⟨hinteger, hfloating⟩ | ⟨hbits, -⟩)
  · exact hinteger hfloating
  · exact Nat.lt_irrefl _ hbits

theorem widensTo_trans {first second third : Representation} (h : first.widensTo second = true)
    (h' : second.widensTo third = true) : first.widensTo third = true := by
  rw [widensTo_iff] at h h' ⊢
  rcases h with ⟨hinteger, hfloating⟩ | ⟨hbits, hclass⟩
  · -- From a floating second there is no way but to a floating third.
    refine Or.inl ⟨hinteger, ?_⟩
    rcases h' with ⟨hsecond, -⟩ | ⟨-, hsame | ⟨hunsigned, -⟩⟩
    · exact absurd hfloating hsecond
    · exact hsame.symm.trans hfloating
    · rw [hfloating] at hunsigned
      cases hunsigned
  · rcases h' with ⟨hsecond, hfloating⟩ | ⟨hbits', hclass'⟩
    · refine Or.inl ⟨?_, hfloating⟩
      rcases hclass with hsame | ⟨hunsigned, -⟩
      · rwa [hsame]
      · rw [hunsigned]
        decide
    · refine Or.inr ⟨hbits.trans hbits', ?_⟩
      rcases hclass with hsame | ⟨hunsigned, hsigned⟩
      · rwa [hsame]
      · rcases hclass' with hsame' | ⟨hunsigned', -⟩
        · exact Or.inr ⟨hunsigned, hsame'.symm.trans hsigned⟩
        · rw [hsigned] at hunsigned'
          cases hunsigned'

end Representation

namespace Numeric

theorem one_le_bits (n : Numeric) : 1 ≤ n.representation.bits := by
  cases n <;> decide

/-- A conversion operator is implicit exactly if the source widens to the target. -/
theorem conversionKind_eq_implicit_iff {source target : Numeric} :
    source.conversionKind target = .implicit ↔ source.representation.widensTo target.representation = true := by
  unfold conversionKind convertsImplicitly
  split
  · rename_i hwidens
    exact iff_of_true rfl hwidens
  · rename_i hnarrow
    exact iff_of_false (by decide) hnarrow

end Numeric

namespace Representation

/-- Widening loses nothing, and is a strict partial order:
1. A signed integer representation holds the integers of two's complement, an unsigned one those from zero on.
2. An integer representation widens to another exactly if the other holds all its integers and the two do not hold the
   same. So a conversion operator between integer number types is implicit exactly then.
3. No floating representation widens to an integer one, and every integer one to every floating one.
4. No representation widens to itself, and widening twice is widening. -/
theorem widening_lossless :
    (∀ bits, 1 ≤ bits →
      integers ⟨.signedInteger, bits⟩ = Set.Icc (-2 ^ (bits - 1)) (2 ^ (bits - 1) - 1) ∧
        integers ⟨.unsignedInteger, bits⟩ = Set.Icc 0 (2 ^ bits - 1)) ∧
      ((∀ source target : Representation, source.isFloating = false → target.isFloating = false →
          1 ≤ source.bits → 1 ≤ target.bits →
            (source.widensTo target = true ↔
              source.integers ⊆ target.integers ∧ source.integers ≠ target.integers)) ∧
        ∀ source target : Numeric, source.isFloating = false → target.isFloating = false →
          (source.conversionKind target = .implicit ↔
            source.representation.integers ⊆ target.representation.integers ∧
              source.representation.integers ≠ target.representation.integers)) ∧
      (∀ source target : Representation,
        (source.isFloating = true → target.isFloating = false → source.widensTo target = false) ∧
          (source.isFloating = false → target.isFloating = true → source.widensTo target = true)) ∧
      (∀ r : Representation, r.widensTo r = false) ∧
      ∀ first second third : Representation, first.widensTo second = true → second.widensTo third = true →
        first.widensTo third = true := by
  refine ⟨fun bits h => ⟨integers_signed h, integers_unsigned⟩, ⟨fun source target hs ht hsource htarget => ?_,
    fun source target hs ht => ?_⟩, fun source target => ⟨fun hs ht => ?_, fun hs ht => ?_⟩, not_widensTo_self,
    fun first second third => widensTo_trans⟩
  · rw [widensTo_iff_ssubset hs ht hsource htarget, Set.ssubset_iff_subset_ne]
  · rw [Numeric.conversionKind_eq_implicit_iff,
      widensTo_iff_ssubset hs ht source.one_le_bits target.one_le_bits, Set.ssubset_iff_subset_ne]
  · exact not_widensTo_integer hs ht
  · exact widensTo_iff.mpr (Or.inl ⟨of_decide_eq_false hs, of_decide_eq_true ht⟩)

/-- Seven unsigned bits fit into eight signed ones, but eight do not; and unsigned bytes become floating numbers by way of
signed integers too. -/
theorem widening_lossless_byte :
    (integers ⟨.unsignedInteger, 7⟩ ⊆ integers ⟨.signedInteger, 8⟩ ∧
        integers ⟨.unsignedInteger, 7⟩ ≠ integers ⟨.signedInteger, 8⟩) ∧
      ¬(integers ⟨.unsignedInteger, 8⟩ ⊆ integers ⟨.signedInteger, 8⟩ ∧
        integers ⟨.unsignedInteger, 8⟩ ≠ integers ⟨.signedInteger, 8⟩) ∧
      (Numeric.uint.representation.integers ⊆ Numeric.long.representation.integers ∧
        Numeric.uint.representation.integers ≠ Numeric.long.representation.integers) ∧
      integers ⟨.signedInteger, 8⟩ = Set.Icc (-128) 127 ∧
      widensTo ⟨.floating, 32⟩ ⟨.signedInteger, 64⟩ = false ∧ widensTo ⟨.signedInteger, 64⟩ ⟨.floating, 32⟩ = true ∧
      widensTo ⟨.unsignedInteger, 8⟩ ⟨.floating, 32⟩ = true := by
  obtain ⟨hranges, ⟨hwidens, himplicit⟩, hfloating, -, htrans⟩ := widening_lossless
  refine ⟨(hwidens ⟨.unsignedInteger, 7⟩ ⟨.signedInteger, 8⟩ rfl rfl (by decide) (by decide)).mp rfl, ?_,
    (himplicit .uint .long rfl rfl).mp rfl, (hranges 8 (by decide)).1,
    (hfloating ⟨.floating, 32⟩ ⟨.signedInteger, 64⟩).1 rfl rfl,
    (hfloating ⟨.signedInteger, 64⟩ ⟨.floating, 32⟩).2 rfl rfl,
    htrans ⟨.unsignedInteger, 8⟩ ⟨.signedInteger, 16⟩ ⟨.floating, 32⟩ rfl rfl⟩
  rw [← hwidens ⟨.unsignedInteger, 8⟩ ⟨.signedInteger, 8⟩ rfl rfl (by decide) (by decide)]
  decide

end Representation

end GeometrySource

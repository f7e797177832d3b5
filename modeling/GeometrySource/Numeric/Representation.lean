/-!
# Number representations

A representation is a class of numbers together with a width in bits. This module holds the widening rule between
representations, for every class and every width: `widensTo` says when a value can change its representation without a
cast.
-/

namespace GeometrySource

/-- How a number type represents values. -/
inductive NumberClass
  | signedInteger
  | unsignedInteger
  | floating
  deriving DecidableEq, Repr

/-- The name of a class. -/
def NumberClass.name : NumberClass → String
  | .signedInteger => "SignedInteger"
  | .unsignedInteger => "UnsignedInteger"
  | .floating => "Floating"

/-- A class of numbers with the width, in bits, of one value. -/
structure Representation where
  numberClass : NumberClass
  bits : Nat
  deriving DecidableEq, Repr

namespace Representation

/-- Floating point representations hold fractions; the others hold integers only. -/
def isFloating (r : Representation) : Bool :=
  r.numberClass = .floating

/-- Whether a value changes from `source` to `target` without a cast. Integers widen to every floating representation.
Within one class, and from unsigned to signed integers, the target has to be wider. Floating numbers never widen to
integers, nor signed integers to unsigned ones. -/
def widensTo (source target : Representation) : Bool :=
  match source.numberClass, target.numberClass with
  | .signedInteger, .floating => true
  | .unsignedInteger, .floating => true
  | .floating, .floating => source.bits < target.bits
  | .floating, .signedInteger => false
  | .floating, .unsignedInteger => false
  | .signedInteger, .signedInteger => source.bits < target.bits
  | .signedInteger, .unsignedInteger => false
  | .unsignedInteger, .signedInteger => source.bits < target.bits
  | .unsignedInteger, .unsignedInteger => source.bits < target.bits

/-- The plural description of the numbers, as doc comments put it. Floating numbers of 32 bits are single precision, all
others double. -/
def description (r : Representation) : String :=
  match r.numberClass with
  | .floating =>
    if r.bits = 32 then "single precision floating point numbers" else "double precision floating point numbers"
  | .signedInteger => r.bits.repr ++ "-bit signed integers"
  | .unsignedInteger => r.bits.repr ++ "-bit unsigned integers"

end Representation

end GeometrySource

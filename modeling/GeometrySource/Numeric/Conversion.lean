import GeometrySource.Numeric.Basic

/-!
# Conversions between number types

A conversion operator between two number types is implicit when the source widens to the target, and explicit otherwise.
It carries a marker when it brings a type from outside the common language subset into one inside it.
-/

namespace GeometrySource

/-- How a conversion operator is declared. -/
inductive ConversionKind
  | implicit
  | explicit
  deriving DecidableEq, Repr

/-- The word that declares a conversion operator. -/
def ConversionKind.keyword : ConversionKind → String
  | .implicit => "implicit"
  | .explicit => "explicit"

namespace Numeric

/-- Whether values of `source` become values of `target` without a cast. -/
def convertsImplicitly (source target : Numeric) : Bool :=
  source.representation.widensTo target.representation

/-- How an operator from `source` into `target` is declared. -/
def conversionKind (source target : Numeric) : ConversionKind :=
  if source.convertsImplicitly target then .implicit else .explicit

/-- Whether a conversion into `target` from `source` leaves the common language subset that `target` belongs to. -/
def needsClsMarker (source target : Numeric) : Bool :=
  target.clsCompliant && !source.clsCompliant

end Numeric

end GeometrySource

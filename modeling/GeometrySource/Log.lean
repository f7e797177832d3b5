/-!
# Log records

The records that generation leaves behind. A batch has no order of its own, so its records are listed by the name of their
level, and then by their text.
-/

namespace GeometrySource

/-- How important a record is. -/
inductive LogLevel
  | trace
  | debug
  | info
  deriving DecidableEq, Repr

/-- The name of a level. -/
def LogLevel.name : LogLevel → String
  | .trace => "TRACE"
  | .debug => "DEBUG"
  | .info => "INFO"

/-- One record. -/
structure LogRecord where
  level : LogLevel
  message : String
  deriving DecidableEq, Repr

namespace LogRecord

/-- Whether a record is listed no later than another one. -/
def listedBefore (a b : LogRecord) : Bool :=
  if a.level.name = b.level.name then decide (a.message ≤ b.message) else decide (a.level.name ≤ b.level.name)

/-- The records in listing order. -/
def listed (records : List LogRecord) : List LogRecord :=
  records.mergeSort listedBefore

end LogRecord

end GeometrySource

/-!
# Number literals

A JSON number literal, kept as it is written. Only literals without sign, fraction and exponent stand for a natural
number, whatever their value would be. The literals are those of the JSON standard, and which of them are natural numbers is
what a JSON library documents; the generator has no code for either.
-/

namespace GeometrySource.Json

/-- A number literal in its parts. -/
structure Number where
  /-- Whether a minus sign stands in front. -/
  negative : Bool
  /-- The digits before the fraction, with no needless zero in front. -/
  whole : List Char
  /-- The point and the digits after it, or nothing. -/
  fraction : List Char
  /-- The exponent's letter, sign and digits, or nothing. -/
  exponent : List Char
  deriving DecidableEq, Repr

namespace Number

/-- The literal as it is written. -/
def text (n : Number) : List Char :=
  (if n.negative then ['-'] else []) ++ n.whole ++ n.fraction ++ n.exponent

/-- The literal that a natural number is written as. -/
def ofNat (n : Nat) : Number :=
  ⟨false, Nat.toDigits 10 n, [], []⟩

/-- The natural number that a literal stands for, if it has neither sign nor fraction nor exponent. -/
def toNat? (n : Number) : Option Nat :=
  if n.negative ∨ n.fraction ≠ [] ∨ n.exponent ≠ [] then none else some (Nat.ofDigitChars 10 n.whole 0)

/-- The digits at the start of a text and what follows them; at least one digit has to be there. -/
def readDigits? (text : List Char) : Option (List Char × List Char) :=
  match text.takeWhile Char.isDigit with
  | [] => none
  | digits => some (digits, text.dropWhile Char.isDigit)

/-- The digits before a fraction: a lone zero, or digits that do not begin with one. -/
def readWhole? : List Char → Option (List Char × List Char)
  | '0' :: rest => some (['0'], rest)
  | text => readDigits? text

/-- A point with digits after it, if the text begins with a point. -/
def readFraction? : List Char → Option (List Char × List Char)
  | '.' :: rest => (readDigits? rest).map fun (digits, rest) => ('.' :: digits, rest)
  | text => some ([], text)

/-- The sign of an exponent, if there is one. -/
def readSign : List Char → List Char × List Char
  | '+' :: rest => (['+'], rest)
  | '-' :: rest => (['-'], rest)
  | text => ([], text)

/-- An exponent, if the text begins with its letter. -/
def readExponent? : List Char → Option (List Char × List Char)
  | [] => some ([], [])
  | letter :: rest =>
    if letter = 'e' ∨ letter = 'E' then
      let (sign, rest) := readSign rest
      (readDigits? rest).map fun (digits, rest) => (letter :: (sign ++ digits), rest)
    else
      some ([], letter :: rest)

/-- The number literal without its sign at the start of a text. -/
def readUnsigned? (negative : Bool) (text : List Char) : Option (Number × List Char) := do
  let (whole, rest) ← readWhole? text
  let (fraction, rest) ← readFraction? rest
  let (exponent, rest) ← readExponent? rest
  some (⟨negative, whole, fraction, exponent⟩, rest)

/-- The number literal at the start of a text, as long as it can be, and what follows it. -/
def read? : List Char → Option (Number × List Char)
  | '-' :: rest => readUnsigned? true rest
  | text => readUnsigned? false text

end Number

end GeometrySource.Json

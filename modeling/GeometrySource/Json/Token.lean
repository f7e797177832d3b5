import GeometrySource.Json.Number
import GeometrySource.Json.Quoted

/-!
# Tokens

The lexical units of a JSON text. Blanks between tokens are dropped here and appear nowhere else; what a token is written
as is its `text`.

The generator has no reader or writer of its own for JSON, but leaves it to a library. This module and the other ones about
JSON follow what is documented of that library and of the JSON standard; they do not follow any code of the generator.
-/

namespace GeometrySource.Json

/-- A lexical unit of a JSON text. -/
inductive Token
  | openArray
  | closeArray
  | openObject
  | closeObject
  | comma
  | colon
  | null
  | bool (value : Bool)
  | number (literal : Number)
  | string (items : Quoted)
  deriving DecidableEq, Repr

/-- The blanks that may stand between tokens. -/
def isGap (c : Char) : Bool :=
  c = ' ' || c = '\t' || c = '\n' || c = '\r'

namespace Token

/-- The token as it is written. -/
def text : Token → List Char
  | openArray => ['[']
  | closeArray => [']']
  | openObject => ['\x7b']
  | closeObject => ['\x7d']
  | comma => [',']
  | colon => [':']
  | null => ['n', 'u', 'l', 'l']
  | bool true => ['t', 'r', 'u', 'e']
  | bool false => ['f', 'a', 'l', 's', 'e']
  | number literal => literal.text
  | string items => '"' :: (items.flatMap Item.text ++ ['"'])

/-- The token at the start of a text that begins with no blank, and what follows it. -/
def read? : List Char → Option (Token × List Char)
  | '[' :: rest => some (openArray, rest)
  | ']' :: rest => some (closeArray, rest)
  | '\x7b' :: rest => some (openObject, rest)
  | '\x7d' :: rest => some (closeObject, rest)
  | ',' :: rest => some (comma, rest)
  | ':' :: rest => some (colon, rest)
  | 'n' :: 'u' :: 'l' :: 'l' :: rest => some (null, rest)
  | 't' :: 'r' :: 'u' :: 'e' :: rest => some (bool true, rest)
  | 'f' :: 'a' :: 'l' :: 's' :: 'e' :: rest => some (bool false, rest)
  | '"' :: rest => (Quoted.read? rest).map fun (items, rest) => (string items, rest)
  | text => (Number.read? text).map fun (literal, rest) => (number literal, rest)

/-- The tokens of a text. The first argument bounds their number. -/
def readAllWithin? : Nat → List Char → Option (List Token)
  | bound, text =>
    match text.dropWhile isGap, bound with
    | [], _ => some []
    | _ :: _, 0 => none
    | c :: rest, n + 1 => do
      let (token, rest) ← read? (c :: rest)
      let tokens ← readAllWithin? n rest
      some (token :: tokens)

/-- The tokens of a text, if it is made of tokens and blanks only. -/
def readAll? (text : List Char) : Option (List Token) :=
  readAllWithin? text.length text

end Token

end GeometrySource.Json

/-!
# Text between quotes

What stands between the quotes of a JSON string: characters, short escapes and code units. A text is decoded from these
items, and fails to decode when a surrogate code unit has no partner; `encode` chooses the one spelling that is written.
The items are those of the JSON standard, and their choice in writing is what a JSON library documents; the generator has no
code for either.
-/

namespace GeometrySource.Json

/-- An escape of two characters: a backslash and a letter. -/
inductive Escape
  | quote
  | backslash
  | slash
  | backspace
  | formFeed
  | lineFeed
  | carriageReturn
  | tab
  deriving DecidableEq, Repr

namespace Escape

/-- The escapes. -/
def all : List Escape :=
  [quote, backslash, slash, backspace, formFeed, lineFeed, carriageReturn, tab]

/-- The character after the backslash. -/
def letter : Escape → Char
  | quote => '"'
  | backslash => '\\'
  | slash => '/'
  | backspace => 'b'
  | formFeed => 'f'
  | lineFeed => 'n'
  | carriageReturn => 'r'
  | tab => 't'

/-- The character that the escape stands for. -/
def meaning : Escape → Char
  | quote => '"'
  | backslash => '\\'
  | slash => '/'
  | backspace => '\x08'
  | formFeed => '\x0c'
  | lineFeed => '\n'
  | carriageReturn => '\r'
  | tab => '\t'

/-- The escape with a letter. -/
def ofLetter? (c : Char) : Option Escape :=
  all.find? fun e => e.letter = c

/-- The escape that a character is written as. The slash has one that is never written. -/
def ofMeaning? (c : Char) : Option Escape :=
  (all.filter (· ≠ slash)).find? fun e => e.meaning = c

end Escape

/-- One item between the quotes of a JSON string. -/
inductive Item
  /-- A character that stands for itself. -/
  | plain (c : Char)
  /-- An escape of two characters. -/
  | escape (e : Escape)
  /-- A code unit of sixteen bits, written as four hexadecimal digits. -/
  | unit (code : UInt16)
  deriving DecidableEq, Repr

/-- What stands between the quotes of a JSON string. -/
abbrev Quoted := List Item

/-- Control characters below the space may not stand for themselves in a string. -/
def isControl (c : Char) : Bool :=
  c.toNat < 0x20

/-- The value of a hexadecimal digit of either letter case. -/
def hexDigit? (c : Char) : Option Nat :=
  if '0' ≤ c ∧ c ≤ '9' then some (c.toNat - '0'.toNat)
  else if 'a' ≤ c ∧ c ≤ 'f' then some (c.toNat - 'a'.toNat + 10)
  else if 'A' ≤ c ∧ c ≤ 'F' then some (c.toNat - 'A'.toNat + 10)
  else none

/-- The code unit that four hexadecimal digits spell. -/
def hexUnit? (a b c d : Char) : Option UInt16 := do
  let a ← hexDigit? a
  let b ← hexDigit? b
  let c ← hexDigit? c
  let d ← hexDigit? d
  some (UInt16.ofNat (((a * 16 + b) * 16 + c) * 16 + d))

namespace Item

/-- The item as it is written, with lower-case hexadecimal digits. -/
def text : Item → List Char
  | plain c => [c]
  | escape e => ['\\', e.letter]
  | unit code =>
    let n := code.toNat
    ['\\', 'u', Nat.digitChar (n / 4096), Nat.digitChar (n / 256 % 16), Nat.digitChar (n / 16 % 16),
      Nat.digitChar (n % 16)]

/-- The item that a character is written as: its short escape if it has one, else its code unit if it is a control
character, else itself. -/
def ofChar (c : Char) : Item :=
  match Escape.ofMeaning? c with
  | some e => escape e
  | none => if isControl c then unit (UInt16.ofNat c.toNat) else plain c

/-- The first item of some text, and the text after it. There is none before a quote, at a control character, at an
unknown escape, and at the end. -/
def read? : List Char → Option (Item × List Char)
  | '\\' :: 'u' :: a :: b :: c :: d :: rest => (hexUnit? a b c d).map fun code => (unit code, rest)
  | '\\' :: letter :: rest => (Escape.ofLetter? letter).map fun e => (escape e, rest)
  | c :: rest => if isControl c ∨ c = '"' ∨ c = '\\' then none else some (plain c, rest)
  | [] => none

end Item

namespace Quoted

/-- Whether a code unit opens a surrogate pair. -/
def isHigh (code : UInt16) : Bool :=
  0xD800 ≤ code && code ≤ 0xDBFF

/-- Whether a code unit closes a surrogate pair. -/
def isLow (code : UInt16) : Bool :=
  0xDC00 ≤ code && code ≤ 0xDFFF

/-- The character that a surrogate pair stands for. -/
def pairChar (high low : UInt16) : Char :=
  Char.ofNat (0x10000 + (high.toNat - 0xD800) * 0x400 + (low.toNat - 0xDC00))

/-- The characters that the items stand for. A surrogate code unit without its partner stands for none. -/
def decodeChars? : Quoted → Option (List Char)
  | [] => some []
  | .plain c :: rest => (decodeChars? rest).map (c :: ·)
  | .escape e :: rest => (decodeChars? rest).map (e.meaning :: ·)
  | .unit high :: .unit low :: rest =>
    if isHigh high then
      if isLow low then (decodeChars? rest).map (pairChar high low :: ·) else none
    else if isLow high then
      none
    else
      (decodeChars? (.unit low :: rest)).map (Char.ofNat high.toNat :: ·)
  | .unit code :: rest =>
    if isHigh code || isLow code then none else (decodeChars? rest).map (Char.ofNat code.toNat :: ·)

/-- The text that the items stand for. -/
def decode? (q : Quoted) : Option String :=
  (decodeChars? q).map String.ofList

/-- The items that a text is written as. -/
def encode (text : String) : Quoted :=
  text.toList.map Item.ofChar

/-- The items up to the closing quote, and the text after the quote. The first argument bounds the number of items. -/
def readWithin? : Nat → List Char → Option (Quoted × List Char)
  | 0, _ => none
  | _ + 1, '"' :: rest => some ([], rest)
  | n + 1, text => do
    let (item, rest) ← Item.read? text
    let (items, rest) ← readWithin? n rest
    some (item :: items, rest)

/-- The items up to the closing quote, and the text after the quote. -/
def read? (text : List Char) : Option (Quoted × List Char) :=
  readWithin? text.length text

end Quoted

end GeometrySource.Json

import GeometrySource.Json.Token

/-!
# Trees

A JSON value as a tree: members keep their order and their repeats, and strings keep their items. A tree is written as
exactly one list of tokens; `ofTokens?` reads that list and no other. This is the grammar of the JSON standard, which the
generator has no code for.
-/

namespace GeometrySource.Json

/-- A JSON value. -/
inductive Node
  | null
  | bool (value : Bool)
  | number (literal : Number)
  | string (items : Quoted)
  | array (items : List Node)
  | object (members : List (Quoted × Node))

namespace Node

mutual

/-- The tokens of a value. -/
def tokens : Node → List Token
  | null => [.null]
  | bool value => [.bool value]
  | number literal => [.number literal]
  | string items => [.string items]
  | array items => .openArray :: (itemTokens items ++ [.closeArray])
  | object members => .openObject :: (memberTokens members ++ [.closeObject])

/-- The tokens of the items of an array, with commas between them. -/
def itemTokens : List Node → List Token
  | [] => []
  | [item] => item.tokens
  | item :: next :: rest => item.tokens ++ .comma :: itemTokens (next :: rest)

/-- The tokens of the members of an object, with commas between them. -/
def memberTokens : List (Quoted × Node) → List Token
  | [] => []
  | [(key, value)] => .string key :: .colon :: value.tokens
  | (key, value) :: next :: rest => .string key :: .colon :: (value.tokens ++ .comma :: memberTokens (next :: rest))

end

/-- The text of a value, without blanks. -/
def text (node : Node) : String :=
  String.ofList (node.tokens.flatMap Token.text)

mutual

/-- The value at the start of a list of tokens, and the tokens after it. The first argument bounds the depth of the
recursion. -/
def readWithin? : Nat → List Token → Option (Node × List Token)
  | 0, _ => none
  | n + 1, tokens =>
    match tokens with
    | .null :: rest => some (null, rest)
    | .bool value :: rest => some (bool value, rest)
    | .number literal :: rest => some (number literal, rest)
    | .string items :: rest => some (string items, rest)
    | .openArray :: .closeArray :: rest => some (array [], rest)
    | .openArray :: rest => (readItemsWithin? n rest).map fun (items, rest) => (array items, rest)
    | .openObject :: .closeObject :: rest => some (object [], rest)
    | .openObject :: rest => (readMembersWithin? n rest).map fun (members, rest) => (object members, rest)
    | _ => none

/-- One or more items up to the closing bracket, and the tokens after it. -/
def readItemsWithin? : Nat → List Token → Option (List Node × List Token)
  | 0, _ => none
  | n + 1, tokens => do
    let (item, rest) ← readWithin? n tokens
    match rest with
    | .closeArray :: rest => some ([item], rest)
    | .comma :: rest =>
      let (items, rest) ← readItemsWithin? n rest
      some (item :: items, rest)
    | _ => none

/-- One or more members up to the closing brace, and the tokens after it. -/
def readMembersWithin? : Nat → List Token → Option (List (Quoted × Node) × List Token)
  | 0, _ => none
  | n + 1, tokens =>
    match tokens with
    | .string key :: .colon :: tokens => do
      let (value, rest) ← readWithin? n tokens
      match rest with
      | .closeObject :: rest => some ([(key, value)], rest)
      | .comma :: rest =>
        let (members, rest) ← readMembersWithin? n rest
        some ((key, value) :: members, rest)
      | _ => none
    | _ => none

end

/-- The value that a list of tokens spells, with no token left over. -/
def ofTokens? (tokens : List Token) : Option Node :=
  match readWithin? tokens.length tokens with
  | some (node, []) => some node
  | _ => none

/-- The value that a text holds. -/
def ofText? (text : String) : Option Node :=
  (Token.readAll? text.toList).bind ofTokens?

end Node

end GeometrySource.Json

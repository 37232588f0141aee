import QuipNet.Model

/-!
# JSON values and the compact encoding

`serde_json` values as the crates build them: struct fields stay in declaration
order, byte strings are arrays of numbers, absent options are `null`. The
compact encoding is the byte string that gets hashed and signed, the pretty one
is what files hold.
-/

namespace QuipNet

inductive Json
  | null
  | bool (value : Bool)
  | number (value : ℕ)
  | string (text : String)
  | array (items : List Json)
  | object (fields : List (String × Json))
deriving Repr, Inhabited

namespace Json

def escapeChar (c : Char) : List Char :=
  if c = '"' then ['\\', '"']
  else if c = '\\' then ['\\', '\\']
  else if c = '\n' then ['\\', 'n']
  else if c = '\r' then ['\\', 'r']
  else if c = '\t' then ['\\', 't']
  else if c.toNat = 8 then ['\\', 'b']
  else if c.toNat = 12 then ['\\', 'f']
  else if c.toNat < 32 then
    ['\\', 'u', '0', '0', hexDigit (c.toNat / 16), hexDigit (c.toNat % 16)]
  else [c]

def quoted (text : String) : List Char := '"' :: text.toList.flatMap escapeChar ++ ['"']

mutual
def compact : Json → List Char
  | .null => "null".toList
  | .bool value => if value then "true".toList else "false".toList
  | .number value => (Nat.repr value).toList
  | .string text => quoted text
  | .array items => '[' :: compactItems items ++ [']']
  | .object fields => Char.ofNat 0x7b :: compactFields fields ++ [Char.ofNat 0x7d]

def compactItems : List Json → List Char
  | [] => []
  | [item] => compact item
  | item :: rest => compact item ++ ',' :: compactItems rest

def compactFields : List (String × Json) → List Char
  | [] => []
  | [(name, value)] => quoted name ++ ':' :: compact value
  | (name, value) :: rest => quoted name ++ ':' :: compact value ++ ',' :: compactFields rest
end

def newline (depth : ℕ) : List Char := '\n' :: List.replicate (2 * depth) ' '

mutual
/-- `serde_json::to_vec_pretty`, as characters: two blanks for each level, an empty
array or object on one line. -/
def pretty (depth : ℕ) : Json → List Char
  | .null => "null".toList
  | .bool value => if value then "true".toList else "false".toList
  | .number value => (Nat.repr value).toList
  | .string text => quoted text
  | .array [] => "[]".toList
  | .array (item :: rest) => '[' :: prettyItems depth (item :: rest) ++ newline depth ++ [']']
  | .object [] => [Char.ofNat 0x7b, Char.ofNat 0x7d]
  | .object (field :: rest) =>
    Char.ofNat 0x7b :: prettyFields depth (field :: rest) ++ newline depth ++ [Char.ofNat 0x7d]

def prettyItems (depth : ℕ) : List Json → List Char
  | [] => []
  | [item] => newline (depth + 1) ++ pretty (depth + 1) item
  | item :: rest => newline (depth + 1) ++ pretty (depth + 1) item ++ ',' :: prettyItems depth rest

def prettyFields (depth : ℕ) : List (String × Json) → List Char
  | [] => []
  | [(name, value)] => newline (depth + 1) ++ quoted name ++ ": ".toList ++ pretty (depth + 1) value
  | (name, value) :: rest =>
    newline (depth + 1) ++ quoted name ++ ": ".toList ++ pretty (depth + 1) value ++
      ',' :: prettyFields depth rest
end

def bytes (values : List UInt8) : Json := .array (values.map fun value => .number value.toNat)

def strings (values : List String) : Json := .array (values.map .string)

def option {α : Type} (encode : α → Json) : Option α → Json
  | none => .null
  | some value => encode value

end Json

def prettyJson (value : Json) : List UInt8 := asBytes (String.ofList (value.pretty 0))

def canonicalJson (value : Json) : List UInt8 := asBytes (String.ofList value.compact)

theorem canonicalJson_eq (value : Json) :
    canonicalJson value = value.compact.flatMap String.utf8EncodeChar := asBytes_ofList value.compact

end QuipNet

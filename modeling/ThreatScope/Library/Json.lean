import ThreatScope.Library.Text

/-!
# JSON values as Python sees them

The values `json.loads` returns, with the Python operations on them that
programs use without noticing: truth value, `==`, `type(..)`, `dict.get`,
`dict` merging, `a or b`, `str` and `int`.

A float is kept as the rational number it denotes, so comparisons between
integers and floats are exact, as they are in Python. What Python leaves to
tables or to number formatting (case folding outside ASCII, `repr`, the parsing
of digits) comes from an `Interpreter`.
-/

set_option autoImplicit false

namespace ThreatScope.Library

/-- A JSON value. -/
inductive Json where
  | null
  | bool (value : Bool)
  | int (value : Int)
  | float (value : Rat)
  | str (value : String)
  | arr (items : List Json)
  | obj (fields : List (String × Json))

/-- A dictionary with string keys, in insertion order. -/
abbrev Dict := List (String × Json)

/-- The parts of the Python runtime that are tables, number formatting or limits. -/
structure Interpreter where
  /-- Case folding of a character outside ASCII. -/
  foldTable : Char → List Char
  /-- `int(text)`, `none` when it raises. -/
  parseInt : String → Option Int
  /-- `repr(value)`. -/
  repr : Json → String
  /-- The text of a float in JSON. -/
  floatText : Rat → String
  /-- The characters that stand for lone surrogates, which UTF-8 does not encode. -/
  surrogate : Char → Bool := fun _ => false
  /-- The levels that `json.dumps` can go down. -/
  depthLimit : Nat := 900

namespace Dict

/-- `fields.get(key)`, `none` for a missing key. -/
def find? (fields : Dict) (key : String) : Option Json :=
  (List.find? (fun field : String × Json => field.1 == key) fields).map Prod.snd

/-- `fields.get(key)`, with `None` for a missing key. -/
def get (fields : Dict) (key : String) : Json := (find? fields key).getD .null

/-- `{**fields, key: value}`. -/
def set (fields : Dict) (key : String) (value : Json) : Dict :=
  if List.any fields fun field => field.1 == key then
    List.map (fun field => if field.1 == key then (key, value) else field) fields
  else fields ++ [(key, value)]

/-- `{**fields, **others}`. -/
def merge (fields others : Dict) : Dict :=
  List.foldl (fun merged field => set merged field.1 field.2) fields others

end Dict

namespace Json

/-- `bool(value)`. -/
def truthy : Json → Bool
  | .null => false
  | .bool value => value
  | .int value => value != 0
  | .float value => value != 0
  | .str value => value != ""
  | .arr items => !items.isEmpty
  | .obj fields => !fields.isEmpty

/-- `first or second`. -/
def orElse (first second : Json) : Json := if first.truthy then first else second

/-- The fields of a dictionary, none for any other value. -/
def fields : Json → Dict
  | .obj fields => fields
  | _ => []

/-- The items of a list, none for any other value. -/
def items : Json → List Json
  | .arr items => items
  | _ => []

/-- The text of a string value. -/
def str? : Json → Option String
  | .str value => some value
  | _ => none

/-- Whether the value is the given string, as `==` decides it. -/
def isStr (text : String) : Json → Bool
  | .str value => value == text
  | _ => false

/-- `type(value).__name__`. -/
def typeName : Json → String
  | .null => "NoneType"
  | .bool _ => "bool"
  | .int _ => "int"
  | .float _ => "float"
  | .str _ => "str"
  | .arr _ => "list"
  | .obj _ => "dict"

/-- A number, counting a truth value as `0` or `1`, as `==` does. -/
def number? : Json → Option Rat
  | .bool value => some (if value then 1 else 0)
  | .int value => some value
  | .float value => some value
  | _ => none

mutual
/-- `left == right`. -/
def pyEq : Json → Json → Bool
  | .null, .null => true
  | .str left, .str right => left == right
  | .arr left, .arr right => pyEqItems left right
  | .obj left, .obj right => left.length == right.length && pyEqFields left right
  | left, right =>
    match left.number?, right.number? with
    | some first, some second => first == second
    | _, _ => false

/-- Lists are equal when their items are, in order. -/
def pyEqItems : List Json → List Json → Bool
  | [], [] => true
  | left :: lefts, right :: rights => pyEq left right && pyEqItems lefts rights
  | _, _ => false

/-- Every field of the first dictionary has an equal field in the second. -/
def pyEqFields : List (String × Json) → Dict → Bool
  | [], _ => true
  | (key, value) :: rest, right =>
    (match Dict.find? right key with
      | some other => pyEq value other
      | none => false) && pyEqFields rest right
end

/-- `type(left) is type(right) and left == right`. -/
def strictEq (left right : Json) : Bool := left.typeName == right.typeName && pyEq left right

end Json

namespace Interpreter

/-- `text.casefold()`. -/
def casefold (py : Interpreter) (text : String) : String :=
  Text.casefold py.foldTable text

/-- `str(value)`: a string is its own text, every other value is its `repr`. -/
def str (py : Interpreter) : Json → String
  | .str value => value
  | value => py.repr value

/-- `int(value)`, `none` when it raises. -/
def int (py : Interpreter) : Json → Option Int
  | .bool value => some (if value then 1 else 0)
  | .int value => some value
  | .float value => some (if 0 ≤ value then value.floor else -((-value).floor))
  | .str value => py.parseInt value
  | _ => none

/-- The bytes a character takes in a JSON string that keeps non-ASCII text. -/
def escapedSize (c : Char) : Nat :=
  if c = '"' ∨ c = '\\' ∨ c = '\n' ∨ c = '\r' ∨ c = '\t' ∨ c.toNat = 8 ∨ c.toNat = 12 then 2
  else if c.toNat < 32 then 6
  else c.utf8Size

/-- The bytes of a JSON string with its quotes. -/
def stringSize (text : String) : Nat := (text.toList.map escapedSize).sum + 2

mutual
/-- The bytes of `json.dumps(value, separators=(",", ":"), ensure_ascii=False)`
in UTF-8. -/
def encodedSize (py : Interpreter) : Json → Nat
  | .null => 4
  | .bool value => if value then 4 else 5
  | .int value => (toString value).utf8ByteSize
  | .float value => (py.floatText value).utf8ByteSize
  | .str value => stringSize value
  | .arr items => if items.isEmpty then 2 else encodedItems py items + 1
  | .obj fields => if fields.isEmpty then 2 else encodedFields py fields + 1

/-- The items of a list, each with the bracket or comma before it. -/
def encodedItems (py : Interpreter) : List Json → Nat
  | [] => 0
  | item :: rest => encodedSize py item + 1 + encodedItems py rest

/-- The fields of an object, each with the brace or comma before it. -/
def encodedFields (py : Interpreter) : List (String × Json) → Nat
  | [] => 0
  | (key, value) :: rest =>
    stringSize key + 1 + encodedSize py value + 1 + encodedFields py rest
end

/-- Whether UTF-8 encodes the text. -/
def encodableText (py : Interpreter) (text : String) : Bool :=
  text.toList.all fun c => !py.surrogate c

mutual
/-- Whether UTF-8 encodes every text of a value. -/
def encodable (py : Interpreter) : Json → Bool
  | .str text => encodableText py text
  | .arr items => encodableItems py items
  | .obj fields => encodableFields py fields
  | _ => true

def encodableItems (py : Interpreter) : List Json → Bool
  | [] => true
  | item :: rest => encodable py item && encodableItems py rest

def encodableFields (py : Interpreter) : List (String × Json) → Bool
  | [] => true
  | (key, value) :: rest =>
    encodableText py key && encodable py value && encodableFields py rest
end

end Interpreter

/-- An integer with more than 4300 digits has no text. -/
def digitLimit : Nat := 10 ^ 4300

mutual
/-- Whether `str(value)` and `json.dumps(value)` find no integer that is too long. -/
def printable : Json → Bool
  | .int value => value.natAbs < digitLimit
  | .arr items => printableItems items
  | .obj fields => printableFields fields
  | _ => true

def printableItems : List Json → Bool
  | [] => true
  | item :: rest => printable item && printableItems rest

def printableFields : List (String × Json) → Bool
  | [] => true
  | (_, value) :: rest => printable value && printableFields rest
end

mutual
/-- The levels of lists and objects in a value. -/
def Json.depth : Json → Nat
  | .arr items => Json.depthItems items + 1
  | .obj fields => Json.depthFields fields + 1
  | _ => 0

def Json.depthItems : List Json → Nat
  | [] => 0
  | item :: rest => max (Json.depth item) (Json.depthItems rest)

def Json.depthFields : List (String × Json) → Nat
  | [] => 0
  | (_, value) :: rest => max (Json.depth value) (Json.depthFields rest)
end

namespace Dict

@[simp] theorem find?_nil (key : String) : find? [] key = none := rfl

theorem find?_cons (field : String × Json) (rest : Dict) (key : String) :
    find? (field :: rest) key = if field.1 == key then some field.2 else find? rest key := by
  by_cases same : field.1 = key
  · simp [find?, same]
  · simp [find?, beq_false_of_ne same]

end Dict

end ThreatScope.Library

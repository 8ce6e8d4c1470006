import GpuDiscovery.Text.Numeral

/-!
# JSON

JSON values without fractions and nulls, and their layout over several lines: two blanks for each
level of nesting, one item or member on a line, a blank behind the colon of a member, and nothing
between the brackets of an empty array or object.

Inside a text only what JSON forbids there is escaped: the quotation mark, the backslash and the
control characters below U+0020, of which five have short forms.
-/

namespace GpuDiscovery

open Text

/-- A JSON value. -/
inductive Json where
  | bool (value : Bool)
  | integer (value : Int)
  | string (value : String)
  | array (items : List Json)
  | object (members : List (String × Json))
  deriving Repr, Inhabited

namespace Json

/-- A character inside a text. -/
def escape (c : Char) : List Char :=
  match c with
  | '"' => ['\\', '"']
  | '\\' => ['\\', '\\']
  | '\x08' => ['\\', 'b']
  | '\t' => ['\\', 't']
  | '\n' => ['\\', 'n']
  | '\x0c' => ['\\', 'f']
  | '\r' => ['\\', 'r']
  | c => if c.toNat < 0x20 then '\\' :: 'u' :: zeroFill 4 (Nat.toDigits 16 c.toNat) else [c]

/-- A text in quotation marks. -/
def quote (text : String) : List Char :=
  '"' :: text.toList.flatMap escape ++ ['"']

/-- The end of a line and the blanks before what stands at a level of nesting. -/
def newLine (level : Nat) : List Char :=
  '\n' :: List.replicate (2 * level) ' '

mutual

/-- The layout of a value that stands at a level of nesting. -/
def layout (level : Nat) : Json → List Char
  | bool true => "true".toList
  | bool false => "false".toList
  | integer value => (signedDecimal value).toList
  | string value => quote value
  | array [] => "[]".toList
  | array (item :: rest) =>
    '[' :: newLine (level + 1) ++ layout (level + 1) item ++ layoutItems (level + 1) rest ++
      newLine level ++ [']']
  | object [] => ['\x7b', '\x7d']
  | object ((name, value) :: rest) =>
    '\x7b' :: newLine (level + 1) ++ quote name ++ ':' :: ' ' :: layout (level + 1) value ++
      layoutMembers (level + 1) rest ++ newLine level ++ ['\x7d']

/-- The items of an array after the first. -/
def layoutItems (level : Nat) : List Json → List Char
  | [] => []
  | item :: rest => ',' :: newLine level ++ layout level item ++ layoutItems level rest

/-- The members of an object after the first. -/
def layoutMembers (level : Nat) : List (String × Json) → List Char
  | [] => []
  | (name, value) :: rest =>
    ',' :: newLine level ++ quote name ++ ':' :: ' ' :: layout level value ++
      layoutMembers level rest

end

/-- The text of a value. -/
def pretty (value : Json) : String :=
  String.ofList (layout 0 value)

end Json

example : (Json.object [("a", .array [.integer (-1), .bool true]), ("b", .array [])]).pretty =
    "\x7b\n  \"a\": [\n    -1,\n    true\n  ],\n  \"b\": []\n\x7d" := by decide
example : (Json.string "\x01\\\x7f").pretty = "\"\\u0001\\\\\x7f\"" := by decide

end GpuDiscovery

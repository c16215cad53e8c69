import PromptScript.Json.Basic
import PromptScript.Decimal.Shortest

/-!
# Writing JSON

Two written forms of a JSON value: the compact one, without blanks, and the indented one, with
two spaces a level.  Only quotes, backslashes and control characters are escaped in strings.
-/

namespace PromptScript.Json

/-- Numbers are written positionally from `0.00001` on and below ten to the sixteenth, and the
exponent has a sign. -/
def numberStyle : Decimal.Style :=
  ⟨-5, 16, 'e', true⟩

/-- The text of a number. -/
def numberText : Number → String
  | .int value => toString value
  | .float value => Decimal.render numberStyle value

/-- The form of one character inside a string. -/
def escape (c : Char) : List Char :=
  if c = '"' then ['\\', '"']
  else if c = '\\' then ['\\', '\\']
  else if c = '\x08' then ['\\', 'b']
  else if c = '\x0c' then ['\\', 'f']
  else if c = '\n' then ['\\', 'n']
  else if c = '\r' then ['\\', 'r']
  else if c = '\t' then ['\\', 't']
  else if c.toNat < 0x20 then
    ['\\', 'u', '0', '0', Nat.digitChar (c.toNat / 16), Nat.digitChar (c.toNat % 16)]
  else [c]

/-- A string with its quotes. -/
def quoted (text : String) : List Char :=
  '"' :: (text.toList.flatMap escape ++ ['"'])

mutual

/-- The characters of the compact form. -/
def chars : Json → List Char
  | .null => "null".toList
  | .bool true => "true".toList
  | .bool false => "false".toList
  | .number value => (numberText value).toList
  | .string text => quoted text
  | .array items => '[' :: (itemsChars items ++ [']'])
  | .object members => '\x7b' :: (membersChars members ++ ['\x7d'])

/-- The items of an array with commas between them. -/
def itemsChars : List Json → List Char
  | [] => []
  | [item] => chars item
  | item :: next :: rest => chars item ++ ',' :: itemsChars (next :: rest)

/-- The members of an object with commas between them. -/
def membersChars : List (String × Json) → List Char
  | [] => []
  | [(name, value)] => quoted name ++ ':' :: chars value
  | (name, value) :: next :: rest =>
    quoted name ++ ':' :: (chars value ++ ',' :: membersChars (next :: rest))

end

/-- The compact form. -/
def render (value : Json) : String :=
  String.ofList (chars value)

/-- A line feed and the indentation of a level. -/
def newline (level : Nat) : List Char :=
  '\n' :: List.replicate (2 * level) ' '

mutual

/-- The characters of the indented form at a level. -/
def indentedChars (level : Nat) : Json → List Char
  | .array [] => ['[', ']']
  | .array (item :: rest) =>
    '[' :: (indentedItems (level + 1) (item :: rest) ++ newline level ++ [']'])
  | .object [] => ['\x7b', '\x7d']
  | .object (member :: rest) =>
    '\x7b' :: (indentedMembers (level + 1) (member :: rest) ++ newline level ++ ['\x7d'])
  | .null => "null".toList
  | .bool true => "true".toList
  | .bool false => "false".toList
  | .number value => (numberText value).toList
  | .string text => quoted text

/-- The items of an array, each on lines of its own. -/
def indentedItems (level : Nat) : List Json → List Char
  | [] => []
  | [item] => newline level ++ indentedChars level item
  | item :: next :: rest =>
    newline level ++ indentedChars level item ++ ',' :: indentedItems level (next :: rest)

/-- The members of an object, each on lines of its own. -/
def indentedMembers (level : Nat) : List (String × Json) → List Char
  | [] => []
  | [(name, value)] => newline level ++ quoted name ++ ':' :: ' ' :: indentedChars level value
  | (name, value) :: next :: rest =>
    newline level ++ quoted name ++ ':' :: ' ' ::
      (indentedChars level value ++ ',' :: indentedMembers level (next :: rest))

end

/-- The indented form. -/
def renderIndented (value : Json) : String :=
  String.ofList (indentedChars 0 value)

end PromptScript.Json

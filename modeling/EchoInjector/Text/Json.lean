import EchoInjector.Text.Numeral

/-!
# JSON documents

The documents written here hold nothing but `null`, booleans, natural numbers, texts and
objects, so a value has just these five forms. A document is laid out over several lines: each
member of an object stands on a line of its own, indented by two blanks for each object around
it, in the order in which the object lists its members. An object without members is `{}`.

In a text, only the quotation mark, the backslash and the control characters below the blank are
escaped. Everything else stands for itself, the delete character and all characters outside
ASCII included.
-/

namespace EchoInjector.Text

/-- A JSON value, as far as reports need it. -/
inductive Json
  | null
  | bool (value : Bool)
  | number (value : Nat)
  | text (value : String)
  | object (members : List (String × Json))

namespace Json

/-- How a character stands inside a JSON text. -/
def escapeChar (c : Char) : List Char :=
  if c = '"' then ['\\', '"']
  else if c = '\\' then ['\\', '\\']
  else if c = '\n' then ['\\', 'n']
  else if c = '\r' then ['\\', 'r']
  else if c = '\t' then ['\\', 't']
  else if c = Char.ofNat 8 then ['\\', 'b']
  else if c = Char.ofNat 12 then ['\\', 'f']
  else if c.toNat < 32 then
    ['\\', 'u', '0', '0', digitChar (c.toNat / 16), digitChar (c.toNat % 16)]
  else [c]

/-- A text in quotation marks. -/
def quote (s : String) : List Char :=
  '"' :: s.toList.flatMap escapeChar ++ ['"']

/-- The start of a new line that is indented by two blanks for each level. -/
def newLine (level : Nat) : List Char :=
  '\n' :: List.replicate (2 * level) ' '

mutual

/-- A value laid out over lines, the first of which continues the line it stands in. -/
def layOut (level : Nat) : Json → List Char
  | .null => "null".toList
  | .bool true => "true".toList
  | .bool false => "false".toList
  | .number n => digits 10 n
  | .text s => quote s
  | .object [] => ['{', '}']
  | .object (m :: ms) =>
    '{' :: layOutMembers (level + 1) (m :: ms) ++ newLine level ++ ['}']

/-- The members of an object, each on a line of its own, with commas between them. -/
def layOutMembers (level : Nat) : List (String × Json) → List Char
  | [] => []
  | [(key, value)] => newLine level ++ quote key ++ [':', ' '] ++ layOut level value
  | (key, value) :: rest =>
    newLine level ++ quote key ++ [':', ' '] ++ layOut level value ++ [','] ++
      layOutMembers level rest

end

/-- A document over several lines, without a final line end. -/
def pretty (v : Json) : String :=
  String.ofList (layOut 0 v)

end Json

end EchoInjector.Text

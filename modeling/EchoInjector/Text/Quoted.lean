import EchoInjector.Text.Numeral
import EchoInjector.Text.Unprintable

/-!
# Texts between quotation marks

Diagnostic records show a text between quotation marks in such a way that it can be read off
without doubt. The quotation mark and the backslash are escaped by a backslash, the zero
character, the tab and the two line ends have letters, and every other character without a
visible form of its own is written by its code point, as `\u{200b}`. The apostrophe and all
visible characters stand for themselves.
-/

namespace EchoInjector.Text

/-- A character written by its code point in lower-case hexadecimal digits. -/
def codePoint (c : Char) : List Char :=
  ['\\', 'u', '{'] ++ digits 16 c.toNat ++ ['}']

/-- How a character stands inside a quoted text. -/
def quoteChar (c : Char) : List Char :=
  if c = Char.ofNat 0 then ['\\', '0']
  else if c = '\t' then ['\\', 't']
  else if c = '\n' then ['\\', 'n']
  else if c = '\r' then ['\\', 'r']
  else if c = '"' then ['\\', '"']
  else if c = '\\' then ['\\', '\\']
  else if c.toNat < 32 then codePoint c
  else if c.toNat < 127 then [c]
  else if c.toNat = 127 || isUnprintable c then codePoint c
  else [c]

/-- A text between quotation marks. -/
def quoted (s : String) : String :=
  String.ofList ('"' :: s.toList.flatMap quoteChar ++ ['"'])

end EchoInjector.Text

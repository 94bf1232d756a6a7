import EchoInjector.Wire.Octets
import EchoInjector.Text.Numeral

/-!
# Hex dumps

A hex dump shows octets in rows of sixteen. A row has the offset of its first octet in at least
four hexadecimal digits, then sixteen groups of three characters, a blank and the two digits of
an octet, or three blanks where the last row has no octet any more, and finally the octets as
characters. Only the visible characters of ASCII and the blank stand for themselves there; a
point stands for everything else.
-/

namespace EchoInjector.HexDump

open Wire Text

/-- The number of octets in a full row. -/
def rowWidth : Nat := 16

/-- An offset in at least four hexadecimal digits. -/
def offset (n : Nat) : List Char :=
  let shown := digits 16 n
  List.replicate (4 - shown.length) '0' ++ shown

/-- An octet as a character. -/
def glyph (b : UInt8) : Char :=
  if 32 ≤ b.toNat ∧ b.toNat ≤ 126 then Char.ofNat b.toNat else '.'

/-- The groups of a row, with blanks for missing octets. -/
def groups (row : Octets) : List Char :=
  row.flatMap (fun b => ' ' :: hexOctet b)
    ++ List.replicate (3 * (rowWidth - row.length)) ' '

/-- One row, with its line end. -/
def row (start : Nat) (octets : Octets) : List Char :=
  offset start ++ ' ' :: groups octets ++ [' ', ' '] ++ octets.map glyph ++ ['\n']

/-- The rows of a run of octets whose first one has the given offset. -/
def rows (start : Nat) : Octets → List Char
  | [] => []
  | b :: rest =>
    row start ((b :: rest).take rowWidth) ++ rows (start + rowWidth) ((b :: rest).drop rowWidth)
termination_by d => d.length
decreasing_by
  simp only [List.length_drop, List.length_cons, rowWidth]
  omega

/-- The dump of a run of octets. -/
def render (d : Octets) : String :=
  String.ofList (rows 0 d)

end EchoInjector.HexDump

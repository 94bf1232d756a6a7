import EchoInjector.Wire.Octets
import EchoInjector.Text.Numeral

/-!
# Internet addresses

An Internet address has four octets and is written as four decimal numerals with points between
them. Reading is strict: exactly four parts, each of one to three digits, at most 255, and
without leading zeros, so every address has exactly one text.
-/

namespace EchoInjector

open Wire Text

/-- An Internet address, its octets in the order in which they travel. -/
structure IPv4 where
  a : UInt8
  b : UInt8
  c : UInt8
  d : UInt8
  deriving DecidableEq, Repr, Inhabited

namespace IPv4

/-- The four octets of an address. -/
def octets (x : IPv4) : Octets := [x.a, x.b, x.c, x.d]

@[simp] theorem length_octets (x : IPv4) : x.octets.length = 4 := rfl

/-- The address that stands at an offset of a packet. -/
def readAt (d : Octets) (i : Nat) : IPv4 :=
  ⟨octetAt d i, octetAt d (i + 1), octetAt d (i + 2), octetAt d (i + 3)⟩

/-- Whether an address belongs to the host itself: the network `127.0.0.0/8`. -/
def isLoopback (x : IPv4) : Bool := x.a == 127

/-- The four numerals with points between them. -/
def chars (x : IPv4) : List Char :=
  ['.'].intercalate (x.octets.map fun o => digits 10 o.toNat)

/-- The text of an address. -/
def text (x : IPv4) : String := String.ofList x.chars

/-- One part as an octet: one to three decimal digits, at most 255, no leading zero. -/
def readPart? (part : List Char) : Option UInt8 :=
  if part.length = 0 ∨ 3 < part.length then none
  else if part.head? = some '0' ∧ part.length ≠ 1 then none
  else (readDigits 10 255 .tooLarge 0 part).toOption.map UInt8.ofNat

/-- Reads an address: exactly four parts. -/
def read? (text : List Char) : Option IPv4 :=
  match (text.splitOn '.').mapM readPart? with
  | some [a, b, c, d] => some ⟨a, b, c, d⟩
  | _ => none

end IPv4

end EchoInjector

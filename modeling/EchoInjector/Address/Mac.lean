import EchoInjector.Wire.Octets
import EchoInjector.Text.Numeral

/-!
# Link-layer addresses

A link-layer address has six octets. It is written as six groups of two lower-case hexadecimal
digits with colons between them. Reading is more generous: each of exactly six groups is a
hexadecimal numeral of at most 255, in either case, with any number of leading zeros and
possibly a leading `+`. What is written can always be read again.
-/

namespace EchoInjector

open Wire Text

/-- A link-layer address, its octets in the order in which they travel. -/
structure Mac where
  a : UInt8
  b : UInt8
  c : UInt8
  d : UInt8
  e : UInt8
  f : UInt8
  deriving DecidableEq, Repr, Inhabited

namespace Mac

/-- The address of a device that has none. -/
def zero : Mac := ⟨0, 0, 0, 0, 0, 0⟩

/-- The address of all stations on a link. -/
def broadcast : Mac := ⟨255, 255, 255, 255, 255, 255⟩

/-- The six octets of an address. -/
def octets (m : Mac) : Octets := [m.a, m.b, m.c, m.d, m.e, m.f]

@[simp] theorem length_octets (m : Mac) : m.octets.length = 6 := rfl

/-- The address that stands at an offset of a packet. -/
def readAt (d : Octets) (i : Nat) : Mac :=
  ⟨octetAt d i, octetAt d (i + 1), octetAt d (i + 2), octetAt d (i + 3), octetAt d (i + 4),
    octetAt d (i + 5)⟩

/-- The six groups of two digits with colons between them. -/
def chars (m : Mac) : List Char :=
  [':'].intercalate (m.octets.map hexOctet)

/-- The text of an address. -/
def text (m : Mac) : String := String.ofList m.chars

/-- One group as an octet. -/
def readGroup? (group : List Char) : Option UInt8 :=
  (readUnsigned 16 255 group).toOption.map UInt8.ofNat

/-- Reads an address: exactly six groups. -/
def read? (text : List Char) : Option Mac :=
  match (text.splitOn ':').mapM readGroup? with
  | some [a, b, c, d, e, f] => some ⟨a, b, c, d, e, f⟩
  | _ => none

end Mac

end EchoInjector

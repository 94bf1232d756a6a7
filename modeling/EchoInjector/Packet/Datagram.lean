import EchoInjector.Address.IPv4
import EchoInjector.Wire.Checksum

/-!
# Internet datagrams

A datagram begins with twenty octets at fixed offsets. The low half of the first octet gives the
length of the whole header in words of four octets, so up to forty octets of options may follow;
the third and fourth octets give the length of the datagram.

These two lengths decide where the payload lies. It starts behind the options, but **never
before offset twenty**, even if the header claims to be shorter. Its length is the difference of
the two, whatever the offset it starts at, but **never more than there is**. The header checksum
runs over the claimed header length, brought into the range from twenty octets to the whole
datagram.
-/

namespace EchoInjector.Packet.Datagram

open Wire

/-- The length of a header without options, and the least length of any header. -/
def headerLength : Nat := 20

/-- The number of the payload protocol of echo messages. -/
def icmpProtocol : UInt8 := 1

/-- The version of the protocol, the high half of the first octet. -/
def version (d : Octets) : UInt8 := octetAt d 0 >>> 4

/-- The length that the header claims for itself, in octets. -/
def claimedHeader (d : Octets) : Nat := 4 * (octetAt d 0 &&& 0x0f).toNat

/-- The length that the header claims for the whole datagram, in octets. -/
def totalLength (d : Octets) : UInt16 := wordAt d 2

/-- The identification of the datagram. -/
def ident (d : Octets) : UInt16 := wordAt d 4

/-- The number of hops the datagram may still take. -/
def ttl (d : Octets) : UInt8 := octetAt d 8

/-- The number of the payload's protocol. -/
def protocol (d : Octets) : UInt8 := octetAt d 9

/-- The header checksum as stored. -/
def storedChecksum (d : Octets) : UInt16 := wordAt d 10

/-- The sender's address. -/
def source (d : Octets) : IPv4 := IPv4.readAt d 12

/-- The receiver's address. -/
def destination (d : Octets) : IPv4 := IPv4.readAt d 16

/-- The offset at which the payload starts. -/
def payloadStart (d : Octets) : Nat := headerLength + (claimedHeader d - headerLength)

/-- The offset behind the payload, as far as the datagram goes. -/
def payloadStop (d : Octets) : Nat :=
  min (payloadStart d + ((totalLength d).toNat - claimedHeader d)) d.length

/-- The payload, empty when the datagram ends before it. -/
def payload (d : Octets) : Octets :=
  if d.length ≤ payloadStart d then [] else slice d (payloadStart d) (payloadStop d)

/-- The octets over which the header checksum runs. -/
def checkedHeader (d : Octets) : Octets :=
  d.take (if claimedHeader d < headerLength then headerLength else min (claimedHeader d) d.length)

/-- The header checksum as it should be; the stored one, the sixth word, is not counted. -/
def checksum (d : Octets) : UInt16 := Checksum.compute 5 (checkedHeader d)

end EchoInjector.Packet.Datagram

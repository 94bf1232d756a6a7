import EchoInjector.Address.Mac
import EchoInjector.Address.IPv4
import EchoInjector.Packet.Ethernet
import EchoInjector.Packet.Datagram
import EchoInjector.Packet.Echo

/-!
# Probes

A probe is the description of one echo packet by the values of its fields. The sender's
link-layer address may be left open; it is then filled in when the packet is built, usually with
the address of the interface it leaves by.

The payload has a **limit**: the total length of a datagram is stored in sixteen bits, and the
two headers before the payload take twenty-eight octets of it.
-/

namespace EchoInjector

open Wire

/-- The field values of one echo packet. -/
structure Probe where
  /-- The receiver's link-layer address. -/
  dstMac : Mac := .broadcast
  /-- The sender's link-layer address, if it is pinned. -/
  srcMac : Option Mac := none
  /-- The sender's Internet address. -/
  src : IPv4 := ⟨10, 0, 0, 1⟩
  /-- The receiver's Internet address. -/
  dst : IPv4 := ⟨10, 0, 0, 2⟩
  /-- The number of hops the datagram may take. -/
  ttl : UInt8 := 64
  /-- The identification of the datagram. -/
  ipIdent : UInt16 := 1
  /-- The type of the message; eight asks for an echo. -/
  icmpType : UInt8 := 8
  /-- The code that refines the type. -/
  icmpCode : UInt8 := 0
  /-- The identifier of the exchange. -/
  icmpIdent : UInt16 := 0
  /-- The number of the message within the exchange. -/
  icmpSeq : UInt16 := 0
  /-- The octets to be echoed. -/
  payload : Octets := []
  deriving DecidableEq, Repr

namespace Probe

/-- The longest payload that one datagram can carry. -/
def maxPayload : Nat := 65535 - Packet.Datagram.headerLength - Packet.Echo.headerLength

/-- The length of the echo message. -/
def messageLength (p : Probe) : Nat := Packet.Echo.headerLength + p.payload.length

/-- The length of the datagram around it. -/
def datagramLength (p : Probe) : Nat := Packet.Datagram.headerLength + p.messageLength

/-- The length of the frame around that. -/
def frameLength (p : Probe) : Nat := Packet.Ethernet.headerLength + p.datagramLength

end Probe

end EchoInjector

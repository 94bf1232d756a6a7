import EchoInjector.Address.Mac

/-!
# Ethernet frames

A frame begins with the address of its receiver, the address of its sender and the type of its
payload, fourteen octets in all. The readers here presuppose a header's length; whether a frame
is that long is decided by whoever reads it.
-/

namespace EchoInjector.Packet.Ethernet

open Wire

/-- The length of the header. -/
def headerLength : Nat := 14

/-- The payload type of an Internet datagram. -/
def ipv4Type : UInt16 := 0x0800

/-- The receiver's address. -/
def destination (f : Octets) : Mac := Mac.readAt f 0

/-- The sender's address. -/
def source (f : Octets) : Mac := Mac.readAt f 6

/-- The type of the payload. -/
def etherType (f : Octets) : UInt16 := wordAt f 12

/-- What follows the header. -/
def payload (f : Octets) : Octets := f.drop headerLength

end EchoInjector.Packet.Ethernet

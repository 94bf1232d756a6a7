import EchoInjector.Wire.Checksum

/-!
# Echo messages

An echo message begins with a type, a code and a checksum, followed by an identifier and a
sequence number; the rest is payload. The first four octets are common to all control messages,
the first eight to echo messages.
-/

namespace EchoInjector.Packet.Echo

open Wire

/-- The length of the part that all control messages share. -/
def commonLength : Nat := 4

/-- The length of an echo message without its payload. -/
def headerLength : Nat := 8

/-- The type of the message. -/
def type (m : Octets) : UInt8 := octetAt m 0

/-- The code that refines the type. -/
def code (m : Octets) : UInt8 := octetAt m 1

/-- The checksum as stored. -/
def storedChecksum (m : Octets) : UInt16 := wordAt m 2

/-- The identifier of the exchange. -/
def identifier (m : Octets) : UInt16 := wordAt m 4

/-- The number of the message within the exchange. -/
def sequenceNumber (m : Octets) : UInt16 := wordAt m 6

/-- The checksum as it should be; the stored one, the second word, is not counted. -/
def checksum (m : Octets) : UInt16 := Checksum.compute 1 m

end EchoInjector.Packet.Echo

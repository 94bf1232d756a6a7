import EchoInjector.Failure
import EchoInjector.Probe

/-!
# From a probe to octets

A packet is built by laying its fields out in room that is cleared beforehand. The frame's
payload is the room for the datagram, and the datagram's payload, as its own header delimits it
once the lengths are in place, is the room for the echo message. Each checksum is computed last
over what is then there, its own place cleared.

Every layer asks for enough room and fails if there is none. The rooms made by `frame` and
`datagram` always suffice, so the only failure that can come of them is a payload beyond the
limit.
-/

namespace EchoInjector.Probe

open Wire Packet

/-- Lays out the echo message in the given room. -/
def layMessage (p : Probe) (room : Octets) : Except Failure Octets :=
  if room.length < Echo.headerLength then .error (.buildFailed "icmp buffer too short")
  else
    let filled := room
      |> overwrite 0 [p.icmpType, p.icmpCode]
      |> overwrite 4 (wordOctets p.icmpIdent)
      |> overwrite 6 (wordOctets p.icmpSeq)
      |> overwrite 8 p.payload
      |> overwrite 2 (wordOctets 0)
    .ok (overwrite 2 (wordOctets (Echo.checksum filled)) filled)

/-- Lays out the datagram, the echo message included, in the given room. -/
def layDatagram (p : Probe) (room : Octets) : Except Failure Octets :=
  if room.length < Datagram.headerLength then .error (.buildFailed "ipv4 buffer too short")
  else do
    let headed := room
      |> overwrite 0 [0x45, 0]
      |> overwrite 2 (wordOctets (UInt16.ofNat p.datagramLength))
      |> overwrite 4 (wordOctets p.ipIdent)
      |> overwrite 6 [0, 0]
      |> overwrite 8 [p.ttl, Datagram.icmpProtocol]
      |> overwrite 12 p.src.octets
      |> overwrite 16 p.dst.octets
    let message ← p.layMessage (Datagram.payload headed)
    let filled := headed
      |> overwrite (Datagram.payloadStart headed) message
      |> overwrite 10 (wordOctets 0)
    .ok (overwrite 10 (wordOctets (Datagram.checksum filled)) filled)

/-- Refuses a payload beyond the limit. -/
def checkPayload (p : Probe) : Except Failure Unit :=
  if maxPayload < p.payload.length then .error (.payloadTooLarge p.payload.length) else .ok ()

/-- The datagram of a probe. -/
def datagram (p : Probe) : Except Failure Octets := do
  p.checkPayload
  p.layDatagram (List.replicate p.datagramLength 0)

/-- The frame of a probe. The given address is the sender's where the probe leaves it open. -/
def frame (p : Probe) (srcMac : Mac) : Except Failure Octets := do
  p.checkPayload
  let room : Octets := List.replicate p.frameLength 0
  if room.length < Ethernet.headerLength then .error (.buildFailed "ethernet buffer too short")
  else
    let headed := room
      |> overwrite 0 p.dstMac.octets
      |> overwrite 6 (p.srcMac.getD srcMac).octets
      |> overwrite 12 (wordOctets Ethernet.ipv4Type)
    let inner ← p.layDatagram (Ethernet.payload headed)
    .ok (overwrite Ethernet.headerLength inner headed)

end EchoInjector.Probe

import EchoInjector.Address.Mac
import EchoInjector.Failure
import EchoInjector.Packet.ProtocolName
import EchoInjector.Packet.Ethernet
import EchoInjector.Packet.Datagram
import EchoInjector.Packet.Echo
import EchoInjector.Summary

/-!
# From octets to a summary

A packet is read layer by layer. Each layer first makes sure that its header is there, then that
the packet is of the right protocol, and the datagram also that its total length does not exceed
what there is. The first doubt is the failure; everything else can be summarised, wrong checksums
included, which the summary reports.

Frames shorter than the link allows are padded behind the total length of the datagram. That the
header claims at least its least length is not among the checks, and behind a header that claims
less, some padding is read as payload.
-/

namespace EchoInjector.Summary

open Wire Packet Text

/-- Summarises a datagram. -/
def ofDatagram (d : Octets) : Except Failure Summary := do
  if d.length < Datagram.headerLength then .error (.truncated "ipv4 header")
  else if Datagram.version d ≠ 4 then
    .error (.unexpectedProtocol ("ip version " ++ decimal (Datagram.version d).toNat))
  else if d.length < (Datagram.totalLength d).toNat then .error (.truncated "ipv4 payload")
  else if Datagram.protocol d ≠ Datagram.icmpProtocol then
    .error (.unexpectedProtocol ("ip protocol " ++ protocolName (Datagram.protocol d)))
  else
    let message := Datagram.payload d
    if message.length < Echo.commonLength then .error (.truncated "icmp header")
    else if message.length < Echo.headerLength then .error (.truncated "icmp echo")
    else .ok {
      ethDst := none
      ethSrc := none
      etherType := none
      ipSrc := Datagram.source d
      ipDst := Datagram.destination d
      ipTtl := Datagram.ttl d
      ipIdent := Datagram.ident d
      ipTotalLength := Datagram.totalLength d
      ipChecksumOk := Datagram.checksum d == Datagram.storedChecksum d
      icmpType := Echo.type message
      icmpCode := Echo.code message
      icmpChecksum := Echo.storedChecksum message
      icmpChecksumOk := Echo.checksum message == Echo.storedChecksum message
      icmpIdent := Echo.identifier message
      icmpSeq := Echo.sequenceNumber message
      payloadLength := message.length - Echo.headerLength
      wireLength := d.length }

/-- Summarises a frame: the datagram it carries, with the link-layer fields added. -/
def ofFrame (f : Octets) : Except Failure Summary := do
  if f.length < Ethernet.headerLength then .error (.truncated "ethernet header")
  else if Ethernet.etherType f ≠ Ethernet.ipv4Type then
    .error (.unexpectedProtocol ("ethertype " ++ etherTypeName (Ethernet.etherType f)))
  else
    let inner ← ofDatagram (Ethernet.payload f)
    .ok { inner with
      ethDst := some (Ethernet.destination f).text
      ethSrc := some (Ethernet.source f).text
      etherType := some (Ethernet.etherType f)
      wireLength := f.length }

end EchoInjector.Summary

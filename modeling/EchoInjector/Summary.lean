import EchoInjector.Address.IPv4
import EchoInjector.Text.Json

/-!
# Summaries of a packet

A summary is what a packet says about itself: the fields of its headers, the lengths, and
whether its two checksums are right. The link-layer fields are there only when the packet was
read as a frame.

A summary is shown in two ways. `Summary.line` is one line for a person, from the outermost layer
to the innermost, with a mark at its end if a checksum is wrong. `Summary.json` lists every field
under its name, in the order of the structure.
-/

namespace EchoInjector

open Text

/-- The contents of a packet's headers. -/
structure Summary where
  /-- The receiver's link-layer address as text. -/
  ethDst : Option String
  /-- The sender's link-layer address as text. -/
  ethSrc : Option String
  /-- The type of the frame's payload. -/
  etherType : Option UInt16
  /-- The sender's Internet address. -/
  ipSrc : IPv4
  /-- The receiver's Internet address. -/
  ipDst : IPv4
  /-- The number of hops the datagram may take. -/
  ipTtl : UInt8
  /-- The identification of the datagram. -/
  ipIdent : UInt16
  /-- The total length that the datagram claims. -/
  ipTotalLength : UInt16
  /-- Whether the header checksum is right. -/
  ipChecksumOk : Bool
  /-- The type of the message. -/
  icmpType : UInt8
  /-- The code that refines the type. -/
  icmpCode : UInt8
  /-- The checksum stored in the message. -/
  icmpChecksum : UInt16
  /-- Whether that checksum is right. -/
  icmpChecksumOk : Bool
  /-- The identifier of the exchange. -/
  icmpIdent : UInt16
  /-- The number of the message within the exchange. -/
  icmpSeq : UInt16
  /-- The number of payload octets. -/
  payloadLength : Nat
  /-- The number of octets the summary was read from. -/
  wireLength : Nat
  deriving DecidableEq, Repr

namespace Summary

/-- The part of the line about the link layer, present when both addresses are. -/
def linkPart (s : Summary) : String :=
  match s.ethSrc, s.ethDst with
  | some src, some dst => "Ether " ++ src ++ " > " ++ dst ++ " / "
  | _, _ => ""

/-- The mark of a wrong checksum. -/
def checksumPart (s : Summary) : String :=
  if s.ipChecksumOk && s.icmpChecksumOk then "" else " [bad checksum]"

/-- The summary in one line. -/
def line (s : Summary) : String :=
  s.linkPart ++ "IP " ++ s.ipSrc.text ++ " > " ++ s.ipDst.text
    ++ " ttl=" ++ decimal s.ipTtl.toNat
    ++ " id=" ++ decimal s.ipIdent.toNat
    ++ " len=" ++ decimal s.ipTotalLength.toNat
    ++ " / ICMP type=" ++ decimal s.icmpType.toNat
    ++ " code=" ++ decimal s.icmpCode.toNat
    ++ " id=" ++ decimal s.icmpIdent.toNat
    ++ " seq=" ++ decimal s.icmpSeq.toNat
    ++ " payload=" ++ decimal s.payloadLength
    ++ s.checksumPart

/-- The summary as a document. -/
def json (s : Summary) : Json :=
  .object [
    ("eth_dst", s.ethDst.elim .null .text),
    ("eth_src", s.ethSrc.elim .null .text),
    ("ethertype", s.etherType.elim .null fun n => .number n.toNat),
    ("ip_src", .text s.ipSrc.text),
    ("ip_dst", .text s.ipDst.text),
    ("ip_ttl", .number s.ipTtl.toNat),
    ("ip_ident", .number s.ipIdent.toNat),
    ("ip_total_len", .number s.ipTotalLength.toNat),
    ("ip_chksum_ok", .bool s.ipChecksumOk),
    ("icmp_type", .number s.icmpType.toNat),
    ("icmp_code", .number s.icmpCode.toNat),
    ("icmp_chksum", .number s.icmpChecksum.toNat),
    ("icmp_chksum_ok", .bool s.icmpChecksumOk),
    ("icmp_identifier", .number s.icmpIdent.toNat),
    ("icmp_seq_number", .number s.icmpSeq.toNat),
    ("payload_len", .number s.payloadLength),
    ("wire_len", .number s.wireLength)]

end Summary

end EchoInjector

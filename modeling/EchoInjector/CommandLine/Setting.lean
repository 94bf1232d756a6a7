import EchoInjector.Plan

/-!
# Settings

A setting is something that the user can give a value for, on the command line or by an
environment variable. Each setting has values of **a type of its own**, and a way to read them
from text; what is refused is refused with a reason.

Most numbers are read as whole numbers with a sign and then held against their range, so a number
below zero is out of range rather than no number. The count and the interval are read without a
sign, because their range is that of the numeral itself.
-/

namespace EchoInjector.CommandLine

open Text

/-- What can be given a value, in the order in which the help lists it. -/
inductive Setting
  | iface
  | dstMac
  | srcMac
  | src
  | dst
  | ttl
  | ipIdent
  | icmpType
  | icmpCode
  | ident
  | seq
  | payload
  | payloadLength
  | count
  | interval
  deriving DecidableEq, Repr

/-- Why a text is no value of a setting. -/
inductive Refusal
  /-- It is no numeral, or not one of a number that can be held. -/
  | numeral (fault : NumeralFault)
  /-- It is a number beyond the range from zero to `most`. -/
  | outOfRange (n : Int) (most : Nat)
  /-- It is no Internet address. -/
  | ipv4
  /-- It is no link-layer address. -/
  | mac (text : String)
  deriving DecidableEq, Repr

/-- The wording of a refusal. -/
def Refusal.message : Refusal → String
  | .numeral fault => fault.message
  | .outOfRange n most => signedDecimal n ++ " is not in 0..=" ++ decimal most
  | .ipv4 => "invalid IPv4 address syntax"
  | .mac text => "invalid MAC address: " ++ text

/-! ### Reading values -/

/-- Reads a number from zero to `most`. -/
def readWithin (most : Nat) (text : String) : Except Refusal Nat :=
  match readSigned text.toList with
  | .error fault => .error (.numeral fault)
  | .ok n => if 0 ≤ n ∧ n ≤ most then .ok n.toNat else .error (.outOfRange n most)

/-- Reads a number of 64 bits without a sign. -/
def readWhole (text : String) : Except Refusal UInt64 :=
  match readUnsigned 10 (UInt64.size - 1) text.toList with
  | .error fault => .error (.numeral fault)
  | .ok n => .ok (UInt64.ofNat n)

/-- Reads a link-layer address. -/
def readMac (text : String) : Except Refusal Mac :=
  match Mac.read? text.toList with
  | some m => .ok m
  | none => .error (.mac text)

/-- Reads an Internet address. -/
def readIPv4 (text : String) : Except Refusal IPv4 :=
  match IPv4.read? text.toList with
  | some a => .ok a
  | none => .error .ipv4

namespace Setting

/-- The type of a setting's values. -/
@[reducible] def Value : Setting → Type
  | iface | payload => String
  | dstMac | srcMac => Mac
  | src | dst => IPv4
  | ttl | icmpType | icmpCode => UInt8
  | ipIdent | ident | seq | payloadLength => UInt16
  | count | interval => UInt64

/-- Reads a value. -/
def read : (s : Setting) → String → Except Refusal s.Value
  | iface, t | payload, t => .ok t
  | dstMac, t | srcMac, t => readMac t
  | src, t | dst, t => readIPv4 t
  | ttl, t | icmpType, t | icmpCode, t => (readWithin 255 t).map UInt8.ofNat
  | ipIdent, t | ident, t | seq, t => (readWithin 65535 t).map UInt16.ofNat
  | payloadLength, t => (readWithin Probe.maxPayload t).map UInt16.ofNat
  | count, t | interval, t => readWhole t

/-- Writes a value so that it can be read again. -/
def write : (s : Setting) → s.Value → String
  | iface, v | payload, v => v
  | dstMac, v | srcMac, v => v.text
  | src, v | dst, v => v.text
  | ttl, v | icmpType, v | icmpCode, v => decimal (UInt8.toNat v)
  | ipIdent, v | ident, v | seq, v | payloadLength, v => decimal (UInt16.toNat v)
  | count, v | interval, v => decimal (UInt64.toNat v)

/-- The value of a setting that is given none, as in the standard plan; three settings then stay
without a value. -/
def default? : (s : Setting) → Option s.Value
  | iface => some Plan.standard.iface
  | dstMac => some Plan.standard.probe.dstMac
  | srcMac | payload | payloadLength => none
  | src => some Plan.standard.probe.src
  | dst => some Plan.standard.probe.dst
  | ttl => some Plan.standard.probe.ttl
  | ipIdent => some Plan.standard.probe.ipIdent
  | icmpType => some Plan.standard.probe.icmpType
  | icmpCode => some Plan.standard.probe.icmpCode
  | ident => some Plan.standard.probe.icmpIdent
  | seq => some Plan.standard.probe.icmpSeq
  | count => some Plan.standard.count
  | interval => some Plan.standard.interval

/-! ### Names -/

/-- All settings in order. -/
def all : List Setting :=
  [iface, dstMac, srcMac, src, dst, ttl, ipIdent, icmpType, icmpCode, ident, seq, payload,
    payloadLength, count, interval]

/-- The name on the command line. -/
def long : Setting → String
  | iface => "iface"
  | dstMac => "dst-mac"
  | srcMac => "src-mac"
  | src => "src"
  | dst => "dst"
  | ttl => "ttl"
  | ipIdent => "ip-id"
  | icmpType => "icmp-type"
  | icmpCode => "icmp-code"
  | ident => "ident"
  | seq => "seq"
  | payload => "payload"
  | payloadLength => "payload-len"
  | count => "count"
  | interval => "interval"

/-- The letter on the command line, where there is one. -/
def short? : Setting → Option Char
  | iface => some 'i'
  | src => some 's'
  | dst => some 'd'
  | count => some 'c'
  | _ => none

/-- The environment variable. -/
def envName : Setting → String
  | iface => "ECHO_PROBE_IFACE"
  | dstMac => "ECHO_PROBE_DST_MAC"
  | srcMac => "ECHO_PROBE_SRC_MAC"
  | src => "ECHO_PROBE_SRC"
  | dst => "ECHO_PROBE_DST"
  | ttl => "ECHO_PROBE_TTL"
  | ipIdent => "ECHO_PROBE_IP_ID"
  | icmpType => "ECHO_PROBE_ICMP_TYPE"
  | icmpCode => "ECHO_PROBE_ICMP_CODE"
  | ident => "ECHO_PROBE_IDENT"
  | seq => "ECHO_PROBE_SEQ"
  | payload => "ECHO_PROBE_PAYLOAD"
  | payloadLength => "ECHO_PROBE_PAYLOAD_LEN"
  | count => "ECHO_PROBE_COUNT"
  | interval => "ECHO_PROBE_INTERVAL"

/-- What stands for the value in messages and in the help. -/
def placeholder : Setting → String
  | iface => "IFACE"
  | dstMac => "DST_MAC"
  | srcMac => "SRC_MAC"
  | src => "SRC"
  | dst => "DST"
  | ttl => "TTL"
  | ipIdent => "IP_IDENT"
  | icmpType => "ICMP_TYPE"
  | icmpCode => "ICMP_CODE"
  | ident => "IDENT"
  | seq => "SEQ"
  | payload => "PAYLOAD"
  | payloadLength => "N"
  | count => "COUNT"
  | interval => "MS"

/-- What the help says about the setting. -/
def about : Setting → String
  | iface => "Interface to send on"
  | dstMac => "Ethernet destination address"
  | srcMac => "Ethernet source address (default: the interface's own address, or zero)"
  | src => "IPv4 source address"
  | dst => "IPv4 destination address"
  | ttl => "IPv4 time to live"
  | ipIdent => "IPv4 identification field"
  | icmpType => "ICMP type (8 = echo request)"
  | icmpCode => "ICMP code"
  | ident => "ICMP echo identifier"
  | seq => "ICMP echo sequence number"
  | payload => "Echo payload as UTF-8 text"
  | payloadLength => "Echo payload as N zero bytes (at most 65507)"
  | count => "Number of times to send the frame (0 = until interrupted)"
  | interval => "Pause between repeated sends, in milliseconds"

end Setting

end EchoInjector.CommandLine

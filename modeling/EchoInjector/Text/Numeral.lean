/-!
# Numerals

Numbers are written in a base of at most sixteen with the digits `0` to `9` and `a` to `f`, the
most significant digit first and without leading zeros.

Reading is more generous than writing: a numeral may begin with one `+`, may have any number of
leading zeros, and takes letters in either case. A numeral is read against a **limit**, and the
fault reported is the first one met from the left. At one position a character that is no digit
is reported before a number that has grown too large, so `99999999999x` is too large for a small
limit although it is not a numeral at all.

A sign alone is never a numeral: it is read as a character that is no digit.
-/

namespace EchoInjector.Text

/-! ### Writing -/

/-- The character of a digit below sixteen, a letter in lower case from ten on. -/
def digitChar (d : Nat) : Char :=
  if d < 10 then Char.ofNat (48 + d) else Char.ofNat (87 + d)

/-- The digits of a number, the most significant one first. A base below two has no digits to
offer, so the number is then taken as a single digit. -/
def digits (base n : Nat) : List Char :=
  if h : n < base ∨ base < 2 then [digitChar n]
  else
    have : n / base < n := Nat.div_lt_self (by omega) (by omega)
    digits base (n / base) ++ [digitChar (n % base)]
termination_by n

/-- A number as a decimal numeral. -/
def decimal (n : Nat) : String :=
  String.ofList (digits 10 n)

/-- A whole number as a decimal numeral, with a leading `-` below zero. -/
def signedDecimal (n : Int) : String :=
  if n < 0 then "-" ++ decimal n.natAbs else decimal n.natAbs

/-- An octet as two hexadecimal digits. -/
def hexOctet (b : UInt8) : List Char :=
  [digitChar (b.toNat / 16), digitChar (b.toNat % 16)]

/-! ### Reading -/

/-- What can be wrong with a numeral. -/
inductive NumeralFault
  | empty
  | invalidDigit
  | tooLarge
  | tooSmall
  deriving DecidableEq, Repr

/-- The text of a fault. -/
def NumeralFault.message : NumeralFault → String
  | .empty => "cannot parse integer from empty string"
  | .invalidDigit => "invalid digit found in string"
  | .tooLarge => "number too large to fit in target type"
  | .tooSmall => "number too small to fit in target type"

/-- The value of a character as a digit of a base, letters in either case. -/
def digitValue? (base : Nat) (c : Char) : Option Nat :=
  let value : Option Nat :=
    if '0' ≤ c ∧ c ≤ '9' then some (c.toNat - 48)
    else if 'a' ≤ c ∧ c ≤ 'f' then some (c.toNat - 87)
    else if 'A' ≤ c ∧ c ≤ 'F' then some (c.toNat - 55)
    else none
  value.filter (· < base)

/-- Reads digits onto a number already read. The number may not exceed `limit`; where it would,
the fault is `excess`. -/
def readDigits (base limit : Nat) (excess : NumeralFault) :
    Nat → List Char → Except NumeralFault Nat
  | acc, [] => .ok acc
  | acc, c :: rest =>
    match digitValue? base c with
    | none => .error .invalidDigit
    | some d =>
      if limit < acc * base + d then .error excess
      else readDigits base limit excess (acc * base + d) rest

/-- Reads a numeral without a minus sign: an optional `+`, then digits, at most `limit`. -/
def readUnsigned (base limit : Nat) : List Char → Except NumeralFault Nat
  | [] => .error .empty
  | '+' :: c :: rest => readDigits base limit .tooLarge 0 (c :: rest)
  | text => readDigits base limit .tooLarge 0 text

/-- Reads a decimal numeral with an optional sign that fits in 64 bits with sign. -/
def readSigned : List Char → Except NumeralFault Int
  | [] => .error .empty
  | '+' :: c :: rest => (readDigits 10 (1 <<< 63 - 1) .tooLarge 0 (c :: rest)).map Int.ofNat
  | '-' :: c :: rest => (readDigits 10 (1 <<< 63) .tooSmall 0 (c :: rest)).map fun n => -Int.ofNat n
  | text => (readDigits 10 (1 <<< 63 - 1) .tooLarge 0 text).map Int.ofNat

end EchoInjector.Text

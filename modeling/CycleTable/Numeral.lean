/-! # Numerals of 32 bits

Written numbers are read digit by digit from the left into 32 bits. The first thing that is
wrong decides the error: a character that is no digit, or a digit that makes the value too large.
-/
namespace CycleTable

inductive NumeralError where
  | empty
  | invalidDigit
  | posOverflow
  deriving DecidableEq, Repr

def NumeralError.message : NumeralError → String
  | .empty => "cannot parse integer from empty string"
  | .invalidDigit => "invalid digit found in string"
  | .posOverflow => "number too large to fit in target type"

namespace Numeral

/-- The value of an ASCII digit, with letters of either case above nine. -/
def digitValue? (base : Nat) (c : Char) : Option Nat :=
  let n := c.toNat
  let value :=
    if 0x30 ≤ n ∧ n ≤ 0x39 then n - 0x30
    else if 0x61 ≤ n ∧ n ≤ 0x7a then n - 0x61 + 10
    else if 0x41 ≤ n ∧ n ≤ 0x5a then n - 0x41 + 10
    else base
  if value < base then some value else none

def isDigit (c : Char) : Bool := (digitValue? 10 c).isSome

def isHexDigit (c : Char) : Bool := (digitValue? 16 c).isSome

def readDigits (base : Nat) (value : Nat) : List Char → Except NumeralError UInt32
  | [] => .ok (UInt32.ofNat value)
  | c :: cs =>
    match digitValue? base c with
    | none => .error .invalidDigit
    | some d =>
      let next := value * base + d
      if next < UInt32.size then readDigits base next cs else .error .posOverflow

/-- Reads a numeral with at most one leading plus sign; the sign alone has no digit. -/
def read (base : Nat) : List Char → Except NumeralError UInt32
  | [] => .error .empty
  | ['+'] => .error .invalidDigit
  | '+' :: digits => readDigits base 0 digits
  | digits => readDigits base 0 digits

def value (base : Nat) (cs : List Char) : Nat :=
  cs.foldl (fun n c => n * base + (digitValue? base c).getD 0) 0

def decimal (n : Nat) : List Char := Nat.toDigits 10 n

def hex (n : Nat) : List Char := Nat.toDigits 16 n

end Numeral
end CycleTable

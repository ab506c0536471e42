import AuditReport.Fault

/-!
# Bytecode in hexadecimal

Bytecode is written as an even number of hexadecimal digits, with or without `0x` in front. One
line feed may follow the digits as far as their check goes; it still counts towards the length.
-/
namespace AuditReport.Bytecode

def hexValue? (c : Char) : Option Nat :=
  if '0' ≤ c ∧ c ≤ '9' then some (c.toNat - 48)
  else if 'a' ≤ c ∧ c ≤ 'f' then some (c.toNat - 87)
  else if 'A' ≤ c ∧ c ≤ 'F' then some (c.toNat - 55)
  else none

def isHexDigit (c : Char) : Bool :=
  (hexValue? c).isSome

def dropTag : List Char → List Char
  | '0' :: 'x' :: r => r
  | '0' :: 'X' :: r => r
  | s => s

/-- Whether what follows the hexadecimal digits is nothing or one line feed. -/
def endsWell (s : List Char) : Bool :=
  match s.dropWhile isHexDigit with
  | [] => true
  | ['\n'] => true
  | _ => false

/-- The bytes that pairs of digits denote; none when a digit has no partner. -/
def pairs? : List Char → Option (List UInt8)
  | a :: b :: r => do
    let high ← hexValue? a
    let low ← hexValue? b
    let bytes ← pairs? r
    return UInt8.ofNat (16 * high + low) :: bytes
  | [] => some []
  | [_] => none

/-- The bytes of a bytecode text that stands in a field. -/
def decode (field : String) (hex : String) : Except Fault (List UInt8) :=
  let digits := dropTag hex.toList
  if !endsWell digits then .error (.bytecode field .notHexadecimal)
  else if digits.length % 2 = 1 then .error (.bytecode field (.oddDigits digits.length))
  else
    match pairs? digits with
    | some bytes => .ok bytes
    | none => .error (.defect .danglingDigit)

def encode (bytes : List UInt8) : List Char :=
  bytes.flatMap fun b => Text.hexDigits 2 b.toNat

end AuditReport.Bytecode

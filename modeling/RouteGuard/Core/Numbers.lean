import RouteGuard.Core.AddrParse

/-! # Numbers as text

`from_str` of the unsigned integer types. -/
set_option autoImplicit false
namespace RouteGuard

inductive ParseIntError where
  | empty
  | invalidDigit
  | posOverflow
deriving DecidableEq, Repr

def ParseIntError.toString : ParseIntError → String
  | .empty => "cannot parse integer from empty string"
  | .invalidDigit => "invalid digit found in string"
  | .posOverflow => "number too large to fit in target type"

/-- One digit more; the digit is looked at before the overflow. -/
def pushDigit (bound value : Nat) (c : Char) : Except ParseIntError Nat :=
  match toDigit 10 c with
  | none => .error .invalidDigit
  | some digit =>
      if value * 10 + digit < bound then .ok (value * 10 + digit) else .error .posOverflow

/-- `from_str` of the unsigned type of the values below `bound`; one `+` may stand in front. -/
def parseUnsigned (bound : Nat) (s : String) : Except ParseIntError Nat :=
  match s.toList with
  | [] => .error .empty
  | ['+'] => .error .invalidDigit
  | '+' :: digits => digits.foldlM (pushDigit bound) 0
  | digits => digits.foldlM (pushDigit bound) 0

def parseU16 (s : String) : Except ParseIntError UInt16 :=
  (parseUnsigned (2 ^ 16) s).map UInt16.ofNat

def parseU64 (s : String) : Except ParseIntError UInt64 :=
  (parseUnsigned (2 ^ 64) s).map UInt64.ofNat

end RouteGuard

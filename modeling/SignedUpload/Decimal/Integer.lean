/-! Decimal integers: digits in, digits out. The readers take ASCII digits only, and nothing but them
after an optional sign. -/
namespace SignedUpload.Decimal

def unsignedBound : Nat := 18446744073709551616
def signedBound : Nat := 9223372036854775808

def isDigit (c : Char) : Bool := '0' ≤ c && c ≤ '9'

def digitValue (c : Char) : Nat := c.toNat - '0'.toNat

def ofDigits (digits : List Char) : Nat := digits.foldl (fun n c => n * 10 + digitValue c) 0

def natural? (s : List Char) : Option Nat :=
  if s ≠ [] ∧ s.all isDigit then some (ofDigits s) else none

def unsigned? (bound : Nat) (s : List Char) : Option Nat :=
  let digits := match s with
    | '+' :: rest => rest
    | other => other
  (natural? digits).filter (· < bound)

def signed? (bound : Nat) (s : List Char) : Option Int :=
  match s with
  | '-' :: rest => ((natural? rest).filter (· ≤ bound)).map fun n => -(n : Int)
  | '+' :: rest => ((natural? rest).filter (· < bound)).map Int.ofNat
  | _ => ((natural? s).filter (· < bound)).map Int.ofNat

def digits (n : Nat) : List Char := Nat.toDigits 10 n

def natText (n : Nat) : String := String.ofList (digits n)

def intText (n : Int) : String :=
  if n < 0 then "-" ++ natText n.natAbs else natText n.natAbs

def padded (width n : Nat) : String :=
  let d := digits n
  String.ofList (List.replicate (width - d.length) '0' ++ d)

end SignedUpload.Decimal

import SignedUpload.Decimal.Integer
import SignedUpload.Decimal.Binary64
import SignedUpload.Text.Case

/-! Floating-point numbers written in decimal: an optional sign, then `inf`, `infinity` or `nan` in
any letter case, or digits around an optional point with an optional exponent. A written number
stands for an exact decimal, and is rounded only when it is taken as binary. -/
namespace SignedUpload.Decimal

inductive Literal where
  | nan
  | infinite (negative : Bool)
  | number (negative : Bool) (digits : Nat) (exponent : Int)
  deriving DecidableEq, Repr

namespace Literal

def splitSign : List Char → Bool × List Char
  | '-' :: rest => (true,rest)
  | '+' :: rest => (false,rest)
  | s => (false,s)

def exponent? : List Char → Option Int
  | [] => some 0
  | c :: rest =>
    if c = 'e' ∨ c = 'E' then
      let (negative,digits) := splitSign rest
      (natural? digits).map fun n => if negative then -(n : Int) else n
    else none

def mantissa? (negative : Bool) (s : List Char) : Option Literal :=
  let whole := s.takeWhile isDigit
  let rest := s.dropWhile isDigit
  let (fraction,rest) := match rest with
    | '.' :: r => (r.takeWhile isDigit,r.dropWhile isDigit)
    | r => ([],r)
  if whole = [] ∧ fraction = [] then none
  else (exponent? rest).map fun e =>
    .number negative (ofDigits (whole ++ fraction)) (e - fraction.length)

def read? (s : String) : Option Literal :=
  let (negative,rest) := splitSign s.toList
  let word := String.ofList (rest.map Text.asciiLower)
  if word = "nan" then some .nan
  else if word = "inf" ∨ word = "infinity" then some (.infinite negative)
  else mantissa? negative rest

/-- Powers of ten past the reach of binary64 are not worked out: a decimal of 311 digits before the
point is infinite, and one that starts 400 places after it is zero. -/
def toBinary64 : Literal → Binary64
  | .nan => .nan
  | .infinite s => .infinite s
  | .number s m e =>
    if m = 0 then Binary64.zero s
    else
      let lead := (digits m).length + e
      if 311 < lead then .infinite s
      else if lead < -400 then Binary64.zero s
      else if e < 0 then Binary64.ofRatio s m (Nat.pow 10 e.natAbs)
      else Binary64.ofRatio s (m * Nat.pow 10 e.natAbs) 1

end Literal

def binary64? (s : String) : Option Binary64 := (Literal.read? s).map Literal.toBinary64

end SignedUpload.Decimal

/-! Binary floating point of 64 bits with exact contents. A finite number is `significand * 2 ^
exponent`, normalised: the significand has 53 bits, or fewer at the least exponent. Rounding goes to
the nearest number, a tie to the even significand. -/
namespace SignedUpload.Decimal

inductive Binary64 where
  | nan
  | infinite (negative : Bool)
  | finite (negative : Bool) (significand : Nat) (exponent : Int)
  deriving DecidableEq, Repr

def roundQuotient (num den : Nat) : Nat :=
  let q := num / den
  let twice := 2 * (num % den)
  if twice < den then q
  else if den < twice then q + 1
  else q + q % 2

namespace Binary64

def leastExponent : Int := -1074
def greatestExponent : Int := 971

def zero (negative : Bool) : Binary64 := .finite negative 0 leastExponent

def scaled (num den : Nat) (exponent : Int) : Nat × Nat :=
  if exponent < 0 then (num * Nat.pow 2 exponent.natAbs,den) else (num,den * Nat.pow 2 exponent.natAbs)

def exponentFor (num den : Nat) : Int :=
  let guess : Int := (Nat.log2 num : Int) - Nat.log2 den - 52
  let (n,d) := scaled num den guess
  max leastExponent (if n < d * Nat.pow 2 52 then guess - 1 else guess)

def ofRatio (negative : Bool) (num den : Nat) : Binary64 :=
  if num = 0 then zero negative
  else
    let e := exponentFor num den
    let (n,d) := scaled num den e
    let m := roundQuotient n d
    let (m,e) := if m = Nat.pow 2 53 then (Nat.pow 2 52,e + 1) else (m,e)
    if greatestExponent < e then .infinite negative
    else if m = 0 then zero negative
    else .finite negative m e

def ofNat (n : Nat) : Binary64 := ofRatio false n 1

def ratio (significand : Nat) (exponent : Int) : Nat × Nat :=
  if exponent < 0 then (significand,Nat.pow 2 exponent.natAbs)
  else (significand * Nat.pow 2 exponent.natAbs,1)

def negate : Binary64 → Binary64
  | .nan => .nan
  | .infinite s => .infinite !s
  | .finite s m e => .finite (!s) m e

def same : Binary64 → Binary64 → Bool
  | .infinite a,.infinite b => a == b
  | .finite a m e,.finite b n f => (m == 0 && n == 0) || (a == b && m == n && e == f)
  | _,_ => false

def powerOfTen (k : Nat) : Binary64 := ofRatio false (Nat.pow 10 k) 1

def timesPower (x : Binary64) (k : Nat) : Binary64 :=
  match x,powerOfTen k with
  | .finite s m e,.finite _ n f =>
    let (a,b) := ratio m e
    let (c,d) := ratio n f
    ofRatio s (a * c) (b * d)
  | _,_ => .nan

def overPower (x : Binary64) (k : Nat) : Binary64 :=
  match x,powerOfTen k with
  | .finite s m e,.finite _ n f =>
    let (a,b) := ratio m e
    let (c,d) := ratio n f
    ofRatio s (a * d) (b * c)
  | _,_ => .nan

end Binary64
end SignedUpload.Decimal

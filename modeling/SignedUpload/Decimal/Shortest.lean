import SignedUpload.Decimal.Integer
import SignedUpload.Decimal.Binary64

/-! The shortest decimal that reads back as a given binary number. Of two decimals with equally few
digits the nearer one is taken. -/
namespace SignedUpload.Decimal

structure Scientific where
  digits : Nat
  exponent : Int
  deriving DecidableEq, Repr

namespace Scientific

def ratio (d : Scientific) : Nat × Nat :=
  if d.exponent < 0 then (d.digits,Nat.pow 10 d.exponent.natAbs)
  else (d.digits * Nat.pow 10 d.exponent.natAbs,1)

def toBinary64 (d : Scientific) : Binary64 := Binary64.ofRatio false d.ratio.1 d.ratio.2

def strip : Nat → Scientific → Scientific
  | 0,d => d
  | fuel + 1,d =>
    if d.digits ≠ 0 ∧ d.digits % 10 = 0 then strip fuel ⟨d.digits / 10,d.exponent + 1⟩ else d

end Scientific

def decimalLead (num den : Nat) : Int :=
  let guess : Int := ((digits num).length : Int) - (digits den).length
  let below := if guess < 0 then num * Nat.pow 10 guess.natAbs < den else num < den * Nat.pow 10 guess.natAbs
  if below then guess - 1 else guess

def neighbours (num den : Nat) (exponent : Int) : List Scientific :=
  let (n,d) :=
    if exponent < 0 then (num * Nat.pow 10 exponent.natAbs,den) else (num,den * Nat.pow 10 exponent.natAbs)
  let below := n / d
  if roundQuotient n d = below then [⟨below,exponent⟩,⟨below + 1,exponent⟩]
  else [⟨below + 1,exponent⟩,⟨below,exponent⟩]

def exactDecimal (significand : Nat) (exponent : Int) : Scientific :=
  if exponent < 0 then ⟨significand * Nat.pow 5 exponent.natAbs,exponent⟩
  else ⟨significand * Nat.pow 2 exponent.natAbs,0⟩

def readsBack (significand : Nat) (exponent : Int) (d : Scientific) : Bool :=
  d.toBinary64 == .finite false significand exponent

def shortestFrom (significand : Nat) (exponent : Int) : Nat → Nat → Option Scientific
  | 0,_ => none
  | more + 1,places =>
    let (num,den) := Binary64.ratio significand exponent
    let grid := decimalLead num den - (places : Int) + 1
    match (neighbours num den grid).find? (readsBack significand exponent) with
    | some d => some d
    | none => shortestFrom significand exponent more (places + 1)

def shortest (significand : Nat) (exponent : Int) : Scientific :=
  let d := (shortestFrom significand exponent 17 1).getD (exactDecimal significand exponent)
  d.strip (digits d.digits).length

structure Layout where
  lowest : Int
  highest : Int
  deriving Repr

def Layout.write (layout : Layout) (d : Scientific) : String :=
  let ds := digits d.digits
  let lead := d.exponent + ds.length - 1
  if lead < layout.lowest ∨ layout.highest ≤ lead then
    let tail := if ds.length ≤ 1 then [] else '.' :: ds.drop 1
    let sign := if lead < 0 then '-' else '+'
    String.ofList (ds.take 1 ++ tail ++ 'e' :: sign :: digits lead.natAbs)
  else if lead < 0 then
    String.ofList ('0' :: '.' :: List.replicate (lead.natAbs - 1) '0' ++ ds)
  else
    let before := lead.natAbs + 1
    let whole := ds.take before ++ List.replicate (before - ds.length) '0'
    let fraction := ds.drop before
    String.ofList (whole ++ '.' :: if fraction = [] then ['0'] else fraction)

end SignedUpload.Decimal

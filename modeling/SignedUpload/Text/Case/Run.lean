/-! Runs of code points that change case by one distance. A run names its first and last member and
the step between members; nothing between two steps belongs to it. -/
namespace SignedUpload.Text.Case

structure Run where
  first : Nat
  last : Nat
  step : Nat
  distance : Int
  deriving DecidableEq, Repr

def Run.covers (r : Run) (code : Nat) : Bool :=
  r.first ≤ code && code ≤ r.last && (code - r.first) % r.step == 0

def shift (runs : List Run) (code : Nat) : Nat :=
  match runs.find? (·.covers code) with
  | some r => (code + r.distance).toNat
  | none => code

def within (ranges : List (Nat × Nat)) (code : Nat) : Bool :=
  ranges.any fun r => r.1 ≤ code && code ≤ r.2

end SignedUpload.Text.Case

import SignedUpload.UploadedObject

/-! The count of a batch. A success counts up, a failure lowers what is expected, so a file that
fails never keeps the batch waiting. -/
namespace SignedUpload

structure Tally where
  expected : Nat
  succeeded : Nat
  failed : Nat
  results : List (Nat × UploadedObject)
  reported : Bool
  deriving DecidableEq, Repr

namespace Tally

def start (expected : Nat) : Tally := ⟨expected,0,0,[],false⟩

def recordSuccess (t : Tally) (position : Nat) (object : UploadedObject) : Tally :=
  { t with succeeded := t.succeeded + 1, results := t.results ++ [(position,object)] }

def recordFailure (t : Tally) : Tally :=
  { t with failed := t.failed + 1, expected := t.expected - 1 }

def inOrder (results : List (Nat × UploadedObject)) : List UploadedObject :=
  (results.mergeSort fun a b => a.1 ≤ b.1).map (·.2)

def takeIfComplete (t : Tally) : Option (List UploadedObject) × Tally :=
  if t.reported ∨ t.succeeded ≠ t.expected then (none,t)
  else (some (inOrder t.results),{ t with reported := true, results := [] })

end Tally
end SignedUpload

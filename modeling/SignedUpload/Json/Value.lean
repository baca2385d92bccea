import SignedUpload.Decimal.Binary64
import SignedUpload.Decimal.Integer

/-! JSON values. An integer that fits 64 bits, signed or unsigned, stays an integer; every other
number is binary floating point and finite. Members of an object are in the order of their keys, each
key once. -/
namespace SignedUpload.Json

open Decimal (Binary64)

inductive Number where
  | integer (n : Int)
  | real (x : Binary64)
  deriving DecidableEq, Repr

def Number.signed? : Number → Option Int
  | .integer n => if n < Decimal.signedBound then some n else none
  | .real _ => none

inductive Value where
  | null
  | bool (b : Bool)
  | number (n : Number)
  | string (s : String)
  | array (items : List Value)
  | object (members : List (String × Value))
  deriving Inhabited, Repr

namespace Value

def putMember (key : String) (value : Value) : List (String × Value) → List (String × Value)
  | [] => [(key,value)]
  | m :: rest =>
    if key < m.1 then (key,value) :: m :: rest
    else if key = m.1 then (key,value) :: rest
    else m :: putMember key value rest

theorem lookupCons (m : String × Value) (rest : List (String × Value)) (name : String) :
    (m :: rest).lookup name = if name = m.1 then some m.2 else rest.lookup name := by
  obtain ⟨key,value⟩ := m
  by_cases same : name = key
  · rw [if_pos same,same,List.lookup_cons_self]
  · rw [if_neg same,List.lookup_cons,beq_false_of_ne same]

theorem lookupPut (key : String) (value : Value) (found : List (String × Value)) (name : String) :
    (putMember key value found).lookup name =
      if name = key then some value else found.lookup name := by
  induction found with
  | nil => exact lookupCons _ _ _
  | cons m rest ih =>
    unfold putMember
    split
    · exact lookupCons _ _ _
    · split
      · rename_i here
        simp only [lookupCons,← here]
        split <;> rfl
      · rename_i other
        simp only [lookupCons,ih]
        by_cases first : name = m.1
        · simp [first,Ne.symm other]
        · simp [first]

def get? (v : Value) (key : String) : Option Value :=
  match v with
  | .object members => members.lookup key
  | _ => none

def text? : Value → Option String
  | .string s => some s
  | _ => none

def isObject : Value → Bool
  | .object _ => true
  | _ => false

end Value

inductive Fault where
  | malformed
  | unfinished
  | unsuited
  deriving DecidableEq, Repr

abbrev Read (α : Type) := List Char → Except Fault (α × List Char)

end SignedUpload.Json

import SignedUpload.Json.Reader
import SignedUpload.Json.Skip
import SignedUpload.TextMap

/-! Reading JSON into types. A record is read from an object by its keys, or from a list by the order
of its fields. A key that is not known is passed over, and a known key may come only once. -/
namespace SignedUpload.Json

def faultOf : Except Fault α → Fault
  | .error f => f
  | .ok _ => .unsuited

def mismatch (s : List Char) : Fault :=
  match s with
  | [] => .unfinished
  | 'n' :: rest => faultOf (word ['u','l','l'] rest)
  | 't' :: rest => faultOf (word ['r','u','e'] rest)
  | 'f' :: rest => faultOf (word ['a','l','s','e'] rest)
  | '"' :: rest => faultOf (stringBody rest)
  | '-' :: rest => faultOf (numberBody true rest)
  | '[' :: _ => .unsuited
  | '{' :: _ => .unsuited
  | c :: rest => if Decimal.isDigit c then faultOf (numberBody false (c :: rest)) else .malformed

def text : Read String := fun s =>
  match skipBlanks s with
  | '"' :: rest => stringBody rest
  | s => .error (mismatch s)

def flag : Read Bool := fun s =>
  match skipBlanks s with
  | 't' :: rest => (word ['r','u','e'] rest).map (true,·)
  | 'f' :: rest => (word ['a','l','s','e'] rest).map (false,·)
  | s => .error (mismatch s)

def null : Read Unit := fun s =>
  match skipBlanks s with
  | 'n' :: rest => (word ['u','l','l'] rest).map ((),·)
  | s => .error (mismatch s)

def natural (bound : Nat) : Read Nat := fun s =>
  let s := skipBlanks s
  match s with
  | [] => .error .unfinished
  | c :: _ =>
    if c = '-' ∨ Decimal.isDigit c then
      match number s with
      | .error f => .error f
      | .ok (.integer n,rest) =>
        if 0 ≤ n ∧ n < bound then .ok (n.toNat,rest) else .error .unsuited
      | .ok (.real _,_) => .error .unsuited
    else .error (mismatch s)

def optional (read : Read α) : Read (Option α) := fun s =>
  match skipBlanks s with
  | 'n' :: rest => (word ['u','l','l'] rest).map (none,·)
  | s => (read s).map fun r => (some r.1,r.2)

def entriesFrom : Nat → Bool → TextMap → Read TextMap
  | 0,_,_,_ => .error .unfinished
  | fuel + 1,first,seen,s => match nextKey first s with
    | .error f => .error f
    | .ok none => .ok (seen,s)
    | .ok (some (key,s)) => match colon s with
      | .error f => .error f
      | .ok s => match text s with
        | .error f => .error f
        | .ok (v,rest) => entriesFrom fuel false (seen.insert key v) rest

def textMap : Read TextMap := fun s =>
  match skipBlanks s with
  | '{' :: rest => do
    let (found,rest) ← entriesFrom (rest.length + 1) true TextMap.empty rest
    let rest ← closeObject rest
    .ok (found,rest)
  | s => .error (mismatch s)

structure RecordField (σ : Type) where
  key : String
  read : σ → Read σ

def RecordField.of (key : String) (read : Read α) (put : σ → α → σ) : RecordField σ :=
  ⟨key,fun record s => (read s).map fun r => (put record r.1,r.2)⟩

def fieldsByKey (fields : List (RecordField σ)) :
    Nat → Bool → List String → σ → Read (σ × List String)
  | 0,_,_,_,_ => .error .unfinished
  | fuel + 1,first,seen,record,s => match nextKey first s with
    | .error f => .error f
    | .ok none => .ok ((record,seen),s)
    | .ok (some (key,s)) => match fields.find? (·.key == key) with
      | none => match colon s with
        | .error f => .error f
        | .ok s => match skipValue s with
          | .error f => .error f
          | .ok rest => fieldsByKey fields fuel false seen record rest
      | some field =>
        if key ∈ seen then .error .unsuited
        else match colon s with
          | .error f => .error f
          | .ok s => match field.read record s with
            | .error f => .error f
            | .ok (record,rest) => fieldsByKey fields fuel false (key :: seen) record rest

def fieldsByPlace : List (RecordField σ) → Bool → List String → σ → Read (σ × List String)
  | [],_,seen,record,s => .ok ((record,seen),s)
  | field :: fields,first,seen,record,s => match nextElement first s with
    | .error f => .error f
    | .ok none => .ok ((record,seen),s)
    | .ok (some s) => match field.read record s with
      | .error f => .error f
      | .ok (record,rest) => fieldsByPlace fields false (field.key :: seen) record rest

/-- A record that starts as `initial`. Fields named in `required` must come. In a list a missing one
is noticed before the end of the list is looked at. -/
def record (fields : List (RecordField σ)) (required : List String) (initial : σ) : Read σ := fun s =>
  match skipBlanks s with
  | '{' :: rest => do
    let ((found,seen),rest) ← fieldsByKey fields (rest.length + 1) true [] initial rest
    if required.all (seen.contains ·) then
      let rest ← closeObject rest
      .ok (found,rest)
    else .error .unsuited
  | '[' :: rest => do
    let ((found,seen),rest) ← fieldsByPlace fields true [] initial rest
    if required.all (seen.contains ·) then
      let rest ← closeList rest
      .ok (found,rest)
    else .error .unsuited
  | s => .error (mismatch s)

end SignedUpload.Json

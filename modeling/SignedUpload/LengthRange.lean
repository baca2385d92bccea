import SignedUpload.Decimal.Integer

/-! The length of a value, counted in characters, held against a range that includes both ends. -/
namespace SignedUpload

structure LengthRange where
  min : Nat
  max : Nat
  deriving DecidableEq, Repr

structure LengthError where
  range : LengthRange
  message : Option String
  deriving DecidableEq, Repr

namespace LengthRange

open Decimal (natText)

def holds (range : LengthRange) (value : String) : Bool :=
  range.min ≤ value.toList.length && value.toList.length ≤ range.max

def hint (range : LengthRange) : String :=
  "length must be between " ++ natText range.min ++ " - " ++ natText range.max

def check (range : LengthRange) (value : String) (explain : Bool) : Except LengthError Unit :=
  if range.holds value then .ok ()
  else .error ⟨range,if explain then some range.hint else none⟩

end LengthRange

def LengthError.shown (e : LengthError) : String :=
  e.message.getD ("length out of range " ++ Decimal.natText e.range.min ++ "..=" ++
    Decimal.natText e.range.max)

end SignedUpload

import SignedUpload.Decimal.Integer
import SignedUpload.Decimal.Binary64

/-! Decimals with one place after the point, rounded to the nearest one, a tie to the even digit. -/
namespace SignedUpload.Decimal

def onePlace (num den : Nat) : String :=
  let tenths := roundQuotient (num * 10) den
  natText (tenths / 10) ++ "." ++ natText (tenths % 10)

end SignedUpload.Decimal

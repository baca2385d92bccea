import SignedUpload.Decimal.Integer

/-! Keys of stored objects: what all keys of a batch start with, the milliseconds of the clock, five
random digits, and the file's name. A key that was given out before is drawn again. -/
namespace SignedUpload

abbrev Suffix := Fin 100000

open Decimal (intText padded)

def objectKey (leading : String) (millis : Int) (suffix : Suffix) (name : String) : String :=
  leading ++ intText millis ++ "-" ++ padded 5 suffix.val ++ "-" ++ name

structure KeyIssuer where
  leading : String
  issued : List String
  deriving DecidableEq, Repr

namespace KeyIssuer

def fresh (leading : String) : KeyIssuer := ⟨leading,[]⟩

/-- The first draw that gives a new key is taken, and the draws after it are left. There is no key
when all draws give old ones. -/
def next? (issuer : KeyIssuer) (millis : Int) (name : String) :
    List Suffix → Option (String × KeyIssuer × List Suffix)
  | [] => none
  | suffix :: draws =>
    let key := objectKey issuer.leading millis suffix name
    if key ∈ issuer.issued then issuer.next? millis name draws
    else some (key,{ issuer with issued := key :: issuer.issued },draws)

end KeyIssuer
end SignedUpload

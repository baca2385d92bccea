import SignedUpload.Instant

/-! Signed upload policies, and what is kept when none could be had. -/
namespace SignedUpload

structure Policy where
  accessId : String
  signature : String
  document : String
  expiresAt : Option Instant
  deriving DecidableEq, Repr

def Policy.isExpired (policy : Policy) (now : Instant) : Bool :=
  policy.expiresAt.any (·.notAfter now)

structure PolicyFailure where
  status : Option Nat
  body : String
  reason : String
  deriving DecidableEq, Repr

end SignedUpload

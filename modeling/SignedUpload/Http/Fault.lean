/-! Why an exchange over HTTP gave no answer. -/
namespace SignedUpload.Http

inductive Fault where
  | unbuildable
  | unsendable (url : String)
  | unsent (url : String)
  | cutShort
  deriving DecidableEq, Repr

def Fault.message : Fault → String
  | .unbuildable => "builder error"
  | .unsendable url => "builder error for url (" ++ url ++ ")"
  | .unsent url => "error sending request for url (" ++ url ++ ")"
  | .cutShort => "error decoding response body"

end SignedUpload.Http

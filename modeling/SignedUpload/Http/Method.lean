import SignedUpload.Text.Case

/-! The two ways a request is made here. -/
namespace SignedUpload.Http

inductive Method where
  | get
  | post
  deriving DecidableEq, Repr

namespace Method

def word : Method → String
  | .get => "GET"
  | .post => "POST"

def read? (word : String) : Option Method :=
  let upper := Text.upper word
  if upper = "GET" then some .get
  else if upper = "POST" then some .post
  else none

end Method
end SignedUpload.Http

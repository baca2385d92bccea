import SignedUpload.Policy.Response
import SignedUpload.Http.Message

/-! Asking for a policy: one request, and what its answer gives. -/
namespace SignedUpload.Config

open Http

def policyRequest (config : Config) : Except Fault Request := do
  let (url,login) := (← Url.read config.policyUrl).takeLogin
  let headers ← headersOf config.policyHeaders.entries
  let data := config.policyData.entries
  match config.requestMethod with
  | .get => Request.ready ⟨.get,url.appendQuery data,login ++ headers,.empty⟩
  | .post => Request.ready ⟨.post,url,login ++ formHeader :: headers,.form (Form.encode data)⟩

def transportFailure (fault : Fault) : PolicyFailure :=
  ⟨none,"",(PolicyError.transport fault).message⟩

def policyFrom (config : Config) (request : Request) (reply : Reply) (now : Instant) :
    Except PolicyFailure Policy :=
  match reply with
  | .broken => .error (transportFailure (.unsent request.url.text))
  | .cut _ => .error (transportFailure .cutShort)
  | .whole status bytes =>
    let body := Utf8.decodeLossy bytes
    match config.accept status body now with
    | .ok policy => .ok policy
    | .error e => .error ⟨some status,body,e.message⟩

end SignedUpload.Config

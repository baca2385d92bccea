import SignedUpload.UploadError
import SignedUpload.Http.Message

/-! Sending a file to the storage: one form, signed by a policy, with the file as its last part. -/
namespace SignedUpload.Config

open Http

/-- The storage looks at no field behind the file, so the extra fields come before it, in the order of
their names. -/
def storageForm (config : Config) (key : String) (policy : Policy) (file : FilePart) : Multipart :=
  ⟨[("key",key),("policy",policy.document),("OSSAccessKeyId",policy.accessId),
      ("signature",policy.signature),("success_action_status","200")] ++
    config.extraFields.entries,file⟩

def storageRequest (config : Config) (key : String) (policy : Policy) (file : FilePart) :
    Except Fault Request := do
  match MediaType.read? file.mediaType with
  | none => .error .unbuildable
  | some mediaType =>
    let (url,login) := (← Url.read config.storageEndpoint).takeLogin
    Request.ready ⟨.post,url,login,
      .multipart (config.storageForm key policy { file with mediaType })⟩

def stored (request : Request) (reply : Reply) : Except UploadError Unit :=
  match reply with
  | .broken => .error (.transport (.unsent request.url.text))
  | .cut status => if isSuccess status then .ok () else .error (.storage status "")
  | .whole status body =>
    if isSuccess status then .ok () else .error (.storage status (Utf8.decodeLossy body))

end SignedUpload.Config

import SignedUpload.Disk
import SignedUpload.FileStatus
import SignedUpload.Policy
import SignedUpload.Config
import SignedUpload.Http.Fault

/-! Why an operation of an uploader fails. -/
namespace SignedUpload

abbrev FileId := Nat

inductive UploadError where
  | storage (status : Nat) (body : String)
  | transport (fault : Http.Fault)
  | disk (fault : DiskFault)
  | invalidTransition (source target : FileStatus)
  | batchInProgress
  | noFilesSelected
  | unknownFile (id : FileId)
  | fileBusy (id : FileId)
  | policyFailed (failure : PolicyFailure)
  | config (error : ConfigError)
  deriving DecidableEq, Repr

def UploadError.message : UploadError → String
  | .storage status body =>
    "Storage rejected upload with status " ++ Decimal.natText status ++ ": " ++ body
  | .transport fault => "Upload request failed: " ++ fault.message
  | .disk fault => "IO error: " ++ fault.message
  | .invalidTransition source target =>
    "Invalid status transition " ++ source.name ++ " -> " ++ target.name
  | .batchInProgress => "An upload batch is already in progress"
  | .noFilesSelected => "No files selected"
  | .unknownFile id => "Unknown file id " ++ Decimal.natText id
  | .fileBusy id => "File " ++ Decimal.natText id ++ " is uploading and cannot be changed"
  | .policyFailed failure => "Upload policy unavailable: " ++ failure.reason
  | .config error => "Configuration error: " ++ error.message

end SignedUpload

import SignedUpload.FileKind
import SignedUpload.Http.Method
import SignedUpload.TextMap

/-! Options of an uploader and the checks they must pass before anything is sent. -/
namespace SignedUpload

inductive ConfigError where
  | missing (option : String)
  | invalid (option value : String)
  | duplicateField (name : String)
  | reservedField (name : String)
  deriving DecidableEq, Repr

def ConfigError.message : ConfigError → String
  | .missing option => "Missing required option: " ++ option
  | .invalid option value => "Invalid value for " ++ option ++ ": " ++ value
  | .duplicateField name => "Response field names must be distinct, '" ++ name ++ "' is used twice"
  | .reservedField name => "Extra form field '" ++ name ++ "' is reserved for the upload policy"

/-- Where a policy response keeps its parts. An empty `data` means the response itself, and an empty
`expire` means that expiry is not looked at. -/
structure ResponseFields where
  data : String
  policy : String
  accessId : String
  signature : String
  expire : String
  deriving DecidableEq, Repr

namespace ResponseFields

def standard : ResponseFields := ⟨"data","policy","accessid","signature","expire"⟩

def required (fields : ResponseFields) : List (String × String) := [
  ("policy field",fields.policy),
  ("access id field",fields.accessId),
  ("signature field",fields.signature)]

def checkNames : List String → List (String × String) → Except ConfigError Unit
  | _,[] => .ok ()
  | seen,(option,name) :: rest =>
    if Text.blank name then .error (.missing option)
    else if name ∈ seen then .error (.duplicateField name)
    else checkNames (name :: seen) rest

def validate (fields : ResponseFields) : Except ConfigError Unit := do
  checkNames [] fields.required
  if fields.expire ≠ "" ∧ fields.expire ∈ fields.required.map (·.2) then
    .error (.duplicateField fields.expire)

end ResponseFields

structure Config where
  scheme : String
  bucket : String
  region : String
  providerHost : String
  endpoint : Option String
  fileType : String
  fileExts : Option String
  policyUrl : String
  policyMethod : String
  policyData : TextMap
  policyHeaders : TextMap
  responseFields : ResponseFields
  codeField : String
  codeStatus : String
  prefixPath : String
  dialogTitle : String
  multiple : Bool
  extraFields : TextMap
  /-- The number of uploads at a time; zero sets no bound. -/
  maxConcurrency : Nat
  timeoutSecs : Nat
  deriving DecidableEq, Repr

namespace Config

def standard : Config where
  scheme := "https"
  bucket := ""
  region := ""
  providerHost := "aliyuncs.com"
  endpoint := none
  fileType := "file"
  fileExts := none
  policyUrl := ""
  policyMethod := "GET"
  policyData := ∅
  policyHeaders := ∅
  responseFields := .standard
  codeField := ""
  codeStatus := "0"
  prefixPath := ""
  dialogTitle := "Upload files to Aliyun OSS"
  multiple := false
  extraFields := ∅
  maxConcurrency := 0
  timeoutSecs := 60

instance : Inhabited Config := ⟨standard⟩

def reservedFields : List String :=
  ["key","policy","OSSAccessKeyId","signature","success_action_status","file"]

def isReserved (name : String) : Bool := reservedFields.any (Text.sameAsciiFold · name)

def fileKind (config : Config) : Except ConfigError FileKind :=
  match FileKind.read config.fileType with
  | .ok kind => .ok kind
  | .error _ => .error (.invalid "file type" config.fileType)

def checkHost (config : Config) : Except ConfigError Unit :=
  if config.endpoint.isSome then .ok ()
  else if Text.blank config.bucket then .error (.missing "bucket")
  else if Text.blank config.region then .error (.missing "region")
  else .ok ()

def checkExtraFields (config : Config) : Except ConfigError Unit :=
  match config.extraFields.keys.find? isReserved with
  | some name => .error (.reservedField name)
  | none => .ok ()

def validate (config : Config) : Except ConfigError Unit := do
  if config.scheme ≠ "http" ∧ config.scheme ≠ "https" then
    throw (.invalid "scheme" config.scheme)
  config.checkHost
  if Text.blank config.policyUrl then throw (.missing "policy url")
  if (Http.Method.read? config.policyMethod).isNone then
    throw (.invalid "policy method" config.policyMethod)
  config.checkExtraFields
  let _ ← config.fileKind
  config.responseFields.validate

def storageEndpoint (config : Config) : String :=
  match config.endpoint with
  | some endpoint => String.ofList (endpoint.toList.reverse.dropWhile (· == '/')).reverse
  | none =>
    config.scheme ++ "://" ++ config.bucket ++ "." ++ config.region ++ "." ++ config.providerHost

def objectUrl (config : Config) (key : String) : String := config.storageEndpoint ++ "/" ++ key

/-- Only the ASCII word asks for a form in the body; every other word is sent as a query. -/
def requestMethod (config : Config) : Http.Method :=
  if Text.sameAsciiFold config.policyMethod "POST" then .post else .get

end Config
end SignedUpload

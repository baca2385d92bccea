import SignedUpload.Config
import SignedUpload.Json.Record

/-! Options from environment variables. A variable that is blank, or is no text, counts as unset; but
the names of the data field and of the expiry field may be blank, which switches them off. -/
namespace SignedUpload

abbrev Environment := String → Option Bytes

namespace Environment

def text? (env : Environment) (name : String) : Option String :=
  (env name).bind Utf8.decode?

def option? (env : Environment) (name : String) : Option String :=
  (env.text? name).filter fun v => !Text.blank v

def option (env : Environment) (name fallback : String) : String :=
  (env.option? name).getD fallback

def map (env : Environment) (name : String) : TextMap :=
  match env.option? name with
  | none => ∅
  | some text => match Json.whole Json.textMap text with
    | .ok m => m
    | .error _ => ∅

def number (env : Environment) (name : String) (fallback : Nat) : Nat :=
  ((env.option? name).bind fun v => Decimal.unsigned? Decimal.unsignedBound v.toList).getD fallback

def flag (env : Environment) (name : String) (fallback : Bool) : Bool :=
  match env.text? name with
  | some v => Text.lower v == "true" || v == "1"
  | none => fallback

end Environment

namespace Config

def ofEnvironment (env : Environment) : Config where
  scheme := env.option "OSS_SCHEME" standard.scheme
  bucket := env.option "OSS_BUCKET" ""
  region := env.option "OSS_REGION" ""
  providerHost := env.option "OSS_PROVIDER_HOST" standard.providerHost
  endpoint := env.option? "OSS_ENDPOINT"
  fileType := env.option "OSS_FILE_TYPE" standard.fileType
  fileExts := env.option? "OSS_FILE_EXTS"
  policyUrl := env.option "OSS_POLICY_URL" ""
  policyMethod := env.option "OSS_POLICY_METHOD" standard.policyMethod
  policyData := env.map "OSS_POLICY_DATA"
  policyHeaders := env.map "OSS_POLICY_HEADERS"
  responseFields := {
    data := (env.text? "OSS_DATA_FIELD").getD ResponseFields.standard.data
    policy := env.option "OSS_POLICY_FIELD" ResponseFields.standard.policy
    accessId := env.option "OSS_ACCESSID_FIELD" ResponseFields.standard.accessId
    signature := env.option "OSS_SIGNATURE_FIELD" ResponseFields.standard.signature
    expire := (env.text? "OSS_EXPIRE_FIELD").getD ResponseFields.standard.expire }
  codeField := env.option "OSS_CODE_FIELD" ""
  codeStatus := env.option "OSS_CODE_STATUS" standard.codeStatus
  prefixPath := env.option "OSS_PREFIX_PATH" ""
  dialogTitle := env.option "OSS_DIALOG_TITLE" standard.dialogTitle
  multiple := env.flag "OSS_MULTIPLE" standard.multiple
  extraFields := env.map "OSS_EXTRA_FIELDS"
  maxConcurrency := env.number "OSS_MAX_CONCURRENCY" standard.maxConcurrency
  timeoutSecs := env.number "OSS_TIMEOUT_SECS" standard.timeoutSecs

end Config
end SignedUpload

import SignedUpload.Config
import SignedUpload.Json.Record

/-! Options from a JSON file. Keys that are missing keep their standard values. -/
namespace SignedUpload

open Json

inductive ConfigFileError where
  | unreadable (reason : String)
  | json (fault : Fault)
  deriving DecidableEq, Repr

namespace ResponseFields

def jsonFields : List (RecordField ResponseFields) := [
  .of "data" text fun r v => { r with data := v },
  .of "policy" text fun r v => { r with policy := v },
  .of "access_id" text fun r v => { r with accessId := v },
  .of "signature" text fun r v => { r with signature := v },
  .of "expire" text fun r v => { r with expire := v }]

def json : Read ResponseFields := record jsonFields [] standard

end ResponseFields

namespace Config

def jsonFields : List (RecordField Config) := [
  .of "scheme" text fun c v => { c with scheme := v },
  .of "bucket" text fun c v => { c with bucket := v },
  .of "region" text fun c v => { c with region := v },
  .of "provider_host" text fun c v => { c with providerHost := v },
  .of "endpoint" (optional text) fun c v => { c with endpoint := v },
  .of "file_type" text fun c v => { c with fileType := v },
  .of "file_exts" (optional text) fun c v => { c with fileExts := v },
  .of "policy_url" text fun c v => { c with policyUrl := v },
  .of "policy_method" text fun c v => { c with policyMethod := v },
  .of "policy_data" textMap fun c v => { c with policyData := v },
  .of "policy_headers" textMap fun c v => { c with policyHeaders := v },
  .of "response_fields" ResponseFields.json fun c v => { c with responseFields := v },
  .of "code_field" text fun c v => { c with codeField := v },
  .of "code_status" text fun c v => { c with codeStatus := v },
  .of "prefix_path" text fun c v => { c with prefixPath := v },
  .of "dialog_title" text fun c v => { c with dialogTitle := v },
  .of "multiple" flag fun c v => { c with multiple := v },
  .of "extra_fields" textMap fun c v => { c with extraFields := v },
  .of "max_concurrency" (natural Decimal.unsignedBound) fun c v => { c with maxConcurrency := v },
  .of "timeout_secs" (natural Decimal.unsignedBound) fun c v => { c with timeoutSecs := v }]

def json : Read Config := record jsonFields [] standard

def ofJson (text : String) : Except Fault Config := whole json text

def ofFile (bytes : Bytes) : Except ConfigFileError Config :=
  match Utf8.decode? bytes with
  | none => .error (.unreadable "stream did not contain valid UTF-8")
  | some text => match ofJson text with
    | .ok config => .ok config
    | .error fault => .error (.json fault)

end Config
end SignedUpload

import SignedUpload.Json.Record
import SignedUpload.Json.Printer

/-! What is reported of a stored file. -/
namespace SignedUpload

structure UploadedObject where
  name : String
  contentType : String
  url : String
  deriving DecidableEq, Repr

namespace UploadedObject

open Json

def jsonFields : List (RecordField UploadedObject) := [
  .of "name" text fun o v => { o with name := v },
  .of "type" text fun o v => { o with contentType := v },
  .of "ossUrl" text fun o v => { o with url := v }]

def json : Read UploadedObject := record jsonFields (jsonFields.map (·.key)) ⟨"","",""⟩

def members (o : UploadedObject) : List (String × Value) :=
  [("name",.string o.name),("type",.string o.contentType),("ossUrl",.string o.url)]

def text (o : UploadedObject) : String := (Value.object o.members).text

end UploadedObject
end SignedUpload

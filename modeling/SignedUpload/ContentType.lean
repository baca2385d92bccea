import SignedUpload.ContentType.Signature
import SignedUpload.FileName

/-! The content type of a file: by its first bytes, then by the extension of its name. -/
namespace SignedUpload.ContentType

def byExtension : List (String × String) := [
  ("txt","text/plain"),
  ("csv","text/csv"),
  ("md","text/markdown"),
  ("json","application/json"),
  ("xml","application/xml"),
  ("html","text/html"),
  ("htm","text/html"),
  ("css","text/css"),
  ("js","text/javascript"),
  ("svg","image/svg+xml")]

def unknown : String := "application/octet-stream"

def ofBytes? (bytes : Bytes) : Option String :=
  (signatures.find? (·.holds bytes)).map (·.mediaType)

def detect (name : String) (bytes : Bytes) : String :=
  match ofBytes? bytes with
  | some t => t
  | none => ((extensionOf name).bind fun e => byExtension.lookup e).getD unknown

end SignedUpload.ContentType

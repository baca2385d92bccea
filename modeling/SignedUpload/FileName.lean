import SignedUpload.Path
import SignedUpload.Text.Case

/-! Names of local files: the name shown for a path, and the extension a name is judged by. -/
namespace SignedUpload

inductive Rejection where
  | unknownKind (spelling : String)
  | unacceptedType (name : String)
  | unusableName (path : String)
  deriving DecidableEq, Repr

namespace Rejection

def code : Rejection → String
  | .unknownKind _ => "UNKNOWN_FILE_KIND"
  | .unacceptedType _ => "REJECTED_FILE_TYPE"
  | .unusableName _ => "INVALID_FILENAME"

def message : Rejection → String
  | .unknownKind spelling => "'" ++ spelling ++ "' is not one of file, images, video, audio"
  | .unacceptedType name => "'" ++ name ++ "' is not an accepted file type"
  | .unusableName path => "'" ++ path ++ "' has no usable file name"

def shown (r : Rejection) : String := r.code ++ ": " ++ r.message

end Rejection

def displayName (path : Path) : Except Rejection String :=
  match (Path.fileName? Path.byteMarks path).bind Utf8.decode? with
  | some name => .ok name
  | none => .error (.unusableName path.shown)

def extensionOf (name : String) : Option String :=
  (Path.extension? Path.charMarks name.toList).map fun e => String.ofList (Text.lowerChars e)

end SignedUpload

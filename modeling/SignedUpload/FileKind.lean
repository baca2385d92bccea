import SignedUpload.FileName
import SignedUpload.Text.Blank

/-! Kinds of files that a picker takes. A list of extensions, when one is given, replaces the
extensions of the kind. -/
namespace SignedUpload

inductive FileKind where
  | file
  | images
  | video
  | audio
  deriving DecidableEq, Repr

namespace FileKind

def read (spelling : String) : Except Rejection FileKind :=
  let word := Text.lower (Text.trim spelling)
  if word = "file" ∨ word = "" then .ok .file
  else if word = "images" then .ok .images
  else if word = "video" then .ok .video
  else if word = "audio" then .ok .audio
  else .error (.unknownKind word)

def extensions? : FileKind → Option (List String)
  | .file => none
  | .images => some ["jpg","jpeg","png","gif","bmp","webp","svg"]
  | .video => some ["avi","mp4","wmv","mpg","mpeg","mov","mkv","flv","webm"]
  | .audio => some ["mp3","wav","mid","ogg","flac","aac","m4a"]

def listed (list : String) : List String :=
  let entries := (pieces '|' list.toList).map fun e =>
    Text.lowerChars ((Text.trimChars e).dropWhile (· == '.'))
  (entries.filter (· ≠ [])).map String.ofList

def allowed (kind : FileKind) (list : Option String) : Option (List String) :=
  match list with
  | some l => if Text.blank l then kind.extensions? else some (listed l)
  | none => kind.extensions?

def accepts (kind : FileKind) (name : String) (list : Option String) : Except Rejection Unit :=
  match kind.allowed list with
  | none => .ok ()
  | some extensions => match extensionOf name with
    | some e => if e ∈ extensions then .ok () else .error (.unacceptedType name)
    | none => .error (.unacceptedType name)

end FileKind
end SignedUpload

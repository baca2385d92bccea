import SignedUpload.UploadError
import SignedUpload.Decimal.Fixed

/-! Files that were chosen for upload, and the rows that show them. -/
namespace SignedUpload

structure PendingFile where
  id : FileId
  path : Path
  name : String
  size : Nat
  contentType : String
  status : FileStatus
  key : Option String
  deriving DecidableEq, Repr

structure FileRow where
  id : FileId
  name : String
  size : String
  status : String
  deletable : Bool
  deriving DecidableEq, Repr

namespace PendingFile

def staged (id : FileId) (path : Path) (name : String) (size : Nat) (contentType : String) :
    PendingFile :=
  ⟨id,path,name,size,contentType,.waiting,none⟩

def moveTo (file : PendingFile) (next : FileStatus) : Except UploadError PendingFile :=
  if file.status.canMoveTo next then .ok { file with status := next }
  else .error (.invalidTransition file.status next)

def restaged (file : PendingFile) (id : FileId) : PendingFile :=
  staged id file.path file.name file.size file.contentType

def sizeText (size : Nat) : String :=
  -- the count is rounded to a binary number before it is divided
  match Decimal.Binary64.ofNat size with
  | .finite _ m e =>
    let (num,den) := Decimal.Binary64.ratio m e
    Decimal.onePlace num (den * 1024) ++ "kb"
  | _ => "infkb"

def row (file : PendingFile) : FileRow :=
  ⟨file.id,file.name,sizeText file.size,file.status.label,file.status.deletable⟩

end PendingFile
end SignedUpload

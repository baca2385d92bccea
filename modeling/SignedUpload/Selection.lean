import SignedUpload.Disk
import SignedUpload.FileKind
import SignedUpload.ContentType

/-! What a picked path comes to: a candidate for upload, or a notice why it is left out. -/
namespace SignedUpload

structure Candidate where
  path : Path
  name : String
  size : Nat
  contentType : String
  deriving DecidableEq, Repr

structure Filter where
  kind : FileKind
  extensions : Option String
  deriving DecidableEq, Repr

namespace Filter

def inspect (filter : Filter) (disk : Disk) (path : Path) : Except String Candidate :=
  match displayName path with
  | .error r => .error r.message
  | .ok name => match filter.kind.accepts name filter.extensions with
    | .error r => .error r.message
    | .ok _ => match disk path with
      | .unreachable fault => .error ("cannot read '" ++ name ++ "': " ++ fault.message)
      | .notRegular => .error ("'" ++ name ++ "' is not a file")
      | .unopenable fault => .error ("cannot open '" ++ name ++ "': " ++ fault.message)
      | .unreadable fault => .error ("cannot read '" ++ name ++ "': " ++ fault.message)
      | .regular file => .ok ⟨file.canonical,name,file.size,ContentType.detect name file.head⟩

end Filter

structure Selection where
  candidates : List Candidate
  notices : List String
  deriving DecidableEq, Repr

def Selection.pick (filter : Filter) (disk : Disk) (sofar : Selection) : List Path → Selection
  | [] => sofar
  | path :: rest => match filter.inspect disk path with
    | .error notice =>
      pick filter disk { sofar with notices := sofar.notices ++ [notice] } rest
    | .ok c =>
      if sofar.candidates.any (·.path == c.path) then pick filter disk sofar rest
      else pick filter disk { sofar with candidates := sofar.candidates ++ [c] } rest

def Selection.of (filter : Filter) (disk : Disk) (paths : List Path) : Selection :=
  pick filter disk ⟨[],[]⟩ paths

end SignedUpload

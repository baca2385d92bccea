import SignedUpload.Disk

/-! A tree of files, folders and symbolic links, and how a path is followed through it. A name that is
followed by a slash must be a folder, and at most forty links are followed. -/
namespace SignedUpload

inductive Node where
  | file (data : Bytes)
  | folder
  | link (target : Path)
  deriving DecidableEq, Repr

abbrev Place := List Bytes

structure FileTree where
  nodes : List (Place × Node)
  deriving DecidableEq, Repr

namespace FileTree

def empty : FileTree := ⟨[]⟩

def node? (tree : FileTree) (place : Place) : Option Node :=
  if place = [] then some .folder else tree.nodes.lookup place

def put (tree : FileTree) (place : Place) (node : Node) : FileTree :=
  ⟨(place,node) :: tree.nodes.filter (·.1 ≠ place)⟩

def remove (tree : FileTree) (place : Place) : FileTree :=
  ⟨tree.nodes.filter fun n => !place.isPrefixOf n.1⟩

def components (path : Path) : List Bytes := pieces Path.byteMarks.slash path

def isAbsolute (path : Path) : Bool := path.head? == some Path.byteMarks.slash

def parent (place : Place) : Place := place.dropLast

def dot : Bytes := [Path.byteMarks.dot]

def dots : Bytes := [Path.byteMarks.dot,Path.byteMarks.dot]

def greatestName : Nat := 255

def greatestPath : Nat := 4095

def walk (tree : FileTree) (jump : Place → List Bytes → Except DiskFault (Place × Node)) (here : Place) :
    List Bytes → Except DiskFault (Place × Node)
  | [] => .ok (here,.folder)
  | c :: rest =>
    if c = [] ∨ c = dot then walk tree jump here rest
    else if c = dots then walk tree jump (parent here) rest
    else if greatestName < c.length then .error .nameTooLong
    else match tree.node? (here ++ [c]) with
      | none => .error .notFound
      | some .folder => walk tree jump (here ++ [c]) rest
      | some (.file data) =>
        if rest = [] then .ok (here ++ [c],.file data) else .error .notDirectory
      | some (.link target) =>
        jump (if isAbsolute target then [] else here) (components target ++ rest)

def follow (tree : FileTree) : Nat → Place → List Bytes → Except DiskFault (Place × Node)
  | 0 => walk tree fun _ _ => .error .tooManyLinks
  | links + 1 => walk tree (follow tree links)

def greatestLinks : Nat := 40

def resolve (tree : FileTree) (path : Path) : Except DiskFault (Place × Node) :=
  if path.contains 0 then .error .nulInPath
  else if path = [] then .error .notFound
  else if greatestPath < path.length then .error .nameTooLong
  else follow tree greatestLinks [] (components path)

def pathOf (place : Place) : Path := place.flatMap (Path.byteMarks.slash :: ·)

def headSize : Nat := 64

def disk (tree : FileTree) : Disk := fun path =>
  match tree.resolve path with
  | .error fault => .unreachable fault
  | .ok (place,.file data) => .regular ⟨pathOf place,data.length,data.take headSize⟩
  | .ok _ => .notRegular

def read (tree : FileTree) (path : Path) : Except DiskFault Bytes :=
  match tree.resolve path with
  | .error fault => .error fault
  | .ok (_,.file data) => .ok data
  | .ok _ => .error .isDirectory

end FileTree
end SignedUpload

import SignedUpload.Text.Pieces
import SignedUpload.Text.Utf8

/-! Paths with slashes between their components. The file name is the last component that is neither
empty nor a single dot; two dots name no file. The same rules read paths of bytes and of characters,
so the separators are parameters. -/
namespace SignedUpload

abbrev Path := Bytes

namespace Path

structure Marks (α : Type) where
  slash : α
  dot : α

def byteMarks : Marks UInt8 := ⟨47,46⟩

def charMarks : Marks Char := ⟨'/','.'⟩

variable {α : Type} [DecidableEq α]

def stays (marks : Marks α) (component : List α) : Bool :=
  component == [] || component == [marks.dot]

def fileName? (marks : Marks α) (path : List α) : Option (List α) :=
  match (pieces marks.slash path).reverse.dropWhile (stays marks) with
  | [] => none
  | name :: _ => if name = [marks.dot,marks.dot] then none else some name

def extension? (marks : Marks α) (path : List α) : Option (List α) :=
  match fileName? marks path with
  | none => none
  | some name => match (pieces marks.dot name).reverse with
    | [] => none
    | [_] => none
    | [_,[]] => none
    | after :: _ => some after

def shown (path : Path) : String := Utf8.decodeLossy path

end Path
end SignedUpload

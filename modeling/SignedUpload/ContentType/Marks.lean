import SignedUpload.Text.Utf8

/-! What is looked for at the start of a file: given bytes at given places. A place past the end
never fits. -/
namespace SignedUpload.ContentType

def ascii (s : String) : Bytes := Utf8.encode s

def fits (offset : Nat) (mark : Bytes) (file : Bytes) : Bool := mark.isPrefixOf (file.drop offset)

def opens (mark : Bytes) (file : Bytes) : Bool := fits 0 mark file

def spells (offset : Nat) (mark : String) (file : Bytes) : Bool := fits offset (ascii mark) file

def longer (n : Nat) (file : Bytes) : Bool := n < file.length

def byteAt (offset : Nat) (file : Bytes) : Nat := ((file[offset]?).map UInt8.toNat).getD 0

def wordAt (offset : Nat) (file : Bytes) : Nat :=
  ((byteAt offset file * 256 + byteAt (offset + 1) file) * 256 + byteAt (offset + 2) file) * 256 +
    byteAt (offset + 3) file

def reversedWordAt (offset : Nat) (file : Bytes) : Nat :=
  ((byteAt (offset + 3) file * 256 + byteAt (offset + 2) file) * 256 + byteAt (offset + 1) file) *
    256 + byteAt offset file

def lowerByte (b : UInt8) : UInt8 := if 65 ≤ b ∧ b ≤ 90 then b + 32 else b

def opensAnyCase (mark : String) (file : Bytes) : Bool :=
  ((ascii mark).map lowerByte).isPrefixOf ((file.take mark.toList.length).map lowerByte)

def isLayout (b : UInt8) : Bool := b == 9 || b == 10 || b == 12 || b == 13 || b == 32

def skipLayout (file : Bytes) : Bytes := file.dropWhile isLayout

end SignedUpload.ContentType

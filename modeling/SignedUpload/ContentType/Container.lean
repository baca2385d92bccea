import SignedUpload.ContentType.Marks

/-! Formats that are told from others by what their containers hold. -/
namespace SignedUpload.ContentType

def brandsFrom : Nat → Bytes → List Bytes
  | 0,_ => []
  | n + 1,a :: b :: c :: d :: rest => [a,b,c,d] :: brandsFrom n rest
  | _ + 1,_ => []

def brands? (file : Bytes) : Option (Bytes × List Bytes) :=
  let size := wordAt 0 file
  if longer 15 file && spells 4 "ftyp" file && size ≤ file.length then
    some ((file.drop 8).take 4,brandsFrom (size / 4 - 4) (file.drop 16))
  else none

def isHeif (file : Bytes) : Bool :=
  match brands? file with
  | some (major,others) =>
    major == ascii "heic" ||
      ((major == ascii "mif1" || major == ascii "msf1") && others.contains (ascii "heic"))
  | none => false

def isAvif (file : Bytes) : Bool :=
  let avif := fun (b : Bytes) => b == ascii "avif" || b == ascii "avis"
  match brands? file with
  | some (major,others) => avif major || others.any avif
  | none => false

inductive OfficeDocument where
  | text
  | slides
  | sheet
  deriving DecidableEq, Repr

def localHeader : Bytes := [0x50,0x4B,3,4]

def officeAt (offset : Nat) (file : Bytes) : Option OfficeDocument :=
  if spells offset "word/" file then some .text
  else if spells offset "ppt/" file then some .slides
  else if spells offset "xl/" file then some .sheet
  else none

def distance? (mark : Bytes) : Bytes → Option Nat
  | [] => none
  | b :: rest =>
    if mark.isPrefixOf (b :: rest) then some 0 else (distance? mark rest).map (· + 1)

def nextName? (place : Nat) (file : Bytes) : Option Nat :=
  (distance? localHeader ((file.drop place).take 6000)).map fun i => place + i + 30

def office? (file : Bytes) : Option OfficeDocument := do
  if !opens localHeader file then none
  else match officeAt 30 file with
    | some d => some d
    | none =>
      if spells 30 "[Content_Types].xml" file || spells 30 "_rels/.rels" file ||
          spells 30 "docProps" file then
        let second ← nextName? (reversedWordAt 18 file + 49) file
        let third ← nextName? second file
        let _ ← officeAt third file
        let fourth ← nextName? (third + 26) file
        officeAt fourth file
      else none

def isZstandard : Nat → Bytes → Bool
  | 0,_ => false
  | fuel + 1,file =>
    opens [0x28,0xB5,0x2F,0xFD] file ||
      (longer 7 file && reversedWordAt 0 file / 16 == 0x184D2A5 &&
        8 + reversedWordAt 4 file ≤ file.length &&
        isZstandard fuel (file.drop (8 + reversedWordAt 4 file)))

def tags : List String :=
  ["<!DOCTYPE HTML","<HTML","<HEAD","<SCRIPT","<IFRAME","<H1","<DIV","<FONT","<TABLE","<A",
    "<STYLE","<TITLE","<B","<BODY","<BR","<P","<!--"]

def isHtml (file : Bytes) : Bool :=
  let start := skipLayout file
  tags.any fun tag => opensAnyCase tag start &&
    match start[tag.toList.length]? with
    | some b => b == 0x20 || b == 0x3E
    | none => false

def skipOrderMarks : Bytes → Bytes
  | 0xEF :: 0xBB :: 0xBF :: rest => skipOrderMarks rest
  | 0xFE :: 0xFF :: b :: rest => skipOrderMarks (b :: rest)
  | 0xFF :: 0xFE :: b :: rest => skipOrderMarks (b :: rest)
  | rest => rest

def isXml (file : Bytes) : Bool := opensAnyCase "<?xml" (skipOrderMarks (skipLayout file))

end SignedUpload.ContentType

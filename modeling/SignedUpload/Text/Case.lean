import SignedUpload.Text.Case.Context
import SignedUpload.Text.Case.Lower
import SignedUpload.Text.Case.Upper

/-! Lower and upper case of whole texts. A character may become several, and a capital sigma at the
end of a word becomes the final small sigma. -/
namespace SignedUpload.Text

def asciiLower (c : Char) : Char :=
  if 'A' ≤ c ∧ c ≤ 'Z' then Char.ofNat (c.toNat + 32) else c

def asciiUpper (c : Char) : Char :=
  if 'a' ≤ c ∧ c ≤ 'z' then Char.ofNat (c.toNat - 32) else c

def sameAsciiFold (a b : String) : Bool :=
  a.toList.map asciiLower == b.toList.map asciiLower

def lowerChar (c : Char) : List Char :=
  if c.toNat < 0x80 then [asciiLower c]
  else if c.toNat = 0x130 then ['i','\u0307']
  else [Char.ofNat (Case.shift Case.lowerRuns c.toNat)]

def upperChar (c : Char) : List Char :=
  if c.toNat < 0x80 then [asciiUpper c]
  else match Case.upperLong.lookup c.toNat with
    | some codes => codes.map Char.ofNat
    | none => [Char.ofNat (Case.shift Case.upperRuns c.toNat)]

def metCased (s : List Char) : Bool :=
  match s.dropWhile (fun c => Case.within Case.ignorableRanges c.toNat) with
  | c :: _ => Case.within Case.casedRanges c.toNat
  | [] => false

def lowerFrom (seen : List Char) : List Char → List Char
  | [] => []
  | c :: rest =>
    let here :=
      if c = 'Σ' then [if metCased seen && !metCased rest then 'ς' else 'σ'] else lowerChar c
    here ++ lowerFrom (c :: seen) rest

def lowerChars (s : List Char) : List Char := lowerFrom [] s

def lower (s : String) : String := String.ofList (lowerChars s.toList)

def upper (s : String) : String := String.ofList (s.toList.flatMap upperChar)

end SignedUpload.Text

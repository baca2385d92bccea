import SignedUpload.Text.Hexadecimal
import SignedUpload.Text.Pieces
import SignedUpload.Text.Utf8

/-! Pairs of texts as a form: `name=value` joined by `&`, with every byte escaped that is not a letter,
a digit or one of `*-._`, and a plus for a space. -/
namespace SignedUpload.Http.Form

def isPlain (b : UInt8) : Bool :=
  (48 ≤ b && b ≤ 57) || (65 ≤ b && b ≤ 90) || (97 ≤ b && b ≤ 122) ||
    b == 42 || b == 45 || b == 46 || b == 95

def hexDigit (n : Nat) : Char :=
  if n < 10 then Char.ofNat (48 + n) else Char.ofNat (55 + n)

def percent (b : UInt8) : List Char := ['%',hexDigit (b.toNat / 16),hexDigit (b.toNat % 16)]

def encodeByte (b : UInt8) : List Char :=
  if isPlain b then [Char.ofNat b.toNat]
  else if b = 32 then ['+']
  else percent b

def encodeText (s : String) : List Char := (Utf8.encode s).flatMap encodeByte

def encodePair (e : String × String) : List Char := encodeText e.1 ++ '=' :: encodeText e.2

def encodeChars : List (String × String) → List Char
  | [] => []
  | [e] => encodePair e
  | e :: f :: rest => encodePair e ++ '&' :: encodeChars (f :: rest)

def encode (entries : List (String × String)) : String := String.ofList (encodeChars entries)

def decodeBytes : List Char → Bytes
  | [] => []
  | '+' :: rest => 32 :: decodeBytes rest
  | '%' :: a :: b :: rest => match Text.hexValue? a,Text.hexValue? b with
    | some x,some y => UInt8.ofNat (x * 16 + y) :: decodeBytes rest
    | _,_ => 37 :: decodeBytes (a :: b :: rest)
  | c :: rest => Utf8.encodeChar c ++ decodeBytes rest

def decodeText (s : List Char) : String := Utf8.decodeLossy (decodeBytes s)

def decodePair (s : List Char) : String × String :=
  let (name,value) := cut '=' s
  (decodeText name,decodeText value)

def decode (s : String) : List (String × String) :=
  ((pieces '&' s.toList).filter (· ≠ [])).map decodePair

end SignedUpload.Http.Form

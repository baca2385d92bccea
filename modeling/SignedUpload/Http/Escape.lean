import SignedUpload.Http.Form

/-! Percent escapes in addresses. Each part of an address has characters that it may not hold; they are
written as the escapes of their bytes. -/
namespace SignedUpload.Http.Escape

def isControl (c : Char) : Bool := c.toNat < 0x20 || 0x7E < c.toNat

def inFragment (c : Char) : Bool :=
  isControl c || c == ' ' || c == '"' || c == '<' || c == '>' || c == Char.ofNat 96

def inQuery (c : Char) : Bool :=
  isControl c || c == ' ' || c == '"' || c == '#' || c == '<' || c == '>'

def inPath (c : Char) : Bool :=
  inFragment c || c == '#' || c == '?' || c == '\x7b' || c == '\x7d'

def inUser (c : Char) : Bool :=
  inPath c || ['/',':',';','=','@','[','\\',']','^','|'].contains c

def encode (bad : Char → Bool) (s : List Char) : String :=
  String.ofList (s.flatMap fun c =>
    if bad c then (Utf8.encodeChar c).flatMap Form.percent else [c])

def decode : List Char → Bytes
  | [] => []
  | '%' :: a :: b :: rest => match Text.hexValue? a,Text.hexValue? b with
    | some x,some y => UInt8.ofNat (x * 16 + y) :: decode rest
    | _,_ => 37 :: decode (a :: b :: rest)
  | c :: rest => Utf8.encodeChar c ++ decode rest

end SignedUpload.Http.Escape

import SignedUpload.Json.Value
import SignedUpload.Decimal.Shortest

/-! JSON text. Strings escape the quote, the backslash and control characters, and nothing else.
Floating point shows the fewest digits that read back. -/
namespace SignedUpload.Json

open Decimal

def realLayout : Layout := ⟨-5,16⟩

def Number.text : Number → String
  | .integer n => intText n
  | .real .nan => "null"
  | .real (.infinite _) => "null"
  | .real (.finite negative m e) =>
    (if negative then "-" else "") ++
      if m = 0 then "0.0" else realLayout.write (shortest m e)

def hexDigit (n : Nat) : Char := Nat.digitChar n

def escaped (c : Char) : List Char :=
  match c with
  | '"' => ['\\','"']
  | '\\' => ['\\','\\']
  | '\x08' => ['\\','b']
  | '\x0c' => ['\\','f']
  | '\n' => ['\\','n']
  | '\r' => ['\\','r']
  | '\t' => ['\\','t']
  | c =>
    if c.toNat < 0x20 then
      ['\\','u','0','0',hexDigit (c.toNat / 16),hexDigit (c.toNat % 16)]
    else [c]

def quoted (s : String) : String := "\"" ++ String.ofList (s.toList.flatMap escaped) ++ "\""

mutual

def Value.text : Value → String
  | .null => "null"
  | .bool b => if b then "true" else "false"
  | .number n => n.text
  | .string s => quoted s
  | .array items => "[" ++ itemsText items ++ "]"
  | .object found => "\x7b" ++ membersText found ++ "\x7d"

def itemsText : List Value → String
  | [] => ""
  | [v] => v.text
  | v :: w :: rest => v.text ++ "," ++ itemsText (w :: rest)

def membersText : List (String × Value) → String
  | [] => ""
  | [(key,v)] => quoted key ++ ":" ++ v.text
  | (key,v) :: m :: rest => quoted key ++ ":" ++ v.text ++ "," ++ membersText (m :: rest)

end

end SignedUpload.Json

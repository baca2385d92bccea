import SignedUpload.Json.Value
import SignedUpload.Decimal.Integer
import SignedUpload.Text.Hexadecimal
import SignedUpload.Text.Utf8

/-! Tokens of JSON: blanks, words, strings and numbers. The first problem from the left decides how a
text is refused. -/
namespace SignedUpload.Json

open Decimal (Binary64 isDigit digitValue)
open Text (hexValue?)

def isBlank (c : Char) : Bool := c == ' ' || c == '\t' || c == '\n' || c == '\r'

def skipBlanks (s : List Char) : List Char := s.dropWhile isBlank

def word : List Char → List Char → Except Fault (List Char)
  | [],s => .ok s
  | _ :: _,[] => .error .unfinished
  | w :: ws,c :: s => if w = c then word ws s else .error .malformed

def hexFour : Read Nat
  | a :: b :: c :: d :: rest =>
    match hexValue? a,hexValue? b,hexValue? c,hexValue? d with
    | some w,some x,some y,some z => .ok (((w * 16 + x) * 16 + y) * 16 + z,rest)
    | _,_,_,_ => .error .malformed
  | s => .error (if Utf8.size s < 4 then .unfinished else .malformed)

def expect (c : Char) : List Char → Except Fault (List Char)
  | [] => .error .unfinished
  | d :: rest => if d = c then .ok rest else .error .malformed

def unicodeEscape : Read Char := fun s => do
  let (n,rest) ← hexFour s
  if 0xDC00 ≤ n ∧ n ≤ 0xDFFF then .error .malformed
  else if n < 0xD800 ∨ 0xDBFF < n then .ok (Char.ofNat n,rest)
  else
    let rest ← expect '\\' rest
    let rest ← expect 'u' rest
    let (low,rest) ← hexFour rest
    if low < 0xDC00 ∨ 0xDFFF < low then .error .malformed
    else .ok (Char.ofNat ((n - 0xD800) * 0x400 + (low - 0xDC00) + 0x10000),rest)

def shortEscape? : Char → Option Char
  | '"' => some '"'
  | '\\' => some '\\'
  | '/' => some '/'
  | 'b' => some '\x08'
  | 'f' => some '\x0c'
  | 'n' => some '\n'
  | 'r' => some '\r'
  | 't' => some '\t'
  | _ => none

def escape : Read Char
  | [] => .error .unfinished
  | 'u' :: rest => unicodeEscape rest
  | c :: rest => match shortEscape? c with
    | some d => .ok (d,rest)
    | none => .error .malformed

def stringFrom : Nat → List Char → Read String
  | 0,_,_ => .error .unfinished
  | _ + 1,_,[] => .error .unfinished
  | _ + 1,seen,'"' :: rest => .ok (String.ofList seen.reverse,rest)
  | fuel + 1,seen,'\\' :: rest => match escape rest with
    | .error f => .error f
    | .ok (c,rest) => stringFrom fuel (c :: seen) rest
  | fuel + 1,seen,c :: rest =>
    if c.toNat < 0x20 then .error .malformed else stringFrom fuel (c :: seen) rest

def stringBody : Read String := fun s => stringFrom (s.length + 1) [] s

def fitting (value count : Nat) : List Char → Nat × Nat × List Char
  | [] => (value,count,[])
  | c :: rest =>
    if isDigit c ∧ value * 10 + digitValue c < Decimal.unsignedBound then
      fitting (value * 10 + digitValue c) (count + 1) rest
    else (value,count,c :: rest)

/-- `m * 10 ^ e` in binary, with a power of ten that is rounded before it is used. Below the least
power it is divided twice. -/
def scaledMagnitude (m : Nat) (e : Int) : Except Fault Binary64 :=
  let x := Binary64.ofNat m
  if m = 0 then .ok x
  else if 308 < e then .error .malformed
  else if 0 ≤ e then
    match x.timesPower e.natAbs with
    | .finite s n f => .ok (.finite s n f)
    | _ => .error .malformed
  else if -308 ≤ e then .ok (x.overPower e.natAbs)
  else if -616 ≤ e then .ok ((x.overPower 308).overPower (e.natAbs - 308))
  else .ok (Binary64.zero false)

def scaledNumber (negative : Bool) (m : Nat) (e : Int) : Except Fault Number :=
  (scaledMagnitude m e).map fun x => .real (if negative then x.negate else x)

def afterExponentMark (negative : Bool) (m : Nat) (e : Int) (s : List Char) :
    Except Fault (Number × List Char) := do
  let (down,s) := match s with
    | '+' :: rest => (false,rest)
    | '-' :: rest => (true,rest)
    | rest => (false,rest)
  match s with
  | [] => .error .unfinished
  | c :: _ =>
    if isDigit c then
      let n := Decimal.ofDigits (s.takeWhile isDigit)
      let x ← scaledNumber negative m (if down then e - n else e + n)
      .ok (x,s.dropWhile isDigit)
    else .error .malformed

def isExponentMark (c : Char) : Bool := c == 'e' || c == 'E'

def afterPoint (negative : Bool) (m : Nat) (e : Int) (s : List Char) :
    Except Fault (Number × List Char) :=
  match s with
  | [] => .error .unfinished
  | c :: _ =>
    if isDigit c then
      let (m,count,rest) := fitting m 0 s
      let e := e - count
      match rest.dropWhile isDigit with
      | [] => (scaledNumber negative m e).map (·,[])
      | d :: rest =>
        if isExponentMark d then afterExponentMark negative m e rest
        else (scaledNumber negative m e).map (·,d :: rest)
    else .error .malformed

def wholeNumber (negative : Bool) (m : Nat) : Number :=
  if negative then
    if m = 0 ∨ Decimal.signedBound < m then .real (Binary64.ofNat m).negate else .integer (-m)
  else .integer m

def afterWhole (negative : Bool) (m extra : Nat) (s : List Char) :
    Except Fault (Number × List Char) :=
  let plain : Except Fault (Number × List Char) :=
    if extra = 0 then .ok (wholeNumber negative m,s)
    else (scaledNumber negative m extra).map (·,s)
  match s with
  | [] => plain
  | c :: rest =>
    if c = '.' then afterPoint negative m extra rest
    else if isExponentMark c then afterExponentMark negative m extra rest
    else plain

def startsWithDigit : List Char → Bool
  | c :: _ => isDigit c
  | [] => false

def numberBody (negative : Bool) (s : List Char) : Except Fault (Number × List Char) :=
  match s with
  | [] => .error .unfinished
  | c :: rest =>
    if c = '0' then
      if startsWithDigit rest then .error .malformed else afterWhole negative 0 0 rest
    else if isDigit c then
      let (m,_,rest) := fitting 0 0 s
      afterWhole negative m (rest.takeWhile isDigit).length (rest.dropWhile isDigit)
    else .error .malformed

def number : Read Number
  | '-' :: rest => numberBody true rest
  | s => numberBody false s

end SignedUpload.Json

/-! UTF-8, read one byte at a time. A machine between characters or inside one keeps what the next
byte may be, so a sequence is given up at the first byte that rules it out, and that byte is read
again as the start of the next character. -/
namespace SignedUpload

abbrev Bytes := List UInt8

namespace Utf8

structure Partial where
  owed : Nat
  bits : Nat
  low : Nat
  high : Nat
  deriving DecidableEq, Repr

inductive Opening where
  | whole (c : Char)
  | begun (p : Partial)
  | bad

def opening (byte : UInt8) : Opening :=
  let b := byte.toNat
  if b < 0x80 then .whole (Char.ofNat b)
  else if b < 0xC2 then .bad
  else if b < 0xE0 then .begun ⟨1,b - 0xC0,0x80,0xBF⟩
  else if b = 0xE0 then .begun ⟨2,0,0xA0,0xBF⟩
  else if b = 0xED then .begun ⟨2,0xD,0x80,0x9F⟩
  else if b < 0xF0 then .begun ⟨2,b - 0xE0,0x80,0xBF⟩
  else if b = 0xF0 then .begun ⟨3,0,0x90,0xBF⟩
  else if b < 0xF4 then .begun ⟨3,b - 0xF0,0x80,0xBF⟩
  else if b = 0xF4 then .begun ⟨3,4,0x80,0x8F⟩
  else .bad

def scan : Option Partial → Bytes → List (Option Char)
  | none,[] => []
  | some _,[] => [none]
  | none,byte :: rest => match opening byte with
    | .whole c => some c :: scan none rest
    | .begun p => scan (some p) rest
    | .bad => none :: scan none rest
  | some p,byte :: rest =>
    if p.low ≤ byte.toNat ∧ byte.toNat ≤ p.high then
      let bits := p.bits * 64 + (byte.toNat - 0x80)
      if p.owed = 1 then some (Char.ofNat bits) :: scan none rest
      else scan (some ⟨p.owed - 1,bits,0x80,0xBF⟩) rest
    else match opening byte with
      | .whole c => none :: some c :: scan none rest
      | .begun q => none :: scan (some q) rest
      | .bad => none :: none :: scan none rest

def allSome : List (Option Char) → Option (List Char)
  | [] => some []
  | some c :: rest => (allSome rest).map (c :: ·)
  | none :: _ => none

def decode? (bytes : Bytes) : Option String := (allSome (scan none bytes)).map String.ofList

def decodeLossy (bytes : Bytes) : String :=
  String.ofList ((scan none bytes).map (·.getD '\uFFFD'))

def encodeChar (c : Char) : Bytes :=
  let n := c.toNat
  if n < 0x80 then [UInt8.ofNat n]
  else if n < 0x800 then [UInt8.ofNat (0xC0 + n / 64),UInt8.ofNat (0x80 + n % 64)]
  else if n < 0x10000 then
    [UInt8.ofNat (0xE0 + n / 4096),UInt8.ofNat (0x80 + n / 64 % 64),UInt8.ofNat (0x80 + n % 64)]
  else
    [UInt8.ofNat (0xF0 + n / 262144),UInt8.ofNat (0x80 + n / 4096 % 64),
      UInt8.ofNat (0x80 + n / 64 % 64),UInt8.ofNat (0x80 + n % 64)]

def encode (s : String) : Bytes := s.toList.flatMap encodeChar

def size (s : List Char) : Nat := (s.flatMap encodeChar).length

end Utf8
end SignedUpload

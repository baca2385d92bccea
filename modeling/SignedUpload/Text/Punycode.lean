/-! Texts in ASCII letters, digits and hyphens. The ASCII characters come first; each other character
is a number that says how far to go on from the one before it, over all characters and all places
where they could be put. -/
namespace SignedUpload.Punycode

def isAscii (c : Char) : Bool := c.toNat < 0x80

def digit (n : Nat) : Char := Char.ofNat (if n < 26 then 97 + n else 22 + n)

def digitValue? (c : Char) : Option Nat :=
  if 'a' ≤ c ∧ c ≤ 'z' then some (c.toNat - 97)
  else if 'A' ≤ c ∧ c ≤ 'Z' then some (c.toNat - 65)
  else if '0' ≤ c ∧ c ≤ '9' then some (c.toNat - 22)
  else none

def threshold (weight bias : Nat) : Nat := min 26 (max 1 (weight - bias))

def numberFrom (bias weight n : Nat) : List Char :=
  let t := threshold weight bias
  if n < t then [digit n]
  else digit (t + (n - t) % (36 - t)) :: numberFrom bias (weight + 36) ((n - t) / (36 - t))
termination_by n
decreasing_by
  have := Nat.div_le_self (n - threshold weight bias) (36 - threshold weight bias)
  have : 1 ≤ threshold weight bias := by unfold threshold; omega
  omega

def number (bias n : Nat) : List Char := numberFrom bias 36 n

def number? (bias weight scale n : Nat) : List Char → Option (Nat × List Char)
  | [] => none
  | c :: rest => match digitValue? c with
    | none => none
    | some d =>
      let t := threshold weight bias
      if d < t then some (n + d * scale,rest)
      else number? bias (weight + 36) (scale * (36 - t)) (n + d * scale) rest

def settle (steps distance : Nat) : Nat :=
  if 455 < distance then settle (steps + 36) (distance / 35)
  else steps + 36 * distance / (distance + 38)
termination_by distance
decreasing_by omega

def nextBias (first : Bool) (distance count : Nat) : Nat :=
  let distance := if first then distance / 700 else distance / 2
  settle 0 (distance + distance / count)

structure Writer where
  written : List Char
  distance : Nat
  bias : Nat
  count : Nat

def Writer.pass (basic code : Nat) (w : Writer) (c : Char) : Writer :=
  if c.toNat < code then { w with distance := w.distance + 1 }
  else if c.toNat = code then
    ⟨w.written ++ number w.bias w.distance,0,
      nextBias (w.count == basic) w.distance (w.count + 1),w.count + 1⟩
  else w

def write (s : List Char) (basic next : Nat) : List Nat → Writer → List Char
  | [],w => w.written
  | code :: rest,w =>
    let w := { w with distance := w.distance + (code - next) * (w.count + 1) }
    let w := s.foldl (Writer.pass basic code) w
    write s basic (code + 1) rest { w with distance := w.distance + 1 }

def encode (s : List Char) : List Char :=
  let basic := s.filter isAscii
  let codes := ((s.filter (!isAscii ·)).map Char.toNat).eraseDups.mergeSort
  basic ++ (if basic = [] then [] else ['-']) ++
    write s basic.length 0x80 codes ⟨[],0,72,basic.length⟩

def isCharacter (code : Nat) : Bool := code < 0xD800 || (0xDFFF < code && code < 0x110000)

def insertAll : Nat → Nat → Nat → Nat → List Char → List Char → Option (List Char)
  | _,_,_,_,s,[] => some s
  | 0,_,_,_,_,_ => none
  | fuel + 1,bias,code,place,s,rest => match number? bias 36 1 0 rest with
    | none => none
    | some (n,rest) =>
      let count := s.length + 1
      let code := code + (place + n) / count
      let place' := (place + n) % count
      if isCharacter code then
        insertAll fuel (nextBias (place == 0) n count) code (place' + 1)
          (s.take place' ++ Char.ofNat code :: s.drop place') rest
      else none

def decode? (s : List Char) : Option (List Char) :=
  let tail := (s.reverse.takeWhile (· ≠ '-')).reverse
  let basic := (s.take (s.length - tail.length)).dropLast
  if s.all isAscii && s.length ≠ tail.length + 1 then insertAll tail.length 72 0x80 0 basic tail
  else none

end SignedUpload.Punycode

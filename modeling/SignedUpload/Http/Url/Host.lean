import SignedUpload.Decimal.Integer
import SignedUpload.Http.Escape
import SignedUpload.Text.Case
import SignedUpload.Text.Punycode

/-! Hosts: names, addresses of four octets, and addresses of eight groups in brackets. Each is read into
one spelling. -/
namespace SignedUpload.Http.Host

def digitsIn? (base : Nat) (s : List Char) : Option Nat :=
  s.foldl (fun n c => n.bind fun n =>
    ((Text.hexValue? c).filter (· < base)).map (n * base + ·)) (some 0)

def number? : List Char → Option Nat
  | [] => none
  | '0' :: c :: rest => if c = 'x' ∨ c = 'X' then digitsIn? 16 rest else digitsIn? 8 (c :: rest)
  | s => digitsIn? 10 s

def joined (separator : Char) : List (List Char) → List Char
  | [] => []
  | [s] => s
  | s :: rest => s ++ separator :: joined separator rest

def endsInNumber (name : List Char) : Bool :=
  let last := match (pieces '.' name).reverse with
    | [] :: s :: _ => s
    | s :: _ => s
    | [] => []
  last ≠ [] && (last.all Decimal.isDigit || (number? last).isSome)

def bigEndian : Nat → Nat → List Nat
  | 0,_ => []
  | width + 1,n => bigEndian width (n / 256) ++ [n % 256]

def octets? (name : List Char) : Option (List Nat) := do
  let parts := pieces '.' name
  let parts := if parts.getLast? = some [] then parts.dropLast else parts
  let numbers ← parts.mapM number?
  let last ← numbers.getLast?
  let leading := numbers.dropLast
  if leading.length ≤ 3 ∧ leading.all (· < 256) ∧ last < Nat.pow 256 (4 - leading.length) then
    some (leading ++ bigEndian (4 - leading.length) last)
  else none

def group? (s : List Char) : Option Nat :=
  if s ≠ [] ∧ s.length ≤ 4 then digitsIn? 16 s else none

def octet? (s : List Char) : Option Nat :=
  match s with
  | '0' :: _ :: _ => none
  | _ => (Decimal.natural? s).filter (· < 256)

def dotted? (s : List Char) : Option (List Nat) :=
  match (pieces '.' s).mapM octet? with
  | some [a,b,c,d] => some [a * 256 + b,c * 256 + d]
  | _ => none

def groups? (final : Bool) (s : List Char) : Option (List Nat) :=
  let parts := pieces ':' s
  let last := parts.getLastD []
  if s = [] then some []
  else if final && last.contains '.' then do
    let front ← parts.dropLast.mapM group?
    some (front ++ (← dotted? last))
  else parts.mapM group?

def cutAtGap : List Char → Option (List Char × List Char)
  | [] => none
  | ':' :: ':' :: rest => some ([],rest)
  | c :: rest => (cutAtGap rest).map fun (front,back) => (c :: front,back)

def eightGroups? (s : List Char) : Option (List Nat) :=
  match cutAtGap s with
  | none => (groups? true s).filter (·.length == 8)
  | some (front,back) => do
    let front ← groups? false front
    let back ← groups? true back
    if front.length + back.length < 8 then
      some (front ++ List.replicate (8 - front.length - back.length) 0 ++ back)
    else none

def zeros (groups : List Nat) : Nat := (groups.takeWhile (· == 0)).length

def groupsText (groups : List Nat) : List Char := joined ':' (groups.map (Nat.toDigits 16))

def eightGroupsText (groups : List Nat) : List Char :=
  let longest := (List.range 8).foldl (fun n i => max n (zeros (groups.drop i))) 0
  if longest < 2 then groupsText groups
  else
    let first := ((List.range 8).find? fun i => zeros (groups.drop i) == longest).getD 0
    groupsText (groups.take first) ++ ':' :: ':' :: groupsText (groups.drop (first + longest))

def forbidden (c : Char) : Bool :=
  ['\x00','\t','\n','\r',' ','#','/',':','<','>','?','@','[','\\',']','^','|'].contains c

def forbiddenInName (c : Char) : Bool :=
  forbidden c || c.toNat < 0x20 || c.toNat = 0x7F || c == '%'

def isHidden (c : Char) : Bool := 0x7F ≤ c.toNat && c.toNat < 0xA0

def isInvisible (c : Char) : Bool :=
  [0xAD,0x34F,0x180B,0x180C,0x180D,0x180F,0x200B,0x2060,0xFEFF].contains c.toNat ||
    (0xFE00 ≤ c.toNat && c.toNat ≤ 0xFE0F)

def narrow (c : Char) : Char :=
  if c = '\u3002' ∨ c = '\uFF61' then '.'
  else if 0xFF01 ≤ c.toNat ∧ c.toNat ≤ 0xFF5E then Char.ofNat (c.toNat - 0xFEE0)
  else c

/-- Outside ASCII this is lower case, narrow forms and nothing for what is invisible. The other rows of
the mapping of host names, and the composed form of a name, are left out. -/
def fold (s : List Char) : List Char :=
  ((s.filter (!isInvisible ·)).map narrow).flatMap Text.lowerChar

/-- The spelling of a folded component in ASCII. One that has it already must be the spelling of a folded
component that needs it. -/
def component? (s : List Char) : Option (List Char) :=
  let mark := "xn--".toList
  let needs := fun s => !s.all Punycode.isAscii && fold s == s && !s.any isHidden
  if mark.isPrefixOf s then ((Punycode.decode? (s.drop mark.length)).filter needs).map fun _ => s
  else if s.all Punycode.isAscii then some s
  else if s.any isHidden then none
  else some (mark ++ Punycode.encode s)

def name? (s : List Char) : Option (List Char) := do
  let text ← Utf8.decode? (Escape.decode s)
  let name := joined '.' (← (pieces '.' (fold text.toList)).mapM component?)
  if name = [] ∨ name.any forbiddenInName then none
  else if endsInNumber name then (octets? name).map fun os => joined '.' (os.map Decimal.digits)
  else some name

def verbatim? (s : List Char) : Option (List Char) :=
  if s.any forbidden then none else some (Escape.encode Escape.isControl s).toList

def read? (special : Bool) (s : List Char) : Option String :=
  let bracketed := fun groups => '[' :: eightGroupsText groups ++ [']']
  (match s with
  | '[' :: rest =>
    if rest.getLast? = some ']' then (eightGroups? rest.dropLast).map bracketed else none
  | _ => if special then name? s else verbatim? s).map String.ofList

end SignedUpload.Http.Host

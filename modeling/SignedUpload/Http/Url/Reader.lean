import SignedUpload.Http.Fault
import SignedUpload.Http.Url
import SignedUpload.Http.Url.Host
import SignedUpload.Http.Url.Path

/-! Reading addresses. Each is read into one spelling: scheme and host in lower case, no standard port, a
path without dots, and escapes where a part may not hold a character. -/
namespace SignedUpload.Http.Url

def isSchemeChar (c : Char) : Bool :=
  c.isAlphanum || c == '+' || c == '-' || c == '.'

def splitScheme? (s : List Char) : Option (String × List Char) :=
  match s.takeWhile isSchemeChar,s.dropWhile isSchemeChar with
  | c :: scheme,':' :: rest =>
    if c.isAlpha then some (String.ofList ((c :: scheme).map Text.asciiLower),rest) else none
  | _,_ => none

def splitUser (s : List Char) : Option (List Char) × List Char :=
  let site := (s.reverse.takeWhile (· ≠ '@')).reverse
  if site = s then (none,s) else (some (s.take (s.length - site.length - 1)),site)

def login? (user : List Char) : Option Login :=
  let (name,password) := cut ':' user
  if name = [] ∧ password = [] then none
  else some ⟨Escape.encode Escape.inUser name,
    if password = [] then none else some (Escape.encode Escape.inUser password)⟩

def splitPort (inside : Bool) : List Char → List Char × List Char
  | [] => ([],[])
  | c :: rest =>
    if c = ':' ∧ !inside then ([],c :: rest)
    else
      let (host,port) := splitPort (c == '[' || (inside && c ≠ ']')) rest
      (c :: host,port)

def port? (scheme : String) (s : List Char) : Option (Option Nat) :=
  match s with
  | [] | [':'] => some none
  | _ :: digits => match Decimal.natural? digits with
    | none => none
    | some n =>
      if 65535 < n then none
      else some (if some n = standardPort? scheme then none else some n)

def authority? (scheme : String) (s : List Char) : Option Authority := do
  let (user,rest) := splitUser s
  let (host,rest) := splitPort false rest
  let host ← Host.read? (isSpecial scheme) host
  let port ← port? scheme rest
  if host = "" ∧ s ≠ [] then none else some ⟨user.bind login?,host,port⟩

def fileAuthority? (s : List Char) : Option Authority :=
  if s = [] then some ⟨none,"",none⟩
  else (Host.read? true s).map fun host => ⟨none,if host = "localhost" then "" else host,none⟩

def tidy (s : List Char) : List Char :=
  let outer := fun (c : Char) => c.toNat ≤ 0x20
  let s := ((s.dropWhile outer).reverse.dropWhile outer).reverse
  s.filter fun c => c ≠ '\t' ∧ c ≠ '\n' ∧ c ≠ '\r'

def beforeTail (c : Char) : Bool := c ≠ '?' && c ≠ '#'

def tail (special : Bool) (s : List Char) : Option String × Option String :=
  let bad := fun c => Escape.inQuery c || (special && c == '\'')
  let fragment := match s.dropWhile (· ≠ '#') with
    | _ :: f => some (Escape.encode Escape.inFragment f)
    | [] => none
  match s with
  | '?' :: rest => (some (Escape.encode bad (rest.takeWhile (· ≠ '#'))),fragment)
  | _ => (none,fragment)

def webPlace? (scheme : String) (s : List Char) : Option (Option Authority × String) :=
  let s := s.dropWhile (· == '/')
  (authority? scheme (s.takeWhile (· ≠ '/'))).map fun a =>
    (some a,pathText (s.dropWhile (· ≠ '/')))

def filePlace? (s : List Char) : Option (Option Authority × String) :=
  match s with
  | '/' :: '/' :: rest =>
    (fileAuthority? (rest.takeWhile (· ≠ '/'))).map fun a =>
      (some a,filePathText (rest.dropWhile (· ≠ '/')))
  | _ => some (some ⟨none,"",none⟩,filePathText s)

def foreignPlace? (scheme : String) (s : List Char) : Option (Option Authority × String) :=
  match s with
  | '/' :: '/' :: rest =>
    let path := rest.dropWhile (· ≠ '/')
    (authority? scheme (rest.takeWhile (· ≠ '/'))).map fun a =>
      (some a,if path = [] then "" else pathText path)
  | '/' :: _ =>
    let path := pathText s
    some (none,if "//".toList.isPrefixOf path.toList then "/." ++ path else path)
  | _ => some (none,Escape.encode Escape.isControl s)

def place? (scheme : String) (s : List Char) : Option (Option Authority × String) :=
  if isSpecial scheme then
    let slashed := s.map fun c => if c = '\\' then '/' else c
    if isFile scheme then filePlace? slashed else webPlace? scheme slashed
  else foreignPlace? scheme s

def parse? (address : String) : Option Url := do
  let (scheme,rest) ← splitScheme? (tidy address.toList)
  let (authority,path) ← place? scheme (rest.takeWhile beforeTail)
  let (query,fragment) := tail (isSpecial scheme) (rest.dropWhile beforeTail)
  some ⟨scheme,authority,path,query,fragment⟩

def read (address : String) : Except Fault Url :=
  match parse? address with
  | none => .error .unbuildable
  | some url => if url.hasHost then .ok url else .error (.unsendable url.text)

end SignedUpload.Http.Url

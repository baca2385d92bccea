import SignedUpload.Decimal.Integer
import SignedUpload.Http.Form

/-! Addresses of requests, part by part and as text. -/
namespace SignedUpload.Http

structure Login where
  name : String
  password : Option String
  deriving DecidableEq, Repr

structure Authority where
  login : Option Login
  host : String
  port : Option Nat
  deriving DecidableEq, Repr

structure Url where
  scheme : String
  authority : Option Authority
  path : String
  query : Option String
  fragment : Option String
  deriving DecidableEq, Repr

def marked (mark : String) : Option String → String
  | some part => mark ++ part
  | none => ""

def Login.text (l : Login) : String := l.name ++ marked ":" l.password

def Authority.site (a : Authority) : String := a.host ++ marked ":" (a.port.map Decimal.natText)

def Authority.text (a : Authority) : String :=
  (match a.login with | some l => l.text ++ "@" | none => "") ++ a.site

namespace Url

def text (u : Url) : String :=
  u.scheme ++ ":" ++ marked "//" (u.authority.map Authority.text) ++ u.path ++
    marked "?" u.query ++ marked "#" u.fragment

def isWeb (u : Url) : Bool := u.scheme == "http" || u.scheme == "https"

def hasHost (u : Url) : Bool := u.authority.any (·.host ≠ "")

def standardPort? (scheme : String) : Option Nat :=
  [("http",80),("ws",80),("https",443),("wss",443),("ftp",21)].lookup scheme

def isFile (scheme : String) : Bool := scheme == "file"

def isSpecial (scheme : String) : Bool := (standardPort? scheme).isSome || isFile scheme

def appendQuery (u : Url) (entries : List (String × String)) : Url :=
  let old := u.query.getD ""
  let added := Form.encode entries
  let query :=
    if entries = [] then old else if old = "" then added else old ++ "&" ++ added
  { u with query := if query = "" then none else some query }

def longest : Nat := 65534

def isSayable (c : Char) : Bool :=
  c ≠ '"' && c ≠ Char.ofNat 96 && c ≠ '\x7b' && c ≠ '\x7d'

def isSendable (u : Url) : Bool :=
  u.isWeb && u.authority.all (·.host.toList.all isSayable) && Utf8.size u.text.toList ≤ longest

end Url
end SignedUpload.Http

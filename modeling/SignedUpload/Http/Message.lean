import SignedUpload.Http.MediaType
import SignedUpload.Http.Method
import SignedUpload.Http.Url.Reader
import SignedUpload.Text.Base64
import SignedUpload.TextMap

/-! Requests and answers. -/
namespace SignedUpload.Http

def isHeaderValue (s : List Char) : Bool :=
  s.all fun c => c == '\t' || (0x20 ≤ c.toNat && c.toNat ≠ 0x7F)

structure Header where
  name : String
  value : String
  deriving DecidableEq, Repr

def Header.of? (name value : String) : Option Header :=
  if isToken name.toList && isHeaderValue value.toList then
    some ⟨String.ofList (name.toList.map Text.asciiLower),value⟩
  else none

def headersOf : List (String × String) → Except Fault (List Header)
  | [] => .ok []
  | (name,value) :: rest => match Header.of? name value with
    | none => .error .unbuildable
    | some h => (headersOf rest).map (h :: ·)

def formHeader : Header := ⟨"content-type","application/x-www-form-urlencoded"⟩

def loginHeader (name : String) (password : Option String) : Header :=
  ⟨"authorization","Basic " ++ Base64.encode (Utf8.encode (name ++ ":" ++ password.getD ""))⟩

def Url.takeLogin (u : Url) : Url × List Header :=
  let text? := fun (s : String) => Utf8.decode? (Escape.decode s.toList)
  match u.authority with
  | some ⟨some login,host,port⟩ => match text? login.name,login.password.bind text? with
    | none,_ | some "",none => (u,[])
    | some name,password =>
      ({ u with authority := some ⟨none,host,port⟩ },[loginHeader name password])
  | _ => (u,[])

structure FilePart where
  fileName : String
  mediaType : String
  data : Bytes
  deriving DecidableEq, Repr

structure Multipart where
  fields : List (String × String)
  file : FilePart
  deriving DecidableEq, Repr

namespace Multipart

def filePartName : String := "file"

def partNames (form : Multipart) : List String := form.fields.map (·.1) ++ [filePartName]

def escapedInName (c : Char) : Bool := Escape.inPath c || c == '/' || c == '%'

def disposition (name : String) : String :=
  if name.toList.any escapedInName then "name*=utf-8''" ++ Escape.encode escapedInName name.toList
  else "name=\"" ++ name ++ "\""

def quotedInFileName (c : Char) : Bool := c == '\\' || c == '"' || c == '\r' || c == '\n'

def FilePart.disposition (file : FilePart) : String :=
  "name=\"" ++ filePartName ++ "\"; filename=\"" ++
    String.ofList (file.fileName.toList.flatMap fun c =>
      if quotedInFileName c then ['\\',c] else [c]) ++ "\""

end Multipart

inductive Body where
  | empty
  | form (text : String)
  | multipart (parts : Multipart)
  deriving DecidableEq, Repr

structure Request where
  method : Method
  url : Url
  headers : List Header
  body : Body
  deriving DecidableEq, Repr

/-- Addresses and headers are looked at while a request is put together; whether the request can be sent
is looked at last. -/
def Request.ready (r : Request) : Except Fault Request :=
  if r.url.isSendable then .ok r else .error (.unsendable r.url.text)

/-- What one whole send comes to, redirections followed: nothing comes back, or an answer breaks off
inside its body, or it arrives whole. A redirection that cannot be followed is left out. -/
inductive Reply where
  | broken
  | cut (status : Nat)
  | whole (status : Nat) (body : Bytes)
  deriving DecidableEq, Repr

def isSuccess (status : Nat) : Bool := 200 ≤ status && status < 300

end SignedUpload.Http

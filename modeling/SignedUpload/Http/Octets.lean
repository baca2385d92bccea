import SignedUpload.Http.Message

/-! Requests and answers as the octets of HTTP/1.1, with one exchange on each connection. An answer is
read when the connection has ended; what is missing of it then was never sent. -/
namespace SignedUpload.Http

def lineEnd : Bytes := [13,10]

def line (text : String) : Bytes := Utf8.encode text ++ lineEnd

def Header.octets (h : Header) : Bytes := line (h.name ++ ": " ++ h.value)

namespace Multipart

def fence (boundary : String) : Bytes := Utf8.encode ("--" ++ boundary)

def part (boundary disposition : String) (more : List Header) (data : Bytes) : Bytes :=
  fence boundary ++ lineEnd ++ Header.octets ⟨"Content-Disposition","form-data; " ++ disposition⟩ ++
    more.flatMap Header.octets ++ lineEnd ++ data ++ lineEnd

def octets (boundary : String) (form : Multipart) : Bytes :=
  (form.fields.flatMap fun (name,value) =>
      part boundary (disposition name) [] (Utf8.encode value)) ++
    part boundary (FilePart.disposition form.file) [⟨"Content-Type",form.file.mediaType⟩]
      form.file.data ++
    fence boundary ++ Utf8.encode "--" ++ lineEnd

end Multipart

namespace Url

def target (u : Url) : String :=
  u.path ++ marked "?" u.query

def peer (u : Url) : String × Nat :=
  match u.authority with
  | some a =>
    (String.ofList (a.host.toList.filter fun c => c ≠ '[' ∧ c ≠ ']'),
      a.port.getD ((standardPort? u.scheme).getD 0))
  | none => ("",0)

end Url

def Body.octets (boundary : String) : Body → Bytes
  | .empty => []
  | .form text => Utf8.encode text
  | .multipart parts => parts.octets boundary

def Body.headers (boundary : String) (body : Body) : List Header :=
  let size := Decimal.natText (body.octets boundary).length
  match body with
  | .empty => []
  | .form _ => [⟨"content-length",size⟩]
  | .multipart _ =>
    [⟨"content-type","multipart/form-data; boundary=" ++ boundary⟩,⟨"content-length",size⟩]

def Request.standing (r : Request) : List Header :=
  [⟨"accept","*/*"⟩,⟨"host",(r.url.authority.map Authority.site).getD ""⟩,⟨"connection","close"⟩]

def Request.octets (boundary : String) (r : Request) : Bytes :=
  line (r.method.word ++ " " ++ r.url.target ++ " HTTP/1.1") ++
    (r.headers ++ r.body.headers boundary ++ r.standing).flatMap Header.octets ++
    lineEnd ++ r.body.octets boundary

def splitHead? : Bytes → Option (Bytes × Bytes)
  | [] => none
  | 13 :: 10 :: 13 :: 10 :: rest => some ([],rest)
  | b :: rest => (splitHead? rest).map fun (head,body) => (b :: head,body)

def trimBlank (s : List Char) : List Char :=
  ((s.dropWhile (· == ' ')).reverse.dropWhile (· == ' ')).reverse

def headerLine (s : List Char) : Header :=
  ⟨String.ofList ((s.takeWhile (· ≠ ':')).map Text.asciiLower),
    String.ofList (trimBlank ((s.dropWhile (· ≠ ':')).drop 1))⟩

def statusOf? (first : List Char) : Option Nat :=
  match pieces ' ' first with
  | version :: code :: _ =>
    if "HTTP/1.".toList.isPrefixOf version && code.length == 3 then Decimal.natural? code else none
  | _ => none

def chunkSize? (s : List Char) : Option Nat :=
  match s.takeWhile fun c => c ≠ ';' ∧ c ≠ ' ' with
  | [] => none
  | ds => ds.foldl (fun n c => n.bind fun n => (Text.hexValue? c).map (n * 16 + ·)) (some 0)

def chunks? : Nat → Bytes → Option Bytes
  | 0,_ => none
  | fuel + 1,bytes =>
    let size := bytes.takeWhile (· ≠ 13)
    let rest := bytes.drop (size.length + 2)
    match chunkSize? (Utf8.decodeLossy size).toList with
    | none => none
    | some 0 => some []
    | some n =>
      if rest.length < n + 2 then none
      else (chunks? fuel (rest.drop (n + 2))).map (rest.take n ++ ·)

def bodyOf? (status : Nat) (headers : List Header) (rest : Bytes) : Option Bytes :=
  let value? := fun name => (headers.find? (·.name == name)).map (·.value)
  if status = 204 ∨ status = 304 then some []
  else if (value? "transfer-encoding").any (Text.lower · == "chunked") then
    chunks? (rest.length + 1) rest
  else match (value? "content-length").bind fun v => Decimal.natural? v.toList with
    | some n => if rest.length < n then none else some (rest.take n)
    | none => some rest

def Reply.read : Nat → Bytes → Reply
  | 0,_ => .broken
  | fuel + 1,bytes => match splitHead? bytes with
    | none => .broken
    | some (head,rest) =>
      let lines := pieces '\n' ((Utf8.decodeLossy head).toList.filter (· ≠ '\r'))
      match lines.head?.bind statusOf? with
      | none => .broken
      | some status =>
        if 100 ≤ status ∧ status < 200 then Reply.read fuel rest
        else match bodyOf? status (lines.tail.map headerLine) rest with
          | some body => .whole status body
          | none => .cut status

def Reply.ofOctets (bytes : Bytes) : Reply := Reply.read (bytes.length + 1) bytes

end SignedUpload.Http

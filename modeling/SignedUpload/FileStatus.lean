import SignedUpload.Json.Record

/-! Stages of a file on its way to the storage. -/
namespace SignedUpload

inductive FileStatus where
  | waiting
  | uploading
  | succeeded
  | failed
  deriving DecidableEq, Repr

namespace FileStatus

def all : List FileStatus := [.waiting,.uploading,.succeeded,.failed]

def name : FileStatus → String
  | .waiting => "Waiting"
  | .uploading => "Uploading"
  | .succeeded => "Succeeded"
  | .failed => "Failed"

def label : FileStatus → String
  | .waiting => "waiting"
  | .uploading => "uploading"
  | .succeeded => "uploaded"
  | .failed => "failed"

def canMoveTo : FileStatus → FileStatus → Bool
  | .waiting,.uploading => true
  | .uploading,.succeeded => true
  | .uploading,.failed => true
  | _,_ => false

def deletable : FileStatus → Bool
  | .waiting => true
  | .failed => true
  | _ => false

def ofName? (text : String) : Option FileStatus := all.find? (·.name == text)

open Json in
def named (text : String) : Except Fault FileStatus :=
  match ofName? text with
  | some status => .ok status
  | none => .error .unsuited

def json : Json.Read FileStatus := fun s =>
  match Json.skipBlanks s with
  | [] => .error .unfinished
  | '"' :: rest => do
    let (word,rest) ← Json.stringBody rest
    let status ← named word
    .ok (status,rest)
  | '{' :: rest => do
    let (word,rest) ← Json.text rest
    let status ← named word
    let rest ← Json.colon rest
    let (_,rest) ← Json.null rest
    match Json.skipBlanks rest with
    | [] => .error .unfinished
    | '}' :: rest => .ok (status,rest)
    | _ => .error .malformed
  | _ => .error .malformed

end FileStatus
end SignedUpload

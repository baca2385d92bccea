import SignedUpload.Uploader.Transfer

/-! Runs of an uploader. While a batch waits for an answer any call may come, and answers may come in
any order. An event that cannot happen in a state has no successor. -/
namespace SignedUpload.Uploader

inductive Event where
  | openDialog
  | closeDialog
  | choose (disk : Disk) (paths : List Path)
  | remove (id : FileId)
  | retry (id : FileId)
  | start
  | policyAnswered (reply : Http.Reply) (now : Instant) (supply : Supply)
  | fileRead (position : Nat) (contents : Except DiskFault Bytes)
  | postAnswered (position : Nat) (reply : Http.Reply)

def step? (u : Uploader) : Event → Option Result
  | .openDialog => some u.openDialog
  | .closeDialog => some u.closeDialog
  | .choose disk paths => some (u.choose disk paths)
  | .remove id => some (u.remove id)
  | .retry id => some (u.retry id)
  | .start => some (u.begin .start)
  | .policyAnswered reply now supply => u.policyAnswered reply now supply
  | .fileRead position contents => u.fileRead position contents
  | .postAnswered position reply => u.postAnswered position reply

def run? (u : Uploader) : List Event → Option Result
  | [] => some (u,[])
  | e :: rest => match u.step? e with
    | none => none
    | some (u,effects) => (run? u rest).map fun r => (r.1,effects ++ r.2)

end SignedUpload.Uploader

import SignedUpload.Uploader.Calls

/-! The course of a batch: an accepted policy dispatches its files, each file is read and then posted,
and the last outcome reports the batch. Clock readings and random draws come from outside. An answer
that the batch does not wait for has no outcome. -/
namespace SignedUpload.Uploader

def dispatch (issuer : KeyIssuer) (supply : Supply) (position : Nat) (files : List PendingFile) :
    List FileId → Option (List Job × List PendingFile)
  | [] => some ([],files)
  | id :: ids => match files.find? (·.id == id) with
    | none => dispatch issuer supply (position + 1) files ids
    | some file => match file.moveTo .uploading with
      | .error _ => dispatch issuer supply (position + 1) files ids
      -- without a reading of the clock or a free draw there is no outcome
      | .ok moved => match supply.clock with
        | [] => none
        | millis :: clock => match issuer.next? millis file.name supply.draws with
          | none => none
          | some (key,issuer,draws) =>
            let files := replace files id { moved with key := some key }
            match dispatch issuer ⟨clock,draws⟩ (position + 1) files ids with
            | none => none
            | some (jobs,files) =>
              some (⟨position,id,file.path,file.name,file.contentType,key⟩ :: jobs,files)

def room (u : Uploader) (t : Transfer) : Nat :=
  if u.config.maxConcurrency = 0 then t.queue.length
  else u.config.maxConcurrency - t.flights.length

def report (u : Uploader) (origin : Origin) (objects : List UploadedObject) : Result :=
  let u := { u with batch := none }
  let u :=
    if u.config.multiple then u
    else { u.forget (fun f => f.status = .failed) with files := [] }
  (u,[.allUploaded objects,.answer (succeed origin objects)])

def underWay (u : Uploader) (origin : Origin) (t : Transfer) : Uploader :=
  { u with batch := some ⟨origin,.transferring t⟩ }

def advance (u : Uploader) (origin : Origin) (t : Transfer) : Result :=
  let started := t.queue.take (u.room t)
  let queue := t.queue.drop (u.room t)
  let flights := t.flights ++ started.map fun job => ⟨job,.reading⟩
  if queue = [] ∧ flights = [] then u.report origin (t.completed.getD [])
  else (u.underWay origin { t with queue := queue, flights := flights },started.map .loadFile)

def policyAnswered (u : Uploader) (reply : Http.Reply) (now : Instant) (supply : Supply) :
    Option Result :=
  match u.batch with
  | some ⟨origin,.awaitingPolicy request waiting⟩ =>
    match u.config.policyFrom request reply now with
    | .error failure => some (u.policyFailed origin failure)
    | .ok policy =>
      (dispatch (.fresh u.config.prefixPath) supply 0 u.files waiting).map fun (jobs,files) =>
        ({ u with files := files }).advance origin
          ⟨policy,jobs,[],.start jobs.length,none⟩
  | _ => none

def resolve (u : Uploader) (origin : Origin) (t : Transfer) (job : Job)
    (outcome : Except UploadError Unit) : Result :=
  let (tally,status) := match outcome with
    | .ok _ =>
      (t.tally.recordSuccess job.position
        ⟨job.name,job.contentType,u.config.objectUrl job.key⟩,FileStatus.succeeded)
    | .error _ => (t.tally.recordFailure,FileStatus.failed)
  let (results,tally) := tally.takeIfComplete
  ({ u with files := markResolved u.files job.id status }).advance origin
    { t with
      flights := t.flights.filter (·.job.position ≠ job.position)
      tally := tally
      completed := results.or t.completed }

def flight? (t : Transfer) (position : Nat) : Option Flight :=
  t.flights.find? (·.job.position == position)

def setStage (t : Transfer) (position : Nat) (stage : Stage) : Transfer :=
  { t with flights := t.flights.map fun f =>
      if f.job.position = position then { f with stage := stage } else f }

def fileRead (u : Uploader) (position : Nat) (contents : Except DiskFault Bytes) : Option Result :=
  match u.batch with
  | some ⟨origin,.transferring t⟩ => match flight? t position with
    | some ⟨job,.reading⟩ => match contents with
      | .error fault => some (u.resolve origin t job (.error (.disk fault)))
      | .ok data =>
        match u.config.storageRequest job.key t.policy ⟨job.name,job.contentType,data⟩ with
        | .error fault => some (u.resolve origin t job (.error (.transport fault)))
        | .ok request =>
          some (u.underWay origin (setStage t position (.posting request)),
            [.postFile job request])
    | _ => none
  | _ => none

def postAnswered (u : Uploader) (position : Nat) (reply : Http.Reply) : Option Result :=
  match u.batch with
  | some ⟨origin,.transferring t⟩ => match flight? t position with
    | some ⟨job,.posting request⟩ =>
      some (u.resolve origin t job (Config.stored request reply))
    | _ => none
  | _ => none

end SignedUpload.Uploader

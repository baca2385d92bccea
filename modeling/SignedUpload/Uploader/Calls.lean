import SignedUpload.Uploader.State

/-! Calls on an uploader. Most answer at once; a call that begins a batch is answered when the batch
ends. -/
namespace SignedUpload.Uploader

abbrev Result := Uploader × List Effect

def answered (u : Uploader) (answer : Answer) : Result := (u,[.answer answer])

def openDialog (u : Uploader) : Result :=
  answered { u with dialogOpen := true } (.title u.config.dialogTitle)

def closeDialog (u : Uploader) : Result :=
  if u.isUploading then answered u (.failed .batchInProgress)
  else if u.dialogOpen then
    ({ u with dialogOpen := false, files := [] },[.dialogClosed,.answer .done])
  else answered u .done

def remove (u : Uploader) (id : FileId) : Result :=
  match u.file? id with
  | none => answered u (.failed (.unknownFile id))
  | some file =>
    if file.status = .uploading then answered u (.failed (.fileBusy id))
    else answered { u with files := u.files.filter (·.id ≠ id) } .done

/-- The new id is used up even when the call fails. -/
def retry (u : Uploader) (id : FileId) : Result :=
  let fresh := u.lastId + 1
  let u := { u with lastId := fresh }
  match u.file? id with
  | none => answered u (.failed (.unknownFile id))
  | some file =>
    if file.status = .failed then
      answered { u with files := replace u.files id (file.restaged fresh) } (.renewed fresh)
    else answered u (.failed (.invalidTransition file.status .waiting))

def fail (u : Uploader) (origin : Origin) (error : UploadError) : Result :=
  match origin with
  | .start => answered u (.failed error)
  | .choice staged => answered (u.forget fun f => staged.contains f.id) (.failed error)

def succeed (origin : Origin) (objects : List UploadedObject) : Answer :=
  match origin with
  | .start => .uploaded objects
  | .choice staged => .staged staged

def policyFailed (u : Uploader) (origin : Origin) (failure : PolicyFailure) : Result :=
  let (u,effects) := ({ u with batch := none }).fail origin (.policyFailed failure)
  (u,.policyFailed failure :: effects)

def begin (u : Uploader) (origin : Origin) : Result :=
  if u.isUploading then u.fail origin .batchInProgress
  else if u.files = [] then
    let (u,effects) := u.fail origin .noFilesSelected
    (u,.notice "select files to upload first" :: effects)
  else
    let waiting := (u.files.filter (·.status = .waiting)).map (·.id)
    if waiting = [] then
      (u,[.notice "no files need uploading",.answer (succeed origin [])])
    else match u.config.policyRequest with
      | .error fault => u.policyFailed origin (Config.transportFailure fault)
      | .ok request =>
        ({ u with batch := some ⟨origin,.awaitingPolicy request waiting⟩ },
          [.requestPolicy request])

def choose (u : Uploader) (disk : Disk) (paths : List Path) : Result :=
  let selection := Selection.of u.filter disk paths
  let notices := selection.notices.map Effect.notice
  if u.config.multiple then
    let (u,ids) := ({ u with dialogOpen := true }).stage selection.candidates
    (u,notices ++ [.answer (.staged ids)])
  else
    let fresh := selection.candidates.filter fun c => !u.snapshot.contains c.path
    let picked := selection.candidates.map (·.path)
    let (u,ids) := ({ u with snapshot := picked }).stage fresh
    if ids = [] then (u,notices ++ [.answer (.staged [])])
    else
      let (u,effects) := u.begin (.choice ids)
      (u,notices ++ effects)

end SignedUpload.Uploader

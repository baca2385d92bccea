import SignedUpload.ObjectKey
import SignedUpload.PendingFile
import SignedUpload.Policy.Exchange
import SignedUpload.Selection
import SignedUpload.Storage
import SignedUpload.Tally

/-! The state of an uploader: a list of chosen files, a dialog that shows it, and at most one batch of
uploads. Operations change the state and ask for effects; what an effect brings back is an event like
any other. -/
namespace SignedUpload

structure Job where
  position : Nat
  id : FileId
  path : Path
  name : String
  contentType : String
  key : String
  deriving DecidableEq, Repr

inductive Stage where
  | reading
  | posting (request : Http.Request)
  deriving DecidableEq, Repr

structure Flight where
  job : Job
  stage : Stage
  deriving DecidableEq, Repr

/-- What a batch owes its answer to: a call to start, or a choice that staged files and starts at
once. -/
inductive Origin where
  | start
  | choice (staged : List FileId)
  deriving DecidableEq, Repr

structure Transfer where
  policy : Policy
  queue : List Job
  flights : List Flight
  tally : Tally
  completed : Option (List UploadedObject)
  deriving DecidableEq, Repr

inductive Phase where
  | awaitingPolicy (request : Http.Request) (waiting : List FileId)
  | transferring (transfer : Transfer)
  deriving DecidableEq, Repr

structure Batch where
  origin : Origin
  phase : Phase
  deriving DecidableEq, Repr

structure Uploader where
  config : Config
  kind : FileKind
  files : List PendingFile
  /-- The last selection of single mode, by resolved paths. -/
  snapshot : List Path
  lastId : FileId
  dialogOpen : Bool
  batch : Option Batch
  deriving DecidableEq, Repr

inductive Answer where
  | title (text : String)
  | done
  | staged (ids : List FileId)
  | uploaded (objects : List UploadedObject)
  | renewed (id : FileId)
  | failed (error : UploadError)
  deriving DecidableEq, Repr

inductive Effect where
  | notice (message : String)
  | requestPolicy (request : Http.Request)
  | policyFailed (failure : PolicyFailure)
  | loadFile (job : Job)
  | postFile (job : Job) (request : Http.Request)
  | allUploaded (objects : List UploadedObject)
  | dialogClosed
  | answer (answer : Answer)
  deriving DecidableEq, Repr

structure Supply where
  clock : List Int
  draws : List Suffix
  deriving DecidableEq, Repr

namespace Uploader

def render (config : Config) : Except UploadError Uploader :=
  match config.validate with
  | .error e => .error (.config e)
  | .ok _ => match config.fileKind with
    | .error e => .error (.config e)
    | .ok kind => .ok ⟨config,kind,[],[],0,false,none⟩

def isUploading (u : Uploader) : Bool := u.batch.isSome

def rows (u : Uploader) : List FileRow := u.files.map (·.row)

def file? (u : Uploader) (id : FileId) : Option PendingFile := u.files.find? (·.id == id)

def filter (u : Uploader) : Filter := ⟨u.kind,u.config.fileExts⟩

def replace (files : List PendingFile) (id : FileId) (file : PendingFile) : List PendingFile :=
  files.map fun f => if f.id = id then file else f

def forget (u : Uploader) (leaves : PendingFile → Bool) : Uploader :=
  let paths := (u.files.filter leaves).map (·.path)
  { u with
    files := u.files.filter (!leaves ·)
    snapshot := u.snapshot.filter (!paths.contains ·) }

def stageFrom (next : FileId) : List Candidate → List PendingFile
  | [] => []
  | c :: rest => .staged next c.path c.name c.size c.contentType :: stageFrom (next + 1) rest

def stage (u : Uploader) (candidates : List Candidate) : Uploader × List FileId :=
  let staged := stageFrom (u.lastId + 1) candidates
  ({ u with files := u.files ++ staged, lastId := u.lastId + staged.length },staged.map (·.id))

def markResolved (files : List PendingFile) (id : FileId) (status : FileStatus) : List PendingFile :=
  match files.find? (·.id == id) with
  | none => files
  | some file => match file.moveTo status with
    | .ok moved => replace files id moved
    | .error _ => files

end Uploader
end SignedUpload

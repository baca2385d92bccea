import SignedUpload.Proofs.FileList
import SignedUpload.Proofs.Picking
import SignedUpload.Uploader.Run

/-! What the calls of an uploader do. A call tends the list: files are added, taken off and renewed
by id, but a file on its way stays. The batch is left alone, unless the call begins one. -/
namespace SignedUpload.Uploader

def Event.isCall : Event → Bool
  | .policyAnswered .. => false
  | .fileRead .. => false
  | .postAnswered .. => false
  | _ => true

def loads (effects : List Effect) : List Job :=
  effects.filterMap fun | .loadFile job => some job | _ => none

def posts (effects : List Effect) : List (Job × Http.Request) :=
  effects.filterMap fun | .postFile job request => some (job,request) | _ => none

def reports (effects : List Effect) : List (List UploadedObject) :=
  effects.filterMap fun | .allUploaded objects => some objects | _ => none

def answers (effects : List Effect) : List Answer :=
  effects.filterMap fun | .answer answer => some answer | _ => none

def requests (effects : List Effect) : List Http.Request :=
  effects.filterMap fun | .requestPolicy request => some request | _ => none

def notices (effects : List Effect) : List String :=
  effects.filterMap fun | .notice message => some message | _ => none

def denials (effects : List Effect) : List PolicyFailure :=
  effects.filterMap fun | .policyFailed failure => some failure | _ => none

def closings (effects : List Effect) : Nat := effects.count .dialogClosed

section Effects
variable (xs ys : List Effect)

@[simp] theorem loadsAppend : loads (xs ++ ys) = loads xs ++ loads ys := List.filterMap_append
@[simp] theorem postsAppend : posts (xs ++ ys) = posts xs ++ posts ys := List.filterMap_append
@[simp] theorem reportsAppend : reports (xs ++ ys) = reports xs ++ reports ys :=
  List.filterMap_append
@[simp] theorem answersAppend : answers (xs ++ ys) = answers xs ++ answers ys :=
  List.filterMap_append
@[simp] theorem requestsAppend : requests (xs ++ ys) = requests xs ++ requests ys :=
  List.filterMap_append
@[simp] theorem noticesAppend : notices (xs ++ ys) = notices xs ++ notices ys :=
  List.filterMap_append
@[simp] theorem denialsAppend : denials (xs ++ ys) = denials xs ++ denials ys :=
  List.filterMap_append
@[simp] theorem closingsAppend : closings (xs ++ ys) = closings xs + closings ys :=
  List.count_append

variable {effects : List Effect} {request : Http.Request}

theorem postsIff {job : Job} :
    (job,request) ∈ posts effects ↔ .postFile job request ∈ effects := by
  simp only [posts,List.mem_filterMap]
  constructor
  · rintro ⟨effect,told,same⟩
    split at same <;> cases same
    exact told
  · exact fun told => ⟨_,told,rfl⟩

theorem requestsIff : request ∈ requests effects ↔ .requestPolicy request ∈ effects := by
  simp only [requests,List.mem_filterMap]
  constructor
  · rintro ⟨effect,told,same⟩
    split at same <;> cases same
    exact told
  · exact fun told => ⟨_,told,rfl⟩

end Effects

structure Quiet (effects : List Effect) : Prop where
  loads : loads effects = []
  posts : posts effects = []
  reports : reports effects = []

section Notices
variable (messages : List String)

theorem quietNotices : Quiet (messages.map .notice) := by
  constructor <;> simp [Uploader.loads,Uploader.posts,Uploader.reports,List.filterMap_map]

theorem answersNotices : answers (messages.map .notice) = [] := by
  simp [answers,List.filterMap_map]

theorem requestsNotices : requests (messages.map .notice) = [] := by
  simp [requests,List.filterMap_map]

theorem denialsNotices : denials (messages.map .notice) = [] := by
  simp [denials,List.filterMap_map]

theorem closingsNotices : closings (messages.map .notice) = 0 := by
  simp [closings,List.count_eq_zero]

end Notices

theorem Quiet.append {xs ys : List Effect} (left : Quiet xs) (right : Quiet ys) :
    Quiet (xs ++ ys) := by
  constructor <;> simp [left.loads,right.loads,left.posts,right.posts,left.reports,right.reports]

def denial : Answer → Option PolicyFailure
  | .failed (.policyFailed failure) => some failure
  | _ => none

def waitingIds (files : List PendingFile) : List FileId :=
  (files.filter (·.status = .waiting)).map (·.id)

def takeBack (u : Uploader) : Origin → Uploader
  | .start => u
  | .choice staged => u.forget fun f => staged.contains f.id

theorem takeBackFiles (u : Uploader) (origin : Origin) :
    (u.takeBack origin).files.Sublist u.files := by
  cases origin with
  | start => exact List.Sublist.refl _
  | choice staged => exact List.filter_sublist

theorem takeBackRest (u : Uploader) (origin : Origin) :
    (u.takeBack origin).batch = u.batch ∧ (u.takeBack origin).lastId = u.lastId ∧
      (u.takeBack origin).config = u.config := by
  cases origin <;> exact ⟨rfl,rfl,rfl⟩

theorem failEq (u : Uploader) (origin : Origin) (error : UploadError) :
    u.fail origin error = (u.takeBack origin,[.answer (.failed error)]) := by
  cases origin <;> rfl

theorem policyFailedEq (u : Uploader) (origin : Origin) (failure : PolicyFailure) :
    u.policyFailed origin failure = (({ u with batch := none } : Uploader).takeBack origin,
      [.policyFailed failure,.answer (.failed (.policyFailed failure))]) := by
  simp [policyFailed,failEq]

theorem idleIff {u : Uploader} : u.isUploading = false ↔ u.batch = none := by
  simp [isUploading]

theorem unbatched {u : Uploader} (free : u.batch = none) :
    ({ u with batch := none } : Uploader) = u := by
  rw [← free]

theorem waitingSome {files : List PendingFile} (waits : waitingIds files ≠ []) : files ≠ [] := by
  rintro rfl
  exact waits rfl

inductive Begins (u : Uploader) (origin : Origin) : Result → Prop where
  | busy (running : u.isUploading = true) :
      Begins u origin (u.takeBack origin,[.answer (.failed .batchInProgress)])
  | nothing (free : u.batch = none) (nothing : u.files = []) : Begins u origin (u.takeBack origin,
      [.notice "select files to upload first",.answer (.failed .noFilesSelected)])
  | settled (free : u.batch = none) (settled : waitingIds u.files = []) :
      Begins u origin (u,[.notice "no files need uploading",.answer (succeed origin [])])
  | unmade {fault : Http.Fault} (free : u.batch = none) (waits : waitingIds u.files ≠ [])
      (unmade : u.config.policyRequest = .error fault) : Begins u origin (u.takeBack origin,
        [.policyFailed (Config.transportFailure fault),
          .answer (.failed (.policyFailed (Config.transportFailure fault)))])
  | asked {request : Http.Request} (free : u.batch = none) (waits : waitingIds u.files ≠ [])
      (made : u.config.policyRequest = .ok request) :
      Begins u origin ({ u with batch := some ⟨origin,.awaitingPolicy request (waitingIds u.files)⟩ },
        [.requestPolicy request])

theorem beginExact (u : Uploader) (origin : Origin) : Begins u origin (u.begin origin) := by
  unfold begin
  split
  · rename_i running
    rw [failEq]
    exact .busy running
  · rename_i busy
    have free : u.batch = none := idleIff.mp (by simpa using busy)
    split
    · rename_i nothing
      rw [failEq]
      exact .nothing free nothing
    · simp only
      split
      · rename_i settled
        exact .settled free settled
      · rename_i waits
        split
        · rename_i fault unmade
          rw [policyFailedEq,unbatched free]
          exact .unmade free waits unmade
        · rename_i request made
          exact .asked free waits made

inductive Begun (u : Uploader) (origin : Origin) : Result → Prop where
  | failed (said : List Effect) {error : UploadError} (quiet : Quiet said)
      (silent : answers said = [])
      (blocked : u.batch ≠ none ∨ u.files = [] ∨ ∃ fault, u.config.policyRequest = .error fault) :
      Begun u origin (u.takeBack origin,said ++ [.answer (.failed error)])
  | idle (free : u.batch = none) (settled : waitingIds u.files = []) :
      Begun u origin (u,[.notice "no files need uploading",.answer (succeed origin [])])
  | asked {request : Http.Request} (free : u.batch = none) (waits : waitingIds u.files ≠ [])
      (made : u.config.policyRequest = .ok request) :
      Begun u origin ({ u with batch := some ⟨origin,.awaitingPolicy request (waitingIds u.files)⟩ },
        [.requestPolicy request])

theorem beginCases (u : Uploader) (origin : Origin) : Begun u origin (u.begin origin) := by
  have begins := beginExact u origin
  generalize u.begin origin = result at begins
  cases begins with
  | busy running =>
    exact .failed [] ⟨rfl,rfl,rfl⟩ rfl (.inl fun free => by simp [isUploading,free] at running)
  | nothing free nothing => exact .failed [.notice _] ⟨rfl,rfl,rfl⟩ rfl (.inr (.inl nothing))
  | settled free settled => exact .idle free settled
  | unmade free waits unmade =>
    exact .failed [.policyFailed _] ⟨rfl,rfl,rfl⟩ rfl (.inr (.inr ⟨_,unmade⟩))
  | asked free waits made => exact .asked free waits made

def picked (u : Uploader) (disk : Disk) (paths : List Path) : List Candidate :=
  (Selection.of u.filter disk paths).candidates

theorem pickedFirsts {u : Uploader} {disk : Disk} {paths : List Path} {offers : List Candidate}
    {refusals : List String} (sifted : Sifted u.filter disk paths offers refusals) :
    u.picked disk paths = firsts offers := by
  rw [picked,selectionOf sifted]

def unseen (u : Uploader) (disk : Disk) (paths : List Path) : List Candidate :=
  (u.picked disk paths).filter fun c => !u.snapshot.contains c.path

def pickedPaths (u : Uploader) (disk : Disk) (paths : List Path) : List Path :=
  (u.picked disk paths).map (·.path)

def submission (u : Uploader) (disk : Disk) (paths : List Path) : List PendingFile :=
  stageFrom (u.lastId + 1) (u.unseen disk paths)

def submit (u : Uploader) (disk : Disk) (paths : List Path) : Uploader :=
  { u with
    snapshot := u.pickedPaths disk paths
    files := u.files ++ u.submission disk paths
    lastId := u.lastId + (u.submission disk paths).length }

structure Listed (u : Uploader) : Prop where
  distinct : Distinct u.files
  bound : ∀ f ∈ u.files, f.id ≤ u.lastId

theorem stagedFresh {u : Uploader} (listed : Listed u) {candidates : List Candidate}
    {f g : PendingFile} (old : f ∈ u.files) (new : g ∈ stageFrom (u.lastId + 1) candidates) :
    f.id ≠ g.id := by
  have above := (stagedFile new).2.2.1
  have below := listed.bound f old
  lia

theorem submissionPath (u : Uploader) (disk : Disk) (paths : List Path) (path : Path) :
    path ∈ (u.submission disk paths).map (·.path) ↔
      path ∈ u.pickedPaths disk paths ∧ path ∉ u.snapshot := by
  rw [submission,stageFromPaths]
  constructor
  · intro member
    obtain ⟨c,here,rfl⟩ := List.mem_map.mp member
    obtain ⟨mem,new⟩ := List.mem_filter.mp here
    exact ⟨List.mem_map.mpr ⟨c,mem,rfl⟩,by simpa using new⟩
  · rintro ⟨member,out⟩
    obtain ⟨c,mem,rfl⟩ := List.mem_map.mp member
    exact List.mem_map.mpr ⟨c,List.mem_filter.mpr ⟨mem,by simpa using out⟩,rfl⟩

def refused (u : Uploader) (disk : Disk) (paths : List Path) : Uploader :=
  { u with
    snapshot := (u.pickedPaths disk paths).filter u.snapshot.contains
    lastId := u.lastId + (u.submission disk paths).length }

theorem submitTakeBack {u : Uploader} (listed : Listed u) (disk : Disk) (paths : List Path) :
    (u.submit disk paths).takeBack (.choice ((u.submission disk paths).map (·.id))) =
      u.refused disk paths := by
  have kept : ∀ f ∈ u.files, ((u.submission disk paths).map (·.id)).contains f.id = false := by
    intro f old
    simp only [List.contains_eq_mem,decide_eq_false_iff_not,List.mem_map,not_exists,not_and]
    exact fun g new same => stagedFresh listed old new same.symm
  have taken : ∀ f ∈ u.submission disk paths,
      ((u.submission disk paths).map (·.id)).contains f.id = true := by
    intro f new
    simpa using ⟨f,new,rfl⟩
  have files : (u.files ++ u.submission disk paths).filter (fun f =>
      !((u.submission disk paths).map (·.id)).contains f.id) = u.files := by
    rw [List.filter_append,List.filter_eq_self.mpr (by simpa using kept),
      List.filter_eq_nil_iff.mpr (by simpa using taken),List.append_nil]
  have gone : (u.files ++ u.submission disk paths).filter (fun f =>
      ((u.submission disk paths).map (·.id)).contains f.id) = u.submission disk paths := by
    rw [List.filter_append,List.filter_eq_nil_iff.mpr (by simpa using kept),
      List.filter_eq_self.mpr (by simpa using taken),List.nil_append]
  have snapshot : (u.pickedPaths disk paths).filter
      (fun path => !((u.submission disk paths).map (·.path)).contains path) =
      (u.pickedPaths disk paths).filter u.snapshot.contains := by
    apply List.filter_congr
    intro path mem
    have new := submissionPath u disk paths path
    by_cases held : path ∈ u.snapshot <;> simp [new,held,mem]
  simp only [takeBack,forget,submit,refused,files,gone,snapshot]

inductive Chosen (u : Uploader) (disk : Disk) (paths : List Path) : Result → Prop where
  | listed (notices : List String) (ids : List FileId) (multiple : u.config.multiple = true) :
      Chosen u disk paths
        ({ u with
            dialogOpen := true
            files := u.files ++ stageFrom (u.lastId + 1) (u.picked disk paths)
            lastId := u.lastId + (u.picked disk paths).length },
          notices.map .notice ++ [.answer (.staged ids)])
  | seen (notices : List String) (single : u.config.multiple = false)
      (nothing : u.unseen disk paths = []) :
      Chosen u disk paths
        ({ u with snapshot := u.pickedPaths disk paths },
          notices.map .notice ++ [.answer (.staged [])])
  | failed (said : List Effect) {error : UploadError} (quiet : Quiet said) (silent : answers said = [])
      (single : u.config.multiple = false) (new : u.unseen disk paths ≠ [])
      (blocked : u.batch ≠ none ∨ ∃ fault, u.config.policyRequest = .error fault) :
      Chosen u disk paths (u.refused disk paths,said ++ [.answer (.failed error)])
  | asked (notices : List String) {request : Http.Request} (single : u.config.multiple = false)
      (free : u.batch = none) (made : u.config.policyRequest = .ok request)
      (new : u.unseen disk paths ≠ []) :
      Chosen u disk paths
        ({ u.submit disk paths with
            batch := some ⟨.choice ((u.submission disk paths).map (·.id)),
              .awaitingPolicy request (waitingIds (u.submit disk paths).files)⟩ },
          notices.map .notice ++ [.requestPolicy request])

theorem waitingSubmission (u : Uploader) (disk : Disk) (paths : List Path) :
    waitingIds (u.submit disk paths).files =
      waitingIds u.files ++ (u.submission disk paths).map (·.id) := by
  have all : (u.submission disk paths).filter (·.status = .waiting) = u.submission disk paths :=
    List.filter_eq_self.mpr fun f mem => by simpa using (stagedFile mem).1
  simp only [waitingIds,submit,List.filter_append,all,List.map_append]

theorem chooseSingle (u : Uploader) (disk : Disk) (paths : List Path)
    (single : u.config.multiple = false) : u.choose disk paths =
      if u.unseen disk paths = [] then
        ({ u with snapshot := u.pickedPaths disk paths },
          (Selection.of u.filter disk paths).notices.map .notice ++ [.answer (.staged [])])
      else
        (((u.submit disk paths).begin (.choice ((u.submission disk paths).map (·.id)))).1,
          (Selection.of u.filter disk paths).notices.map .notice ++
            ((u.submit disk paths).begin (.choice ((u.submission disk paths).map (·.id)))).2) := by
  have staged : ({ u with snapshot := u.pickedPaths disk paths } : Uploader).stage
      (u.unseen disk paths) = (u.submit disk paths,(u.submission disk paths).map (·.id)) := rfl
  have unstaged : (u.submission disk paths).map (·.id) = [] ↔ u.unseen disk paths = [] := by
    simp [submission,stageFromIds]
  unfold choose
  simp only [unseen,picked,pickedPaths] at staged
  simp only [single,Bool.false_eq_true,if_false,staged]
  split
  · rename_i nothing
    have same : u.submit disk paths = { u with snapshot := u.pickedPaths disk paths } := by
      simp [submit,submission,unstaged.mp nothing,stageFrom]
    rw [if_pos (unstaged.mp nothing),same]
  · rename_i new
    rw [if_neg (mt unstaged.mpr new)]

theorem chooseCases {u : Uploader} (listed : Listed u) (disk : Disk) (paths : List Path) :
    Chosen u disk paths (u.choose disk paths) := by
  by_cases multiple : u.config.multiple = true
  · simp only [choose,if_pos multiple,stage,stageFromLength]
    exact .listed _ _ multiple
  · have single : u.config.multiple = false := by simpa using multiple
    rw [chooseSingle u disk paths single]
    split
    · rename_i nothing
      exact .seen _ single nothing
    · rename_i new
      have fresh : (u.submission disk paths).map (·.id) ≠ [] := by
        simpa [submission,stageFromIds] using new
      have begun := beginCases (u.submit disk paths) (.choice ((u.submission disk paths).map (·.id)))
      generalize begin (u.submit disk paths) _ = result at begun
      cases begun with
      | failed said quiet silent blocked =>
        rw [submitTakeBack listed,← List.append_assoc]
        refine .failed _ ((quietNotices _).append quiet) (by simp [answersNotices,silent]) single new ?_
        rcases blocked with busy | nothing | unmade
        · exact .inl busy
        · exact absurd (congrArg (List.map (·.id)) (List.append_eq_nil_iff.mp nothing).2) fresh
        · exact .inr unmade
      | idle free settled =>
        rw [waitingSubmission] at settled
        exact absurd (List.append_eq_nil_iff.mp settled).2 fresh
      | asked free waits made => exact .asked _ single free made new

inductive Closed (u : Uploader) : Result → Prop where
  | busy (running : u.isUploading = true) : Closed u (answered u (.failed .batchInProgress))
  | cleared (free : u.batch = none) (shown : u.dialogOpen = true) :
      Closed u ({ u with dialogOpen := false, files := [] },[.dialogClosed,.answer .done])
  | already (free : u.batch = none) (shown : u.dialogOpen = false) : Closed u (answered u .done)

theorem closeCases (u : Uploader) : Closed u u.closeDialog := by
  unfold closeDialog
  split
  · rename_i running
    exact .busy running
  · rename_i idle
    have free : u.batch = none := idleIff.mp (by simpa using idle)
    split
    · rename_i shown
      exact .cleared free shown
    · rename_i hidden
      exact .already free (by simpa using hidden)

inductive Removed (u : Uploader) (id : FileId) : Result → Prop where
  | unknown (absent : u.file? id = none) : Removed u id (answered u (.failed (.unknownFile id)))
  | busy {file} (found : u.file? id = some file) (sent : file.status = .uploading) :
      Removed u id (answered u (.failed (.fileBusy id)))
  | done {file} (found : u.file? id = some file) (free : file.status ≠ .uploading) :
      Removed u id (answered { u with files := u.files.filter (·.id ≠ id) } .done)

theorem removeCases (u : Uploader) (id : FileId) : Removed u id (u.remove id) := by
  unfold remove
  split
  · rename_i absent
    exact .unknown absent
  · rename_i file found
    split
    · rename_i sent
      exact .busy found sent
    · rename_i free
      exact .done found free

inductive Renewed (u : Uploader) (id : FileId) : Result → Prop where
  | unknown (absent : u.file? id = none) :
      Renewed u id (answered { u with lastId := u.lastId + 1 } (.failed (.unknownFile id)))
  | refused {file} (found : u.file? id = some file) (other : file.status ≠ .failed) :
      Renewed u id (answered { u with lastId := u.lastId + 1 }
        (.failed (.invalidTransition file.status .waiting)))
  | done {file} (found : u.file? id = some file) (failed : file.status = .failed) :
      Renewed u id (answered
        { u with
          lastId := u.lastId + 1
          files := replace u.files id (file.restaged (u.lastId + 1)) }
        (.renewed (u.lastId + 1)))

theorem retryCases (u : Uploader) (id : FileId) : Renewed u id (u.retry id) := by
  unfold retry
  simp only
  split
  · rename_i absent
    exact .unknown absent
  · rename_i file found
    split
    · rename_i failed
      exact .done found failed
    · rename_i other
      exact .refused found other

structure Stays (u v : Uploader) : Prop where
  dialog : v.dialogOpen = true ∨ v.dialogOpen = u.dialogOpen
  empty : u.config.multiple = true → v.dialogOpen = false → u.files = [] → v.files = []

theorem Stays.refl (u : Uploader) : Stays u u := ⟨.inr rfl,fun _ _ empty => empty⟩

theorem Stays.back {u v : Uploader} (stays : Stays u v) (origin : Origin) :
    Stays u (v.takeBack origin) := by
  have dialog : (v.takeBack origin).dialogOpen = v.dialogOpen := by cases origin <;> rfl
  refine ⟨dialog ▸ stays.dialog,fun multiple closed empty => ?_⟩
  have files := v.takeBackFiles origin
  rw [stays.empty multiple (dialog ▸ closed) empty] at files
  exact List.sublist_nil.mp files

/-- A call is answered at once, and its batch stays; or the call begins a batch. -/
inductive Speaks (u : Uploader) (e : Event) : Result → Prop where
  | told {v answer} (messages : List String) (plain : denial answer = none)
      (same : v.batch = u.batch) (stays : Stays u v) :
      Speaks u e (v,messages.map .notice ++ [.answer answer])
  | hid {v} (shown : u.dialogOpen = true) (hidden : v.dialogOpen = false) (empty : v.files = [])
      (same : v.batch = u.batch) : Speaks u e (v,[.dialogClosed,.answer .done])
  | denied {v} (messages : List String) (failure : PolicyFailure) (free : u.batch = none)
      (same : v.batch = u.batch) (stays : Stays u v) :
      Speaks u e (v,messages.map .notice ++
        [.policyFailed failure,.answer (.failed (.policyFailed failure))])
  | asked {v origin request} (messages : List String) (free : u.batch = none)
      (made : u.config.policyRequest = .ok request)
      (begins : e = .start ∨ ∃ disk paths, e = .choose disk paths)
      (awaits : v.batch = some ⟨origin,.awaitingPolicy request (waitingIds v.files)⟩)
      (stays : Stays u v) : Speaks u e (v,messages.map .notice ++ [.requestPolicy request])

theorem beginSpeaks {u v : Uploader} {e : Event} (config : v.config = u.config)
    (same : v.batch = u.batch) (stays : Stays u v) (origin : Origin)
    (begins : e = .start ∨ ∃ disk paths, e = .choose disk paths) (messages : List String) :
    Speaks u e ((v.begin origin).1,messages.map .notice ++ (v.begin origin).2) := by
  have back : (v.takeBack origin).batch = u.batch := (v.takeBackRest origin).1.trans same
  have noticed : ∀ message : String, ∀ said : List Effect, messages.map .notice ++
      .notice message :: said = (messages ++ [message]).map .notice ++ said := by
    simp
  have begun := beginExact v origin
  generalize v.begin origin = result at begun
  cases begun with
  | busy running => exact .told messages rfl back (stays.back origin)
  | nothing free nothing =>
    rw [noticed]
    exact .told _ rfl back (stays.back origin)
  | settled free settled =>
    rw [noticed]
    exact .told _ (by cases origin <;> rfl) same stays
  | unmade free waits unmade =>
    exact .denied messages _ (same ▸ free) back (stays.back origin)
  | asked free waits made =>
    exact .asked messages (same ▸ free) (config ▸ made) begins rfl ⟨stays.dialog,stays.empty⟩

theorem chooseSpeaks (u : Uploader) (disk : Disk) (paths : List Path) :
    Speaks u (.choose disk paths) (u.choose disk paths) := by
  by_cases multiple : u.config.multiple = true
  · simp only [choose,if_pos multiple]
    exact .told _ rfl rfl ⟨.inl rfl,fun _ closed => by cases closed⟩
  · have single : u.config.multiple = false := by simpa using multiple
    rw [chooseSingle u disk paths single]
    split
    · exact .told _ rfl rfl ⟨.inr rfl,fun _ _ empty => empty⟩
    · have submits : Stays u (u.submit disk paths) :=
        ⟨.inr rfl,fun multiple => by simp [single] at multiple⟩
      exact beginSpeaks (u := u) (v := u.submit disk paths) rfl rfl submits _ (.inr ⟨disk,paths,rfl⟩) _

theorem callSpeaks {u : Uploader} {e : Event} {result : Result} (call : e.isCall = true)
    (step : u.step? e = some result) : Speaks u e result := by
  cases e with
  | openDialog =>
    cases Option.some.inj step
    exact .told [] rfl rfl ⟨.inl rfl,fun _ closed => by cases closed⟩
  | closeDialog =>
    have closed := closeCases u
    rw [Option.some.inj step] at closed
    cases closed with
    | busy running => exact .told [] rfl rfl (.refl u)
    | cleared free shown => exact .hid shown rfl rfl rfl
    | already free shown => exact .told [] rfl rfl (.refl u)
  | choose disk paths =>
    have chosen := chooseSpeaks u disk paths
    rwa [Option.some.inj step] at chosen
  | remove id =>
    have removed := removeCases u id
    rw [Option.some.inj step] at removed
    cases removed with
    | unknown absent => exact .told [] rfl rfl (.refl u)
    | busy found sent => exact .told [] rfl rfl (.refl u)
    | done found free =>
      exact .told [] rfl rfl ⟨.inr rfl,fun _ _ empty => by simp [empty]⟩
  | retry id =>
    have renewed := retryCases u id
    rw [Option.some.inj step] at renewed
    cases renewed with
    | unknown absent => exact .told [] rfl rfl ⟨.inr rfl,fun _ _ empty => empty⟩
    | refused found other => exact .told [] rfl rfl ⟨.inr rfl,fun _ _ empty => empty⟩
    | done found failed =>
      exact .told [] rfl rfl ⟨.inr rfl,fun _ _ empty => by simp [empty,replace]⟩
  | start =>
    have begun := beginSpeaks (e := .start) rfl rfl (.refl u) .start (.inl rfl) []
    rwa [Option.some.inj step] at begun
  | policyAnswered reply now supply => cases call
  | fileRead position contents => cases call
  | postAnswered position reply => cases call

section Speaks
variable {u : Uploader} {e : Event} {result : Result} (spoke : Speaks u e result)
include spoke

theorem Speaks.quiet : Quiet result.2 := by
  cases spoke with
  | hid shown hidden empty same => exact ⟨rfl,rfl,rfl⟩
  | told messages plain same stays => exact (quietNotices messages).append ⟨rfl,rfl,rfl⟩
  | denied messages failure free same stays => exact (quietNotices messages).append ⟨rfl,rfl,rfl⟩
  | asked messages free made begins awaits stays =>
    exact (quietNotices messages).append ⟨rfl,rfl,rfl⟩

theorem Speaks.batch : (result.1.batch = u.batch ∧ ∃ answer, answers result.2 = [answer]) ∨
    (u.batch = none ∧ answers result.2 = [] ∧ ∃ origin request,
      result.1.batch = some ⟨origin,.awaitingPolicy request (waitingIds result.1.files)⟩) := by
  cases spoke with
  | hid shown hidden empty same => exact .inl ⟨same,_,rfl⟩
  | told messages plain same stays =>
    exact .inl ⟨same,_,by rw [answersAppend,answersNotices]; rfl⟩
  | denied messages failure free same stays =>
    exact .inl ⟨same,_,by rw [answersAppend,answersNotices]; rfl⟩
  | asked messages free made begins awaits stays =>
    exact .inr ⟨free,by rw [answersAppend,answersNotices]; rfl,_,_,awaits⟩

theorem Speaks.later (silent : answers result.2 = []) :
    e = .start ∨ ∃ disk paths, e = .choose disk paths := by
  cases spoke with
  | hid shown hidden empty same => cases silent
  | told messages plain same stays =>
    rw [answersAppend,answersNotices] at silent
    cases silent
  | denied messages failure free same stays =>
    rw [answersAppend,answersNotices] at silent
    cases silent
  | asked messages free made begins awaits stays => exact begins

theorem Speaks.made {request : Http.Request} (asked : request ∈ requests result.2) :
    u.config.policyRequest = .ok request := by
  cases spoke with
  | hid shown hidden empty same => cases asked
  | told messages plain same stays =>
    rw [requestsAppend,requestsNotices] at asked
    cases asked
  | denied messages failure free same stays =>
    rw [requestsAppend,requestsNotices] at asked
    cases asked
  | asked messages free made begins awaits stays =>
    rw [requestsAppend,requestsNotices] at asked
    cases List.mem_singleton.mp asked
    exact made

end Speaks

structure Tended (u : Uploader) (e : Event) (v : Uploader) : Prop where
  config : v.config = u.config
  kind : v.kind = u.kind
  listed : Listed v
  last : u.lastId ≤ v.lastId
  new : ∀ f ∈ v.files, f ∈ u.files ∨ f.status = .waiting ∧ f.key = none ∧ u.lastId < f.id
  kept : ∀ f ∈ u.files, f ∉ v.files → f.status ≠ .uploading ∧
    (e = .remove f.id ∨ e = .retry f.id ∧ f.status = .failed ∨
      e = .closeDialog ∧ u.batch = none)

theorem tendedAppend {u v : Uploader} {e : Event} (listed : Listed u) {candidates : List Candidate}
    (config : v.config = u.config) (kind : v.kind = u.kind)
    (files : v.files = u.files ++ stageFrom (u.lastId + 1) candidates)
    (last : v.lastId = u.lastId + candidates.length) : Tended u e v where
  config := config
  kind := kind
  listed := by
    constructor
    · unfold Distinct
      rw [files,List.map_append]
      refine List.nodup_append.mpr ⟨listed.distinct,?_,?_⟩
      · rw [stageFromIds]
        exact List.nodup_range'
      · intro id old id' new
        obtain ⟨f,hf,rfl⟩ := List.mem_map.mp old
        obtain ⟨g,hg,rfl⟩ := List.mem_map.mp new
        exact stagedFresh listed hf hg
    · intro f mem
      rw [files] at mem
      rw [last]
      rcases List.mem_append.mp mem with old | new
      · exact Nat.le_trans (listed.bound f old) (Nat.le_add_right _ _)
      · have below := (stagedFile new).2.2.2
        lia
  last := by rw [last]; exact Nat.le_add_right _ _
  new := by
    intro f mem
    rw [files] at mem
    rcases List.mem_append.mp mem with old | new
    · exact .inl old
    · have facts := stagedFile new
      exact .inr ⟨facts.1,facts.2.1,facts.2.2.1⟩
  kept := by
    intro f old gone
    rw [files] at gone
    exact absurd (List.mem_append_left _ old) gone

theorem tendedSame {u v : Uploader} {e : Event} (listed : Listed u) (config : v.config = u.config)
    (kind : v.kind = u.kind) (files : v.files = u.files) (last : u.lastId ≤ v.lastId) :
    Tended u e v where
  config := config
  kind := kind
  listed := ⟨files ▸ listed.distinct,fun f mem => Nat.le_trans (listed.bound f (files ▸ mem)) last⟩
  last := last
  new := fun _ mem => .inl (files ▸ mem)
  kept := fun _ mem gone => absurd (files ▸ mem) gone

theorem tendedRemove {u : Uploader} (listed : Listed u) {id : FileId} {file : PendingFile}
    (found : u.file? id = some file) (busy : file.status ≠ .uploading) :
    Tended u (.remove id) { u with files := u.files.filter (·.id ≠ id) } where
  config := rfl
  kind := rfl
  listed := ⟨distinctFilter listed.distinct _,fun f mem => listed.bound f (List.mem_filter.mp mem).1⟩
  last := Nat.le_refl _
  new := fun f mem => .inl (List.mem_filter.mp mem).1
  kept := by
    intro f old gone
    have same : f.id = id := by
      by_contra other
      exact gone (List.mem_filter.mpr ⟨old,by simpa using other⟩)
    have it := (foundIff listed.distinct).mp found
    rw [sameFile listed.distinct old it.1 (same.trans it.2.symm)]
    exact ⟨busy,.inl (by rw [it.2])⟩

theorem tendedRetry {u : Uploader} (listed : Listed u) {id : FileId} {file : PendingFile}
    (found : u.file? id = some file) (failed : file.status = .failed) :
    Tended u (.retry id) { u with
      lastId := u.lastId + 1
      files := replace u.files id (file.restaged (u.lastId + 1)) } where
  config := rfl
  kind := rfl
  listed := by
    constructor
    · have unused : ∀ f ∈ u.files, f.id ≠ u.lastId + 1 := by
        intro f old
        have below := listed.bound f old
        lia
      exact distinctRenewed listed.distinct unused rfl
    · intro f mem
      obtain ⟨g,old,become⟩ := List.mem_map.mp mem
      have below := listed.bound g old
      split at become
      · subst f
        exact Nat.le_refl _
      · subst f
        exact Nat.le_succ_of_le below
  last := Nat.le_succ _
  new := by
    intro f mem
    obtain ⟨g,old,become⟩ := List.mem_map.mp mem
    split at become
    · subst f
      exact .inr ⟨rfl,rfl,Nat.lt_succ_self _⟩
    · subst f
      exact .inl old
  kept := by
    intro f old gone
    have same : f.id = id := by
      by_contra other
      exact gone (List.mem_map.mpr ⟨f,old,by simp [other]⟩)
    have it := (foundIff listed.distinct).mp found
    rw [sameFile listed.distinct old it.1 (same.trans it.2.symm)]
    exact ⟨by simp [failed],.inr (.inl ⟨by rw [it.2],failed⟩)⟩

structure Called (u : Uploader) (e : Event) (v : Uploader) (effects : List Effect) : Prop
    extends Tended u e v where
  quiet : Quiet effects
  batch : (v.batch = u.batch ∧ ∃ answer, answers effects = [answer]) ∨
    (u.batch = none ∧ answers effects = [] ∧ ∃ origin request,
      v.batch = some ⟨origin,.awaitingPolicy request (waitingIds v.files)⟩)

theorem closeTended {u : Uploader} (listed : Listed u)
    (rest : u.batch = none → ∀ f ∈ u.files, f.status ≠ .uploading) :
    Tended u .closeDialog u.closeDialog.1 := by
  have closed := closeCases u
  generalize u.closeDialog = result at closed
  cases closed with
  | busy running => exact tendedSame listed rfl rfl rfl (Nat.le_refl _)
  | cleared free shown =>
    exact ⟨rfl,rfl,⟨List.nodup_nil,by simp⟩,Nat.le_refl _,by simp,
      fun f old _ => ⟨rest free f old,.inr (.inr ⟨rfl,free⟩)⟩⟩
  | already free shown => exact tendedSame listed rfl rfl rfl (Nat.le_refl _)

theorem chooseTended {u : Uploader} (listed : Listed u) (disk : Disk) (paths : List Path) :
    Tended u (.choose disk paths) (u.choose disk paths).1 := by
  have chosen := chooseCases listed disk paths
  generalize u.choose disk paths = result at chosen
  cases chosen with
  | listed messages ids multiple => exact tendedAppend listed rfl rfl rfl rfl
  | seen messages single nothing => exact tendedSame listed rfl rfl rfl (Nat.le_refl _)
  | failed said quiet silent single new blocked =>
    exact tendedSame listed rfl rfl rfl (Nat.le_add_right _ _)
  | asked messages single free made new =>
    exact tendedAppend listed rfl rfl rfl (by simp [submit,submission,stageFromLength])

theorem startTended {u : Uploader} (listed : Listed u) : Tended u .start (u.begin .start).1 := by
  have begun := beginCases u .start
  generalize u.begin .start = result at begun
  cases begun with
  | failed said quiet silent blocked => exact tendedSame listed rfl rfl rfl (Nat.le_refl _)
  | idle free settled => exact tendedSame listed rfl rfl rfl (Nat.le_refl _)
  | asked free waits made => exact tendedSame listed rfl rfl rfl (Nat.le_refl _)

theorem callTended {u : Uploader} {e : Event} {result : Result} (listed : Listed u)
    (rest : u.batch = none → ∀ f ∈ u.files, f.status ≠ .uploading) (call : e.isCall = true)
    (step : u.step? e = some result) : Tended u e result.1 := by
  cases e with
  | openDialog =>
    cases Option.some.inj step
    exact tendedSame listed rfl rfl rfl (Nat.le_refl _)
  | closeDialog =>
    have tended := closeTended listed rest
    rwa [Option.some.inj step] at tended
  | choose disk paths =>
    have tended := chooseTended listed disk paths
    rwa [Option.some.inj step] at tended
  | remove id =>
    have removed := removeCases u id
    rw [Option.some.inj step] at removed
    cases removed with
    | unknown absent => exact tendedSame listed rfl rfl rfl (Nat.le_refl _)
    | busy found sent => exact tendedSame listed rfl rfl rfl (Nat.le_refl _)
    | done found free => exact tendedRemove listed found free
  | retry id =>
    have renewed := retryCases u id
    rw [Option.some.inj step] at renewed
    cases renewed with
    | unknown absent => exact tendedSame listed rfl rfl rfl (Nat.le_succ _)
    | refused found other => exact tendedSame listed rfl rfl rfl (Nat.le_succ _)
    | done found failed => exact tendedRetry listed found failed
  | start =>
    have tended := startTended listed
    rwa [Option.some.inj step] at tended
  | policyAnswered reply now supply => cases call
  | fileRead position contents => cases call
  | postAnswered position reply => cases call

theorem callCases {u v : Uploader} {e : Event} {effects : List Effect} (listed : Listed u)
    (rest : u.batch = none → ∀ f ∈ u.files, f.status ≠ .uploading) (call : e.isCall = true)
    (step : u.step? e = some (v,effects)) : Called u e v effects where
  toTended := callTended listed rest call step
  quiet := (callSpeaks call step).quiet
  batch := (callSpeaks call step).batch

end SignedUpload.Uploader

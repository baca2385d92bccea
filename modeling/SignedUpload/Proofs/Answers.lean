import SignedUpload.Proofs.Calls
import SignedUpload.Proofs.Dispatch

/-! What the answers do that a batch waits for. An answer ends a policy request, a reading or a
posting; with the last open job the batch is over and its files are settled. -/
namespace SignedUpload.Uploader

def posting (config : Config) (policy : Policy) (job : Job) :
    Except DiskFault Bytes → Except UploadError Http.Request
  | .error fault => .error (.disk fault)
  | .ok data => match config.storageRequest job.key policy ⟨job.name,job.contentType,data⟩ with
    | .error fault => .error (.transport fault)
    | .ok request => .ok request

inductive Answered (u : Uploader) : Event → Result → Prop where
  | denied {origin request waiting reply now supply failure}
      (awaiting : u.batch = some ⟨origin,.awaitingPolicy request waiting⟩)
      (denied : u.config.policyFrom request reply now = .error failure) :
      Answered u (.policyAnswered reply now supply) (u.policyFailed origin failure)
  | granted {origin request waiting reply now supply policy jobs sent}
      (awaiting : u.batch = some ⟨origin,.awaitingPolicy request waiting⟩)
      (granted : u.config.policyFrom request reply now = .ok policy)
      (given : dispatch (.fresh u.config.prefixPath) supply 0 u.files waiting = some (jobs,sent)) :
      Answered u (.policyAnswered reply now supply)
        (({ u with files := sent } : Uploader).advance origin ⟨policy,jobs,[],.start jobs.length,none⟩)
  | unsent {origin t position job contents error}
      (under : u.batch = some ⟨origin,.transferring t⟩)
      (flight : flight? t position = some ⟨job,.reading⟩)
      (broken : posting u.config t.policy job contents = .error error) :
      Answered u (.fileRead position contents) (u.resolve origin t job (.error error))
  | posted {origin t position job contents request}
      (under : u.batch = some ⟨origin,.transferring t⟩)
      (flight : flight? t position = some ⟨job,.reading⟩)
      (sent : posting u.config t.policy job contents = .ok request) :
      Answered u (.fileRead position contents)
        (u.underWay origin (setStage t position (.posting request)),[.postFile job request])
  | replied {origin t position job request reply}
      (under : u.batch = some ⟨origin,.transferring t⟩)
      (flight : flight? t position = some ⟨job,.posting request⟩) :
      Answered u (.postAnswered position reply)
        (u.resolve origin t job (Config.stored request reply))

theorem answerCases {u : Uploader} {e : Event} {result : Result} (answer : e.isCall = false)
    (step : u.step? e = some result) : Answered u e result := by
  cases e with
  | policyAnswered reply now supply =>
    simp only [step?,policyAnswered] at step
    split at step <;> try contradiction
    rename_i origin request waiting awaiting
    split at step
    · rename_i failure denied
      cases Option.some.inj step
      exact .denied awaiting denied
    · rename_i policy granted
      obtain ⟨⟨jobs,sent⟩,given,rfl⟩ := Option.map_eq_some_iff.mp step
      exact .granted awaiting granted given
  | fileRead position contents =>
    simp only [step?,fileRead] at step
    split at step <;> try contradiction
    rename_i origin t under
    split at step <;> try contradiction
    rename_i job flight
    cases contents with
    | error fault =>
      cases Option.some.inj step
      exact .unsent under flight rfl
    | ok data =>
      simp only at step
      split at step
      · rename_i fault broken
        cases Option.some.inj step
        exact .unsent under flight (by simp [posting,broken])
      · rename_i request made
        cases Option.some.inj step
        exact .posted under flight (by simp [posting,made])
  | postAnswered position reply =>
    simp only [step?,postAnswered] at step
    split at step <;> try contradiction
    rename_i origin t under
    split at step <;> try contradiction
    rename_i job request flight
    cases Option.some.inj step
    exact .replied under flight
  | openDialog => cases answer
  | closeDialog => cases answer
  | choose disk paths => cases answer
  | remove id => cases answer
  | retry id => cases answer
  | start => cases answer

theorem Answered.busy {u : Uploader} {e : Event} {result : Result}
    (answered : Answered u e result) : u.isUploading = true := by
  cases answered with
  | denied batch _ => simp [isUploading,batch]
  | granted batch _ _ => simp [isUploading,batch]
  | unsent batch _ _ => simp [isUploading,batch]
  | posted batch _ _ => simp [isUploading,batch]
  | replied batch _ => simp [isUploading,batch]

def pendingJobs (t : Transfer) : List Job := t.queue ++ t.flights.map (·.job)

def openJobs (u : Uploader) : List Job :=
  match u.batch with
  | some ⟨_,.transferring t⟩ => pendingJobs t
  | _ => []

def startable (u : Uploader) (t : Transfer) : List Job := t.queue.take (u.room t)

def fill (u : Uploader) (t : Transfer) : Transfer :=
  { t with
    queue := t.queue.drop (u.room t)
    flights := t.flights ++ (u.startable t).map fun job => ⟨job,.reading⟩ }

theorem fillPending (u : Uploader) (t : Transfer) :
    (pendingJobs (u.fill t)).Perm (pendingJobs t) := by
  have started : ((u.startable t).map fun job => (⟨job,.reading⟩ : Flight)).map (·.job) =
      u.startable t := by
    rw [List.map_map]
    exact List.map_id _
  simp only [pendingJobs,fill,List.map_append,started]
  have moved : (t.queue.drop (u.room t) ++ (t.flights.map (·.job) ++ u.startable t)).Perm
      (t.queue.drop (u.room t) ++ (u.startable t ++ t.flights.map (·.job))) :=
    List.perm_append_comm.append_left _
  refine moved.trans ?_
  rw [← List.append_assoc]
  refine List.Perm.append_right _ (List.perm_append_comm.trans ?_)
  rw [startable,List.take_append_drop]

def settled (u : Uploader) : Uploader :=
  let u := { u with batch := none }
  if u.config.multiple then u
  else { u.forget (fun f => f.status = .failed) with files := [] }

theorem settledRest (u : Uploader) : u.settled.batch = none ∧ u.settled.lastId = u.lastId ∧
    u.settled.config = u.config := by
  simp only [settled]
  split <;> exact ⟨rfl,rfl,rfl⟩

theorem settledSingle {u : Uploader} (single : u.config.multiple = false) : u.settled =
    { ({ u with batch := none } : Uploader).forget (fun f => f.status = .failed) with
      files := [] } := by
  simp [settled,single]

theorem reportEq (u : Uploader) (origin : Origin) (objects : List UploadedObject) :
    u.report origin objects =
      (u.settled,[.allUploaded objects,.answer (succeed origin objects)]) := rfl

theorem advanceCases (u : Uploader) (origin : Origin) (t : Transfer) :
    (pendingJobs t = [] ∧ u.advance origin t = u.report origin (t.completed.getD [])) ∨
    (pendingJobs t ≠ [] ∧
      u.advance origin t = (u.underWay origin (u.fill t),(u.startable t).map .loadFile)) := by
  have same : pendingJobs (u.fill t) = [] ↔ pendingJobs t = [] := by
    constructor
    · intro empty
      exact List.perm_nil.mp (empty ▸ (u.fillPending t).symm)
    · intro empty
      exact List.perm_nil.mp (empty ▸ u.fillPending t)
  have test : (u.fill t).queue = [] ∧ (u.fill t).flights = [] ↔ pendingJobs t = [] := by
    rw [← same]
    simp [pendingJobs]
  unfold advance
  simp only
  split
  · rename_i finished
    exact .inl ⟨test.mp finished,rfl⟩
  · rename_i going
    exact .inr ⟨fun empty => going (test.mpr empty),rfl⟩

section Loads
variable (jobs : List Job)

theorem loadsLoads : loads (jobs.map .loadFile) = jobs := by
  simp [loads,List.filterMap_map]

theorem postsLoads : posts (jobs.map .loadFile) = [] := by
  simp [posts,List.filterMap_map]

theorem reportsLoads : reports (jobs.map .loadFile) = [] := by
  simp [reports,List.filterMap_map]

theorem answersLoads : answers (jobs.map .loadFile) = [] := by
  simp [answers,List.filterMap_map]

theorem requestsLoads : requests (jobs.map .loadFile) = [] := by
  simp [requests,List.filterMap_map]

theorem noticesLoads : notices (jobs.map .loadFile) = [] := by
  simp [notices,List.filterMap_map]

theorem denialsLoads : denials (jobs.map .loadFile) = [] := by
  simp [denials,List.filterMap_map]

theorem closingsLoads : closings (jobs.map .loadFile) = 0 := by
  simp [closings,List.count_eq_zero]

end Loads

def statusOf : Except UploadError Unit → FileStatus
  | .ok _ => .succeeded
  | .error _ => .failed

theorem statusFinal (outcome : Except UploadError Unit) : Final (statusOf outcome) := by
  cases outcome
  · exact .inr rfl
  · exact .inl rfl

def uploaded (config : Config) (job : Job) : UploadedObject :=
  ⟨job.name,job.contentType,config.objectUrl job.key⟩

def counted (config : Config) (tally : Tally) (job : Job) : Except UploadError Unit → Tally
  | .ok _ => tally.recordSuccess job.position (uploaded config job)
  | .error _ => tally.recordFailure

def closeJob (config : Config) (t : Transfer) (job : Job) (outcome : Except UploadError Unit) :
    Transfer :=
  { t with
    flights := t.flights.filter (·.job.position ≠ job.position)
    tally := (counted config t.tally job outcome).takeIfComplete.2
    completed := (counted config t.tally job outcome).takeIfComplete.1.or t.completed }

theorem resolveEq (u : Uploader) (origin : Origin) (t : Transfer) (job : Job)
    (outcome : Except UploadError Unit) :
    u.resolve origin t job outcome =
      ({ u with files := markResolved u.files job.id (statusOf outcome) } : Uploader).advance origin
        (closeJob u.config t job outcome) := by
  cases outcome <;> rfl

inductive Comes (origin : Origin) : Result → Prop where
  | reading {v t} (jobs : List Job) (under : v.batch = some ⟨origin,.transferring t⟩) :
      Comes origin (v,jobs.map .loadFile)
  | posting {v t} (job : Job) (request : Http.Request)
      (under : v.batch = some ⟨origin,.transferring t⟩) : Comes origin (v,[.postFile job request])
  | reported {v} (objects : List UploadedObject) (free : v.batch = none) :
      Comes origin (v,[.allUploaded objects,.answer (succeed origin objects)])
  | denied {v} (failure : PolicyFailure) (free : v.batch = none) :
      Comes origin (v,[.policyFailed failure,.answer (.failed (.policyFailed failure))])

theorem advanceComes (u : Uploader) (origin : Origin) (t : Transfer) :
    Comes origin (u.advance origin t) := by
  rcases advanceCases u origin t with ⟨-,finished⟩ | ⟨-,going⟩
  · rw [finished,reportEq]
    exact .reported _ u.settledRest.1
  · rw [going]
    exact .reading _ rfl

theorem answerComes {u : Uploader} {e : Event} {result : Result} (answered : Answered u e result) :
    ∃ origin phase, u.batch = some ⟨origin,phase⟩ ∧ Comes origin result := by
  cases answered with
  | @denied origin _ _ _ _ _ _ awaiting denied =>
    rw [policyFailedEq]
    exact ⟨origin,_,awaiting,.denied _ (takeBackRest _ origin).1⟩
  | granted awaiting granted given => exact ⟨_,_,awaiting,advanceComes _ _ _⟩
  | unsent under flight broken =>
    rw [resolveEq]
    exact ⟨_,_,under,advanceComes _ _ _⟩
  | posted under flight sent => exact ⟨_,_,under,.posting _ _ rfl⟩
  | replied under flight =>
    rw [resolveEq]
    exact ⟨_,_,under,advanceComes _ _ _⟩

theorem flightIff {t : Transfer} (once : ((pendingJobs t).map (·.position)).Nodup) {position : Nat}
    {flight : Flight} : flight? t position = some flight ↔
      flight ∈ t.flights ∧ flight.job.position = position := by
  have distinct : (t.flights.map (·.job.position)).Nodup := by
    have tail : ((t.flights.map (·.job)).map (·.position)).Nodup := by
      rw [pendingJobs,List.map_append] at once
      exact (List.nodup_append.mp once).2.1
    rw [List.map_map] at tail
    exact tail
  exact keyedIff distinct

theorem flightPending {t : Transfer} {flight : Flight} (flies : flight ∈ t.flights) :
    flight.job ∈ pendingJobs t :=
  List.mem_append_right _ (List.mem_map.mpr ⟨flight,flies,rfl⟩)

theorem queuedApart {t : Transfer} (once : ((pendingJobs t).map (·.position)).Nodup)
    {flight : Flight} (flies : flight ∈ t.flights) :
    ∀ j ∈ t.queue, j.position ≠ flight.job.position := by
  intro j queued same
  have split : (t.queue.map (·.position) ++ (t.flights.map (·.job)).map (·.position)).Nodup := by
    simpa [pendingJobs] using once
  have taken : flight.job.position ∈ (t.flights.map (·.job)).map (·.position) :=
    List.mem_map.mpr ⟨flight.job,List.mem_map.mpr ⟨flight,flies,rfl⟩,rfl⟩
  exact (List.nodup_append.mp split).2.2 _ (List.mem_map.mpr ⟨j,queued,rfl⟩) _ taken same

theorem closePending (config : Config) {t : Transfer} {job : Job} {stage : Stage}
    (once : ((pendingJobs t).map (·.position)).Nodup) (flies : ⟨job,stage⟩ ∈ t.flights)
    (outcome : Except UploadError Unit) :
    (pendingJobs t).Perm (job :: pendingJobs (closeJob config t job outcome)) := by
  have here : job ∈ pendingJobs t := flightPending flies
  have apart := queuedApart once flies
  have left : pendingJobs (closeJob config t job outcome) =
      (pendingJobs t).filter (·.position ≠ job.position) := by
    have queue : t.queue.filter (·.position ≠ job.position) = t.queue :=
      List.filter_eq_self.mpr (by simpa using apart)
    simp only [pendingJobs,closeJob,List.filter_append,queue,List.filter_map,Function.comp_def]
  have distinct : (pendingJobs t).Nodup := List.Nodup.of_map _ once
  rw [left,List.perm_ext_iff_of_nodup distinct
    (List.nodup_cons.mpr ⟨by simp,distinct.sublist List.filter_sublist⟩)]
  intro j
  simp only [List.mem_cons,List.mem_filter,ne_eq,decide_not,Bool.not_eq_true',decide_eq_false_iff_not]
  constructor
  · intro mem
    by_cases same : j.position = job.position
    · exact .inl (List.inj_on_of_nodup_map once mem here same)
    · exact .inr ⟨mem,same⟩
  · rintro (rfl | ⟨mem,-⟩)
    · exact here
    · exact mem

theorem stagePending (t : Transfer) (position : Nat) (stage : Stage) :
    pendingJobs (setStage t position stage) = pendingJobs t := by
  simp only [pendingJobs,setStage,List.map_map]
  congr 1
  apply List.map_congr_left
  intro f _
  simp only [Function.comp_apply]
  split <;> rfl

end SignedUpload.Uploader

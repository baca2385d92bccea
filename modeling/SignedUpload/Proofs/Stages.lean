import SignedUpload.Proofs.Tracing
import SignedUpload.Proofs.Transit

/-! The way of an id: it waits, is queued, read and posted. Each step moves ids on and none of them back,
so over a run each one is dispatched, read and posted at most once. -/
namespace SignedUpload.Uploader

structure Spends (ahead : Uploader → FileId → Prop) (u v : Uploader) (ids : List FileId) : Prop where
  once : ids.Nodup
  before : ∀ id ∈ ids, (ahead u id ∨ u.lastId < id) ∧ id ≤ v.lastId
  after : ∀ id ∈ ids, ¬ ahead v id
  left : ∀ id, ahead v id → ahead u id ∨ u.lastId < id
  last : u.lastId ≤ v.lastId

theorem Spends.refl (ahead : Uploader → FileId → Prop) (u : Uploader) : Spends ahead u u [] :=
  ⟨List.nodup_nil,by simp,by simp,fun _ => .inl,Nat.le_refl _⟩

theorem Spends.trans {ahead : Uploader → FileId → Prop} {u v w : Uploader} {xs ys : List FileId}
    (first : Spends ahead u v xs) (second : Spends ahead v w ys) : Spends ahead u w (xs ++ ys) := by
  have above : ∀ id, v.lastId < id → u.lastId < id := fun _ => Nat.lt_of_le_of_lt first.last
  -- what is at hand in between was so before, or was given out since
  have back : ∀ id, ahead v id ∨ v.lastId < id → ahead u id ∨ u.lastId < id := by
    rintro id (still | new)
    · exact first.left id still
    · exact .inr (above id new)
  refine ⟨List.nodup_append.mpr ⟨first.once,second.once,?_⟩,?_,?_,?_,
    Nat.le_trans first.last second.last⟩
  · rintro id spent _ again rfl
    rcases (second.before id again).1 with still | new
    · exact first.after id spent still
    · exact absurd (first.before id spent).2 (Nat.not_le_of_lt new)
  · intro id mem
    rcases List.mem_append.mp mem with spent | spent
    · exact ⟨(first.before id spent).1,Nat.le_trans (first.before id spent).2 second.last⟩
    · exact ⟨back id (second.before id spent).1,(second.before id spent).2⟩
  · intro id mem again
    rcases List.mem_append.mp mem with spent | spent
    · rcases second.left id again with still | new
      · exact first.after id spent still
      · exact absurd (first.before id spent).2 (Nat.not_le_of_lt new)
    · exact second.after id spent again
  · exact fun id later => back id (second.left id later)

def Waiting (u : Uploader) (id : FileId) : Prop := id ∈ waitingIds u.files

def Queued (u : Uploader) (id : FileId) : Prop :=
  ∃ origin t, u.batch = some ⟨origin,.transferring t⟩ ∧ ∃ job ∈ t.queue, job.id = id

def Reading (u : Uploader) (id : FileId) : Prop :=
  ∃ origin t, u.batch = some ⟨origin,.transferring t⟩ ∧
    ∃ job, ⟨job,.reading⟩ ∈ t.flights ∧ job.id = id

def Unread (u : Uploader) (id : FileId) : Prop := u.Waiting id ∨ u.Queued id

def Unsent (u : Uploader) (id : FileId) : Prop := u.Waiting id ∨ u.Queued id ∨ u.Reading id

def dispatchedBy (u : Uploader) : Event → List Job
  | .policyAnswered reply now supply => match u.batch with
    | some ⟨_,.awaitingPolicy request waiting⟩ => match u.config.policyFrom request reply now with
      | .error _ => []
      | .ok _ => match dispatch (.fresh u.config.prefixPath) supply 0 u.files waiting with
        | none => []
        | some (jobs,_) => jobs
    | _ => []
  | _ => []

def dispatches (u : Uploader) : List Event → List Job
  | [] => []
  | e :: rest => match u.step? e with
    | none => []
    | some (v,_) => u.dispatchedBy e ++ v.dispatches rest

/-- How a step moves ids on: from waiting into the queue, on to be read, and on to be posted. What has
passed a stage is behind it. -/
structure Shifts (u v : Uploader) (made loaded posted : List Job) : Prop where
  waiting : ∀ id, v.Waiting id → u.Waiting id ∨ u.lastId < id
  queued : ∀ id, v.Queued id → u.Queued id ∨ ∃ job ∈ made, job.id = id
  reading : ∀ id, v.Reading id → u.Reading id ∨ ∃ job ∈ loaded, job.id = id
  fromWaiting : ∀ job ∈ made, u.Waiting job.id
  fromQueue : ∀ job ∈ loaded, u.Queued job.id ∨ job ∈ made
  fromReading : ∀ job ∈ posted, u.Reading job.id
  onceMade : (made.map (·.id)).Nodup
  onceLoaded : (loaded.map (·.id)).Nodup
  oncePosted : (posted.map (·.id)).Nodup
  pastWaiting : ∀ job ∈ made, ¬ v.Waiting job.id
  pastQueue : ∀ job ∈ loaded, ¬ v.Waiting job.id ∧ ¬ v.Queued job.id
  pastReading : ∀ job ∈ posted, ¬ v.Waiting job.id ∧ ¬ v.Queued job.id ∧ ¬ v.Reading job.id

section Stages
variable {u v : Uploader} {id : FileId} {origin : Origin} {t : Transfer} {job : Job}

theorem queuedUnder (under : u.batch = some ⟨origin,.transferring t⟩) :
    u.Queued id ↔ ∃ job ∈ t.queue, job.id = id := by
  simp [Queued,under]

theorem readingUnder (under : u.batch = some ⟨origin,.transferring t⟩) :
    u.Reading id ↔ ∃ job, ⟨job,.reading⟩ ∈ t.flights ∧ job.id = id := by
  simp [Reading,under]

theorem Sound.openGiven (sound : Sound u) (under : u.batch = some ⟨origin,.transferring t⟩)
    (pending : job ∈ pendingJobs t) : job.id ≤ u.lastId := by
  obtain ⟨f,mem,carries⟩ := (sound.runs under).1.sent job pending
  exact carries.id ▸ sound.bound f mem

theorem Sound.unsentGiven (sound : Sound u) (unsent : u.Unsent id) : id ≤ u.lastId := by
  rcases unsent with waits | ⟨origin,t,under,job,mem,rfl⟩ | ⟨origin,t,under,job,flies,rfl⟩
  · obtain ⟨f,mem,-,rfl⟩ := waitingIff.mp waits
    exact sound.bound f mem
  · exact sound.openGiven under (List.mem_append_left _ mem)
  · exact sound.openGiven under (flightPending flies)

theorem Sound.openUnwaiting (sound : Sound u) (under : u.batch = some ⟨origin,.transferring t⟩)
    (pending : job ∈ pendingJobs t) : ¬ u.Waiting job.id := by
  intro waits
  obtain ⟨f,mem,still,same⟩ := waitingIff.mp waits
  obtain ⟨g,listed,carries⟩ := (sound.runs under).1.sent job pending
  rw [sameFile sound.distinct mem listed (same.trans carries.id.symm),carries.status] at still
  cases still

theorem Sound.flyingUnqueued (sound : Sound u) (under : u.batch = some ⟨origin,.transferring t⟩)
    {stage : Stage} (flies : ⟨job,stage⟩ ∈ t.flights) : ¬ u.Queued job.id := by
  intro queued
  obtain ⟨other,waits,same⟩ := (queuedUnder under).mp queued
  have ids := (sound.runs under).1.ids
  rw [pendingJobs,List.map_append] at ids
  exact (List.nodup_append.mp ids).2.2 _ (List.mem_map.mpr ⟨other,waits,rfl⟩) _
    (List.mem_map.mpr ⟨job,List.mem_map.mpr ⟨_,flies,rfl⟩,rfl⟩) same

theorem advanceQueued (queued : (u.advance origin t).1.Queued id) : ∃ job ∈ t.queue, job.id = id := by
  rcases advanceCases u origin t with ⟨-,finished⟩ | ⟨-,going⟩
  · rw [finished,reportEq] at queued
    obtain ⟨_,_,under,-⟩ := queued
    simp [u.settledRest.1] at under
  · rw [going] at queued
    obtain ⟨job,mem,same⟩ := (queuedUnder rfl).mp queued
    exact ⟨job,List.mem_of_mem_drop mem,same⟩

theorem advanceReading (reading : (u.advance origin t).1.Reading id) :
    (∃ job, ⟨job,.reading⟩ ∈ t.flights ∧ job.id = id) ∨
      ∃ job ∈ loads (u.advance origin t).2, job.id = id := by
  rcases advanceCases u origin t with ⟨-,finished⟩ | ⟨-,going⟩
  · rw [finished,reportEq] at reading
    obtain ⟨_,_,under,-⟩ := reading
    simp [u.settledRest.1] at under
  · rw [going] at reading ⊢
    obtain ⟨job,mem,same⟩ := (readingUnder rfl).mp reading
    rcases List.mem_append.mp mem with old | started
    · exact .inl ⟨job,old,same⟩
    · obtain ⟨job',begun,eq⟩ := List.mem_map.mp started
      cases eq
      exact .inr ⟨job,(loadsLoads _).symm ▸ begun,same⟩

theorem advanceLoads (u : Uploader) (origin : Origin) (t : Transfer) :
    (loads (u.advance origin t).2).Sublist t.queue := by
  rcases advanceCases u origin t with ⟨-,finished⟩ | ⟨-,going⟩
  · rw [finished,reportEq]
    exact List.nil_sublist _
  · rw [going,loadsLoads]
    exact List.take_sublist _ _

theorem advanceOpen (u : Uploader) (origin : Origin) (pending : job ∈ pendingJobs t) : ∃ t',
    (u.advance origin t).1.batch = some ⟨origin,.transferring t'⟩ ∧ job ∈ pendingJobs t' := by
  rcases advanceCases u origin t with ⟨empty,-⟩ | ⟨-,going⟩
  · rw [empty] at pending
    cases pending
  · rw [going]
    exact ⟨_,rfl,(u.fillPending t).mem_iff.mpr pending⟩

theorem advanceFlying (begun : job ∈ loads (u.advance origin t).2) : ∃ t',
    (u.advance origin t).1.batch = some ⟨origin,.transferring t'⟩ ∧
      ⟨job,.reading⟩ ∈ t'.flights := by
  rcases advanceCases u origin t with ⟨-,finished⟩ | ⟨-,going⟩
  · rw [finished,reportEq] at begun
    cases begun
  · rw [going,loadsLoads] at begun
    rw [going]
    exact ⟨_,rfl,List.mem_append_right _ (List.mem_map.mpr ⟨job,begun,rfl⟩)⟩

theorem Shifts.idle (waiting : ∀ id, v.Waiting id → u.Waiting id ∨ u.lastId < id)
    (queued : ∀ id, v.Queued id → u.Queued id) (reading : ∀ id, v.Reading id → u.Reading id) :
    Shifts u v [] [] [] where
  waiting := waiting
  queued := fun id still => .inl (queued id still)
  reading := fun id still => .inl (reading id still)
  fromWaiting := by simp
  fromQueue := by simp
  fromReading := by simp
  onceMade := .nil
  onceLoaded := .nil
  oncePosted := .nil
  pastWaiting := by simp
  pastQueue := by simp
  pastReading := by simp

theorem callShifts {e : Event} {said : List Effect} (called : Called u e v said) :
    Shifts u v [] (loads said) ((posts said).map (·.1)) := by
  have under : ∀ {origin t}, v.batch = some ⟨origin,.transferring t⟩ →
      u.batch = some ⟨origin,.transferring t⟩ := by
    intro origin t under
    rcases called.batch with ⟨same,-⟩ | ⟨-,-,_,_,begun⟩
    · rwa [← same]
    · cases begun.symm.trans under
  rw [called.quiet.loads,called.quiet.posts]
  refine .idle ?_ ?_ ?_
  · intro id waits
    obtain ⟨f,mem,still,rfl⟩ := waitingIff.mp waits
    rcases called.new f mem with old | ⟨-,-,above⟩
    · exact .inl (waitingIff.mpr ⟨f,old,still,rfl⟩)
    · exact .inr above
  · rintro id ⟨origin,t,under',queued⟩
    exact ⟨origin,t,under under',queued⟩
  · rintro id ⟨origin,t,under',reading⟩
    exact ⟨origin,t,under under',reading⟩

theorem noneToWaiting (status : FileStatus) : status.canMoveTo .waiting = false := by
  cases status <;> rfl

theorem stillWaiting (sound : Sound u) {e : Event} {result : Result}
    (answered : Answered u e result) (waits : result.1.Waiting id) : u.Waiting id := by
  obtain ⟨g,mem,still,rfl⟩ := waitingIff.mp waits
  obtain ⟨f,old,onward⟩ := answerOnward sound answered mem
  refine waitingIff.mpr ⟨f,old,?_,onward.id.symm⟩
  rcases onward.status with same | moves
  · exact same ▸ still
  · rw [still,noneToWaiting] at moves
    cases moves

theorem resolveShifts (sound : Sound u) (under : u.batch = some ⟨origin,.transferring t⟩)
    (outcome : Except UploadError Unit) (next : Sound (u.resolve origin t job outcome).1)
    (still : ∀ id, (u.resolve origin t job outcome).1.Waiting id → u.Waiting id) :
    Shifts u (u.resolve origin t job outcome).1 [] (loads (u.resolve origin t job outcome).2)
      ((posts (u.resolve origin t job outcome).2).map (·.1)) := by
  rw [resolveEq] at next still ⊢
  rw [advancePosts]
  have queue := advanceLoads { u with files := markResolved u.files job.id (statusOf outcome) } origin
    (closeJob u.config t job outcome)
  refine ⟨fun id waits => .inl (still id waits),?_,?_,by simp,?_,by simp,.nil,?_,.nil,by simp,?_,
    by simp⟩
  · intro id queued
    obtain ⟨job',mem,same⟩ := advanceQueued queued
    exact .inl ((queuedUnder under).mpr ⟨job',mem,same⟩)
  · intro id reading
    rcases advanceReading reading with ⟨job',mem,same⟩ | begun
    · exact .inl ((readingUnder under).mpr ⟨job',(List.mem_filter.mp mem).1,same⟩)
    · exact .inr begun
  · intro job' begun
    exact .inl ((queuedUnder under).mpr ⟨job',queue.subset begun,rfl⟩)
  · have ids := (sound.runs under).1.ids
    rw [pendingJobs,List.map_append] at ids
    exact (List.nodup_append.mp ids).1.sublist (queue.map _)
  · intro job' begun
    obtain ⟨t',under',flies⟩ := advanceFlying begun
    exact ⟨next.openUnwaiting under' (flightPending flies),next.flyingUnqueued under' flies⟩

theorem grantedShifts (sound : Sound u) {request waiting supply jobs sent}
    (awaiting : u.batch = some ⟨origin,.awaitingPolicy request waiting⟩) (policy : Policy)
    (given : dispatch (.fresh u.config.prefixPath) supply 0 u.files waiting = some (jobs,sent))
    {result : Result} (opened : result = ({ u with files := sent } : Uploader).advance origin
      ⟨policy,jobs,[],.start jobs.length,none⟩) (next : Sound result.1)
    (still : ∀ id, result.1.Waiting id → u.Waiting id) :
    Shifts u result.1 jobs (loads result.2) ((posts result.2).map (·.1)) := by
  subst opened
  have waits := sound.waits awaiting
  have d := dispatchExact sound.distinct waits.once waits.still given
  have ids : (jobs.map (·.id)).Nodup := by
    rw [d.ids]
    exact waits.once.sublist List.filter_sublist
  have queue := advanceLoads { u with files := sent } origin ⟨policy,jobs,[],.start jobs.length,none⟩
  rw [advancePosts]
  refine ⟨fun id waits => .inl (still id waits),?_,?_,?_,?_,by simp,ids,ids.sublist (queue.map _),
    .nil,?_,?_,by simp⟩
  · exact fun id queued => .inr (advanceQueued queued)
  · intro id reading
    rcases advanceReading reading with ⟨_,mem,-⟩ | begun
    · cases mem
    · exact .inr begun
  · intro job mem
    obtain ⟨f,old,its⟩ := d.made job mem
    exact waitingIff.mpr ⟨f,old,waits.still f old (its.id ▸ d.subset mem),its.id⟩
  · exact fun job begun => .inr (queue.subset begun)
  · intro job mem
    obtain ⟨t',under,pending⟩ := advanceOpen { u with files := sent } origin
      (t := ⟨policy,jobs,[],.start jobs.length,none⟩) (List.mem_append_left _ mem)
    exact next.openUnwaiting under pending
  · intro job begun
    obtain ⟨t',under,flies⟩ := advanceFlying begun
    exact ⟨next.openUnwaiting under (flightPending flies),next.flyingUnqueued under flies⟩

theorem postedShifts (sound : Sound u) (under : u.batch = some ⟨origin,.transferring t⟩)
    (flies : ⟨job,.reading⟩ ∈ t.flights) (request : Http.Request) {v : Uploader}
    (sent : v = u.underWay origin (setStage t job.position (.posting request))) (next : Sound v) :
    Shifts u v [] [] [job] := by
  subst sent
  have posted : ⟨job,.posting request⟩ ∈ (setStage t job.position (.posting request)).flights :=
    List.mem_map.mpr ⟨_,flies,if_pos rfl⟩
  -- the flights that still read are those of other positions
  have others : ∀ job', ⟨job',.reading⟩ ∈ (setStage t job.position (.posting request)).flights →
      ⟨job',.reading⟩ ∈ t.flights ∧ job'.position ≠ job.position := by
    intro job' mem
    obtain ⟨f,old,eq⟩ := List.mem_map.mp mem
    split at eq
    · cases eq
    · rename_i apart
      subst f
      exact ⟨old,apart⟩
  refine ⟨fun id waits => .inl waits,?_,?_,by simp,by simp,?_,.nil,.nil,by simp,by simp,by simp,?_⟩
  · intro id queued
    obtain ⟨job',mem,same⟩ := (queuedUnder rfl).mp queued
    exact .inl ((queuedUnder under).mpr ⟨job',mem,same⟩)
  · intro id reading
    obtain ⟨job',mem,same⟩ := (readingUnder rfl).mp reading
    exact .inl ((readingUnder under).mpr ⟨job',(others job' mem).1,same⟩)
  · intro job' mem
    obtain rfl := List.mem_singleton.mp mem
    exact (readingUnder under).mpr ⟨job',flies,rfl⟩
  · intro job' mem
    obtain rfl := List.mem_singleton.mp mem
    refine ⟨next.openUnwaiting rfl (flightPending posted),next.flyingUnqueued rfl posted,?_⟩
    intro reading
    obtain ⟨other,mem,same⟩ := (readingUnder rfl).mp reading
    obtain ⟨old,apart⟩ := others other mem
    exact apart (congrArg Job.position (List.inj_on_of_nodup_map (sound.runs under).1.ids
      (flightPending old) (flightPending flies) same))

theorem dispatchedNot {e : Event} (other : ∀ reply now supply, e ≠ .policyAnswered reply now supply) :
    u.dispatchedBy e = [] := by
  unfold dispatchedBy
  split
  · exact absurd rfl (other _ _ _)
  · rfl

theorem answerShifts {e : Event} {result : Result} (sound : Sound u) (next : Sound result.1)
    (answered : Answered u e result) :
    Shifts u result.1 (u.dispatchedBy e) (loads result.2) ((posts result.2).map (·.1)) := by
  -- an answer adds no file, whatever becomes of the batch
  have still : ∀ id, result.1.Waiting id → u.Waiting id := fun id => stillWaiting sound answered
  cases answered with
  | @denied origin request waiting reply now supply failure awaiting denied =>
    have undispatched : u.dispatchedBy (.policyAnswered reply now supply) = [] := by
      simp only [dispatchedBy,awaiting,denied]
    have ended : (({ u with batch := none } : Uploader).takeBack origin).batch = none :=
      (takeBackRest _ origin).1
    rw [undispatched]
    rw [policyFailedEq] at still ⊢
    exact .idle (fun id waits => .inl (still id waits)) (by simp [Queued,ended])
      (by simp [Reading,ended])
  | @granted origin request waiting reply now supply policy jobs sent awaiting granted given =>
    have made : u.dispatchedBy (.policyAnswered reply now supply) = jobs := by
      simp only [dispatchedBy,awaiting,granted,given]
    rw [made]
    exact grantedShifts sound awaiting policy given rfl next still
  | unsent under flight broken =>
    rw [dispatchedNot (by simp)]
    exact resolveShifts sound under _ next still
  | posted under flight made =>
    obtain ⟨flies,rfl⟩ := (flightIff (sound.runs under).1.positions).mp flight
    rw [dispatchedNot (by simp)]
    exact postedShifts sound under flies _ rfl next
  | replied under flight =>
    rw [dispatchedNot (by simp)]
    exact resolveShifts sound under _ next still

theorem stepShifts {e : Event} {said : List Effect} (sound : Sound u)
    (next : u.step? e = some (v,said)) :
    Shifts u v (u.dispatchedBy e) (loads said) ((posts said).map (·.1)) := by
  cases call : e.isCall with
  | true =>
    rw [dispatchedNot (by rintro reply now supply rfl; cases call)]
    exact callShifts (sound.called call next)
  | false => exact answerShifts sound (stepSound sound next) (answerCases call next)

end Stages

structure Once (u v : Uploader) (made loaded posted : List Job) : Prop where
  made : Spends Waiting u v (made.map (·.id))
  loaded : Spends Unread u v (loaded.map (·.id))
  posted : Spends Unsent u v (posted.map (·.id))

theorem spendsJobs {ahead : Uploader → FileId → Prop} {u v : Uploader} {jobs : List Job}
    (once : (jobs.map (·.id)).Nodup) (given : ∀ id, ahead u id → id ≤ u.lastId)
    (before : ∀ job ∈ jobs, ahead u job.id) (past : ∀ job ∈ jobs, ¬ ahead v job.id)
    (left : ∀ id, ahead v id → ahead u id ∨ u.lastId < id) (last : u.lastId ≤ v.lastId) :
    Spends ahead u v (jobs.map (·.id)) := by
  refine ⟨once,?_,?_,left,last⟩
  · intro id mem
    obtain ⟨job,here,rfl⟩ := List.mem_map.mp mem
    exact ⟨.inl (before job here),Nat.le_trans (given _ (before job here)) last⟩
  · intro id mem
    obtain ⟨job,here,rfl⟩ := List.mem_map.mp mem
    exact past job here

theorem Shifts.once {u v : Uploader} {made loaded posted : List Job} (sound : Sound u)
    (shifts : Shifts u v made loaded posted) (last : u.lastId ≤ v.lastId) :
    Once u v made loaded posted := by
  have unsent : ∀ {id}, u.Unread id → u.Unsent id := fun unread => unread.imp_right .inl
  have toRead : ∀ job ∈ loaded, u.Unread job.id := by
    intro job mem
    exact (shifts.fromQueue job mem).elim .inr fun made => .inl (shifts.fromWaiting job made)
  have unread : ∀ id, v.Unread id → u.Unread id ∨ u.lastId < id := by
    rintro id (waits | queued)
    · exact (shifts.waiting id waits).imp_left .inl
    · rcases shifts.queued id queued with still | ⟨job,mem,rfl⟩
      · exact .inl (.inr still)
      · exact .inl (.inl (shifts.fromWaiting job mem))
  have left : ∀ id, v.Unsent id → u.Unsent id ∨ u.lastId < id := by
    rintro id (waits | queued | reading)
    · exact (unread id (.inl waits)).imp_left unsent
    · exact (unread id (.inr queued)).imp_left unsent
    · rcases shifts.reading id reading with still | ⟨job,mem,rfl⟩
      · exact .inl (.inr (.inr still))
      · exact .inl (unsent (toRead job mem))
  refine ⟨?_,?_,?_⟩
  · exact spendsJobs shifts.onceMade (fun _ waits => sound.unsentGiven (.inl waits))
      shifts.fromWaiting shifts.pastWaiting shifts.waiting last
  · exact spendsJobs shifts.onceLoaded (fun _ ahead => sound.unsentGiven (unsent ahead)) toRead
      (fun job mem => not_or.mpr (shifts.pastQueue job mem)) unread last
  · refine spendsJobs shifts.oncePosted (fun _ => sound.unsentGiven)
      (fun job mem => .inr (.inr (shifts.fromReading job mem))) (fun job mem => ?_) left last
    obtain ⟨unwaiting,unqueued,unread⟩ := shifts.pastReading job mem
    exact not_or.mpr ⟨unwaiting,not_or.mpr ⟨unqueued,unread⟩⟩

theorem runOnce {u w : Uploader} {events : List Event} {effects : List Effect} (sound : Sound u)
    (run : u.run? events = some (w,effects)) :
    Once u w (u.dispatches events) (loads effects) ((posts effects).map (·.1)) := by
  induction events generalizing u effects with
  | nil =>
    obtain ⟨rfl,rfl⟩ := runNil.mp run
    exact ⟨.refl _ _,.refl _ _,.refl _ _⟩
  | cons e rest ih =>
    obtain ⟨v,said,more,next,later,rfl⟩ := runCons.mp run
    have first := (stepShifts sound next).once sound (stepLater sound next).last
    have second := ih (stepSound sound next) later
    have made : u.dispatches (e :: rest) = u.dispatchedBy e ++ v.dispatches rest := by
      simp only [dispatches,next]
    rw [made,loadsAppend,postsAppend,List.map_append]
    refine ⟨?_,?_,?_⟩
    · rw [List.map_append]
      exact first.made.trans second.made
    · rw [List.map_append]
      exact first.loaded.trans second.loaded
    · rw [List.map_append]
      exact first.posted.trans second.posted

end SignedUpload.Uploader

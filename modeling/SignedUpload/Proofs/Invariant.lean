import SignedUpload.Proofs.Answers
import SignedUpload.Proofs.Counting
import SignedUpload.Proofs.Runs

/-! What holds in every state that an uploader can come to. Every id stands once in the list; the
files on their way are those of the open jobs of the batch; and the count of a batch differs from
what it expects by its open jobs. -/
namespace SignedUpload.Uploader

structure Carries (job : Job) (f : PendingFile) : Prop extends MadeOf job f where
  status : f.status = .uploading
  key : f.key = some job.key

structure Waits (u : Uploader) (waiting : List FileId) : Prop where
  once : waiting.Nodup
  given : ∀ id ∈ waiting, id ≤ u.lastId
  still : ∀ f ∈ u.files, f.id ∈ waiting → f.status = .waiting

structure Runs (files : List PendingFile) (t : Transfer) : Prop where
  ids : ((pendingJobs t).map (·.id)).Nodup
  positions : ((pendingJobs t).map (·.position)).Nodup
  sent : ∀ job ∈ pendingJobs t, ∃ f ∈ files, Carries job f
  all : ∀ f ∈ files, f.status = .uploading → ∃ job ∈ pendingJobs t, job.id = f.id
  count : t.tally.expected = t.tally.succeeded + (pendingJobs t).length
  fresh : pendingJobs t ≠ [] → t.tally.reported = false ∧ t.completed = none

structure Sound (u : Uploader) : Prop extends Listed u where
  waits : ∀ {origin request waiting}, u.batch = some ⟨origin,.awaitingPolicy request waiting⟩ →
    Waits u waiting
  runs : ∀ {origin t}, u.batch = some ⟨origin,.transferring t⟩ →
    Runs u.files t ∧ pendingJobs t ≠ []
  closed : ∀ f ∈ u.files, f.status = .uploading → ∃ job ∈ u.openJobs, job.id = f.id

theorem openJobsNone {u : Uploader} (free : u.batch = none) : u.openJobs = [] := by
  simp [openJobs,free]

theorem openJobsAwaiting {u : Uploader} {origin request waiting}
    (awaiting : u.batch = some ⟨origin,.awaitingPolicy request waiting⟩) : u.openJobs = [] := by
  simp [openJobs,awaiting]

theorem openJobsUnder {u : Uploader} {origin t} (under : u.batch = some ⟨origin,.transferring t⟩) :
    u.openJobs = pendingJobs t := by
  simp [openJobs,under]

theorem Sound.unsent {u : Uploader} (sound : Sound u) (empty : u.openJobs = []) :
    ∀ f ∈ u.files, f.status ≠ .uploading := by
  intro f mem sent
  obtain ⟨job,here,-⟩ := sound.closed f mem sent
  rw [empty] at here
  exact absurd here (by simp)

theorem soundIdle {u : Uploader} (listed : Listed u) (free : u.batch = none)
    (unsent : ∀ f ∈ u.files, f.status ≠ .uploading) : Sound u where
  toListed := listed
  waits := by simp [free]
  runs := by simp [free]
  closed := fun f mem sent => absurd sent (unsent f mem)

theorem renderedFresh {config : Config} {u : Uploader} (ready : render config = .ok u) :
    ∃ kind, u = ⟨config,kind,[],[],0,false,none⟩ := by
  cases checked : config.validate with
  | error e => simp [render,checked] at ready
  | ok _ =>
    cases known : config.fileKind with
    | error e => simp [render,checked,known] at ready
    | ok kind =>
      simp only [render,checked,known,Except.ok.injEq] at ready
      exact ⟨kind,ready.symm⟩

theorem renderedSound {config : Config} {u : Uploader} (ready : render config = .ok u) : Sound u := by
  obtain ⟨kind,rfl⟩ := renderedFresh ready
  exact soundIdle ⟨List.nodup_nil,by simp⟩ rfl (by simp)

theorem waitingOnce {files : List PendingFile} (distinct : Distinct files) :
    (waitingIds files).Nodup :=
  List.Nodup.sublist (List.filter_sublist.map _) distinct

theorem waitingIff {files : List PendingFile} {id : FileId} :
    id ∈ waitingIds files ↔ ∃ f ∈ files, f.status = .waiting ∧ f.id = id := by
  simp [waitingIds,and_assoc]

theorem callSound {u v : Uploader} {e : Event} {effects : List Effect} (sound : Sound u)
    (called : Called u e v effects) : Sound v := by
  rcases called.batch with ⟨same,-⟩ | ⟨free,-,origin,request,begun⟩
  · refine ⟨called.listed,?_,?_,?_⟩
    · intro origin request waiting awaiting
      have before := sound.waits (same ▸ awaiting)
      refine ⟨before.once,fun id mem => Nat.le_trans (before.given id mem) called.last,?_⟩
      intro f mem inWaiting
      rcases called.new f mem with old | ⟨waits,-,-⟩
      · exact before.still f old inWaiting
      · exact waits
    · intro origin t under
      obtain ⟨before,nonempty⟩ := sound.runs (same ▸ under)
      refine ⟨⟨before.ids,before.positions,?_,?_,before.count,before.fresh⟩,nonempty⟩
      · intro job mem
        obtain ⟨f,old,carries⟩ := before.sent job mem
        by_cases here : f ∈ v.files
        · exact ⟨f,here,carries⟩
        · exact absurd carries.status (called.kept f old here).1
      · intro f mem sent
        rcases called.new f mem with old | ⟨waits,-,-⟩
        · exact before.all f old sent
        · simp [waits] at sent
    · intro f mem sent
      rcases called.new f mem with old | ⟨waits,-,-⟩
      · have jobs : v.openJobs = u.openJobs := by simp [openJobs,same]
        rw [jobs]
        exact sound.closed f old sent
      · simp [waits] at sent
  · have unsent := sound.unsent (openJobsNone free)
    refine ⟨called.listed,?_,?_,?_⟩
    · intro origin' request' waiting awaiting
      rw [begun] at awaiting
      cases awaiting
      refine ⟨waitingOnce called.listed.distinct,?_,?_⟩
      · intro id mem
        obtain ⟨f,here,-,rfl⟩ := waitingIff.mp mem
        exact called.listed.bound f here
      · intro f mem inWaiting
        obtain ⟨g,here,waits,same⟩ := waitingIff.mp inWaiting
        rwa [← sameFile called.listed.distinct here mem same]
    · intro origin' t under
      rw [begun] at under
      cases under
    · intro f mem sent
      rcases called.new f mem with old | ⟨waits,-,-⟩
      · exact absurd sent (unsent f old)
      · simp [waits] at sent

theorem settledFiles (u : Uploader) : u.settled.files.Sublist u.files := by
  simp only [settled]
  split
  · exact List.Sublist.refl _
  · exact List.nil_sublist _

theorem listedSublist {u v : Uploader} (listed : Listed u) (files : v.files.Sublist u.files)
    (last : v.lastId = u.lastId) : Listed v :=
  ⟨List.Nodup.sublist (files.map _) listed.distinct,
    fun f mem => last ▸ listed.bound f (files.subset mem)⟩

theorem Runs.fill {files : List PendingFile} {t : Transfer} (runs : Runs files t) (u : Uploader) :
    Runs files (u.fill t) := by
  have same := u.fillPending t
  refine ⟨(same.map _).nodup_iff.mpr runs.ids,(same.map _).nodup_iff.mpr runs.positions,?_,?_,?_,?_⟩
  · exact fun job mem => runs.sent job (same.mem_iff.mp mem)
  · intro f mem sent
    obtain ⟨job,here,named⟩ := runs.all f mem sent
    exact ⟨job,same.mem_iff.mpr here,named⟩
  · rw [same.length_eq]
    exact runs.count
  · intro nonempty
    exact runs.fresh fun empty => nonempty (List.perm_nil.mp (empty ▸ same))

theorem advanceSound {u : Uploader} {origin : Origin} {t : Transfer} (listed : Listed u)
    (runs : Runs u.files t) : Sound (u.advance origin t).1 := by
  rcases advanceCases u origin t with ⟨empty,finished⟩ | ⟨nonempty,going⟩
  · rw [finished,reportEq]
    refine soundIdle (listedSublist listed u.settledFiles u.settledRest.2.1) u.settledRest.1 ?_
    intro f mem sent
    obtain ⟨job,here,-⟩ := runs.all f (u.settledFiles.subset mem) sent
    rw [empty] at here
    exact absurd here (by simp)
  · rw [going]
    have filled := runs.fill u
    refine ⟨⟨listed.distinct,listed.bound⟩,?_,?_,?_⟩
    · intro origin' request waiting awaiting
      cases awaiting
    · intro origin' t' under
      cases under
      exact ⟨filled,fun empty => nonempty (List.perm_nil.mp (empty ▸ (u.fillPending t).symm))⟩
    · exact filled.all

theorem dispatchRuns {u : Uploader} (sound : Sound u) {origin request waiting}
    (awaiting : u.batch = some ⟨origin,.awaitingPolicy request waiting⟩) (policy : Policy)
    {jobs : List Job} {sent : List PendingFile} (d : Dispatched 0 u.files waiting jobs sent) :
    Listed { u with files := sent } ∧ Runs sent ⟨policy,jobs,[],.start jobs.length,none⟩ := by
  have waits := sound.waits awaiting
  have unsent := sound.unsent (openJobsAwaiting awaiting)
  have ids : (jobs.map (·.id)).Nodup := by
    rw [d.ids]
    exact waits.once.sublist List.filter_sublist
  have positions : (jobs.map (·.position)).Nodup :=
    (List.pairwise_map.mpr (d.rising.imp Nat.ne_of_lt))
  have pending : pendingJobs ⟨policy,jobs,[],.start jobs.length,none⟩ = jobs := by
    simp [pendingJobs]
  refine ⟨⟨?_,?_⟩,⟨by rwa [pending],by rwa [pending],?_,?_,?_,fun _ => ⟨rfl,rfl⟩⟩⟩
  · simp only [d.sent]
    exact distinctMap sound.distinct fun f _ => stampId jobs f
  · intro f mem
    simp only [d.sent] at mem
    obtain ⟨g,old,rfl⟩ := List.mem_map.mp mem
    rw [stampId]
    exact sound.bound g old
  · intro job mem
    rw [pending] at mem
    obtain ⟨f,old,made⟩ := d.made job mem
    have found : jobs.find? (·.id == f.id) = some job := (keyedIff ids).mpr ⟨mem,made.id.symm⟩
    refine ⟨stamp jobs f,d.sent ▸ List.mem_map.mpr ⟨f,old,rfl⟩,?_⟩
    simp only [stamp,found]
    exact ⟨⟨made.id,made.path,made.name,made.contentType⟩,rfl,rfl⟩
  · intro f mem sent'
    rw [d.sent] at mem
    obtain ⟨g,old,rfl⟩ := List.mem_map.mp mem
    rw [pending]
    cases found : jobs.find? (·.id == g.id) with
    | none =>
      simp only [stamp,found] at sent'
      exact absurd sent' (unsent g old)
    | some job =>
      refine ⟨job,List.mem_of_find?_eq_some found,?_⟩
      rw [stampId]
      simpa using List.find?_some found
  · rw [pending]
    simp [Tally.start]

theorem countedOpen {config : Config} {tally : Tally} {job : Job} {outcome : Except UploadError Unit}
    {left : Nat} (count : tally.expected = tally.succeeded + (left + 1)) :
    (counted config tally job outcome).expected =
      (counted config tally job outcome).succeeded + left := by
  cases outcome with
  | ok _ => simp only [counted,Tally.recordSuccess]; omega
  | error _ => simp only [counted,Tally.recordFailure]; omega

theorem countedFresh (config : Config) (tally : Tally) (job : Job) (outcome : Except UploadError Unit) :
    (counted config tally job outcome).reported = tally.reported := by
  cases outcome <;> rfl

section Close
variable {files : List PendingFile} {t : Transfer} (runs : Runs files t) (config : Config) {job : Job}
  {stage : Stage} (flies : ⟨job,stage⟩ ∈ t.flights) (outcome : Except UploadError Unit)
include runs flies

theorem closeCount : (counted config t.tally job outcome).expected =
    (counted config t.tally job outcome).succeeded +
      (pendingJobs (closeJob config t job outcome)).length := by
  have perm := closePending config runs.positions flies outcome
  exact countedOpen (by rw [runs.count,perm.length_eq,List.length_cons])

theorem closeGoes (nonempty : pendingJobs (closeJob config t job outcome) ≠ []) :
    (counted config t.tally job outcome).succeeded ≠
      (counted config t.tally job outcome).expected := by
  have count := closeCount runs config flies outcome
  have positive := List.length_pos_iff.mpr nonempty
  omega

theorem closeComplete (empty : pendingJobs (closeJob config t job outcome) = []) :
    (closeJob config t job outcome).completed =
      some (Tally.inOrder (counted config t.tally job outcome).results) := by
  have fresh := runs.fresh (List.ne_nil_of_mem (flightPending flies))
  have all : (counted config t.tally job outcome).succeeded =
      (counted config t.tally job outcome).expected := by
    rw [closeCount runs config flies outcome,empty]
    rfl
  have unreported : (counted config t.tally job outcome).reported = false := by
    rw [countedFresh]
    exact fresh.1
  simp only [closeJob,Tally.takeComplete unreported all,Option.some_or]

end Close

theorem closeRuns {files : List PendingFile} {t : Transfer} (distinct : Distinct files)
    (runs : Runs files t) (config : Config) {job : Job} {stage : Stage}
    (flies : ⟨job,stage⟩ ∈ t.flights) (outcome : Except UploadError Unit) :
    (∃ f ∈ files, Carries job f ∧ markResolved files job.id (statusOf outcome) =
      files.map (mark job.id (statusOf outcome))) ∧
    Runs (markResolved files job.id (statusOf outcome)) (closeJob config t job outcome) := by
  have perm := closePending config runs.positions flies outcome
  have here : job ∈ pendingJobs t := perm.mem_iff.mpr List.mem_cons_self
  obtain ⟨file,listed,carries⟩ := runs.sent job here
  have marked := markUploading distinct listed carries.status (statusFinal outcome)
  rw [carries.id] at marked
  have ids := (perm.map (·.id)).nodup_iff.mp runs.ids
  have positions := (perm.map (·.position)).nodup_iff.mp runs.positions
  have others : ∀ j ∈ pendingJobs (closeJob config t job outcome), j.id ≠ job.id := by
    intro j mem same
    exact (List.nodup_cons.mp ids).1 (List.mem_map.mpr ⟨j,mem,same⟩)
  refine ⟨⟨file,listed,carries,marked⟩,
    ⟨(List.nodup_cons.mp ids).2,(List.nodup_cons.mp positions).2,?_,?_,?_,?_⟩⟩
  · intro j mem
    obtain ⟨f,old,its⟩ := runs.sent j (perm.mem_iff.mpr (List.mem_cons_of_mem _ mem))
    refine ⟨f,?_,its⟩
    rw [marked]
    exact List.mem_map.mpr ⟨f,old,markOther (its.id ▸ others j mem) _⟩
  · intro f mem sent
    rw [marked] at mem
    obtain ⟨g,old,rfl⟩ := List.mem_map.mp mem
    by_cases same : g.id = job.id
    · rcases statusFinal outcome with final | final <;> simp [mark,same,final] at sent
    · rw [markOther same] at sent ⊢
      obtain ⟨j,pending,named⟩ := runs.all g old sent
      rcases List.mem_cons.mp (perm.mem_iff.mp pending) with rfl | later
      · exact absurd named.symm same
      · exact ⟨j,later,named⟩
  · simp only [closeJob]
    rw [(Tally.takeCounts _).1,(Tally.takeCounts _).2.1]
    exact closeCount runs config flies outcome
  · intro nonempty
    have more := closeGoes runs config flies outcome nonempty
    have before := runs.fresh (List.ne_nil_of_mem here)
    simp only [closeJob,Tally.takeWaits more,countedFresh]
    exact ⟨before.1,by simp [before.2]⟩

theorem closeListed {u : Uploader} (listed : Listed u) {id : FileId} {status : FileStatus}
    (marked : markResolved u.files id status =
      u.files.map (mark id status)) :
    Listed { u with files := markResolved u.files id status } := by
  constructor
  · simp only [marked]
    exact distinctMap listed.distinct fun f _ => markId _ _ f
  · intro f mem
    simp only [marked] at mem
    obtain ⟨g,old,rfl⟩ := List.mem_map.mp mem
    rw [markId]
    exact listed.bound g old

theorem answerSound {u : Uploader} {e : Event} {result : Result} (sound : Sound u)
    (answered : Answered u e result) : Sound result.1 := by
  cases answered with
  | @denied origin _ _ _ _ _ _ awaiting denied =>
    rw [policyFailedEq]
    have rest := takeBackRest ({ u with batch := none }) origin
    have files := takeBackFiles ({ u with batch := none }) origin
    exact soundIdle (listedSublist sound.toListed files rest.2.1) rest.1
      fun f mem => sound.unsent (openJobsAwaiting awaiting) f (files.subset mem)
  | granted awaiting granted given =>
    have waits := sound.waits awaiting
    obtain ⟨listed,runs⟩ := dispatchRuns sound awaiting _
      (dispatchExact sound.distinct waits.once waits.still given)
    exact advanceSound listed runs
  | unsent under flight broken =>
    obtain ⟨runs,-⟩ := sound.runs under
    obtain ⟨⟨_,_,_,marked⟩,closed⟩ := closeRuns sound.distinct runs u.config
      ((flightIff runs.positions).mp flight).1 _
    rw [resolveEq]
    exact advanceSound (closeListed sound.toListed marked) closed
  | replied under flight =>
    obtain ⟨runs,-⟩ := sound.runs under
    obtain ⟨⟨_,_,_,marked⟩,closed⟩ := closeRuns sound.distinct runs u.config
      ((flightIff runs.positions).mp flight).1 _
    rw [resolveEq]
    exact advanceSound (closeListed sound.toListed marked) closed
  | @posted origin t position job _ request under flight sent =>
    obtain ⟨runs,nonempty⟩ := sound.runs under
    have same := stagePending t position (.posting request)
    have kept : Runs u.files (setStage t position (.posting request)) := by
      refine ⟨?_,?_,?_,?_,?_,?_⟩
      all_goals rw [same]
      · exact runs.ids
      · exact runs.positions
      · exact runs.sent
      · exact runs.all
      · exact runs.count
      · exact runs.fresh
    refine ⟨⟨sound.distinct,sound.bound⟩,?_,?_,?_⟩
    · intro origin' request' waiting awaiting
      cases awaiting
    · intro origin' t' going
      cases going
      exact ⟨kept,by rwa [same]⟩
    · exact kept.all

theorem Sound.called {u v : Uploader} {e : Event} {effects : List Effect} (sound : Sound u)
    (call : e.isCall = true) (step : u.step? e = some (v,effects)) : Called u e v effects :=
  callCases sound.toListed (fun free => sound.unsent (openJobsNone free)) call step

structure Later (u w : Uploader) : Prop where
  config : w.config = u.config
  kind : w.kind = u.kind
  last : u.lastId ≤ w.lastId

theorem Later.refl (u : Uploader) : Later u u := ⟨rfl,rfl,Nat.le_refl _⟩

theorem Later.trans {u v w : Uploader} (first : Later u v) (second : Later v w) : Later u w :=
  ⟨second.config.trans first.config,second.kind.trans first.kind,Nat.le_trans first.last second.last⟩

theorem Later.filter {u w : Uploader} (later : Later u w) : w.filter = u.filter := by
  rw [Uploader.filter,Uploader.filter,later.config,later.kind]

theorem filesLater (u : Uploader) (files : List PendingFile) : Later u { u with files := files } :=
  ⟨rfl,rfl,Nat.le_refl _⟩

theorem advanceLater (u : Uploader) (origin : Origin) (t : Transfer) :
    Later u (u.advance origin t).1 := by
  rcases advanceCases u origin t with ⟨-,finished⟩ | ⟨-,going⟩
  · rw [finished,reportEq]
    simp only [settled]
    split <;> exact ⟨rfl,rfl,Nat.le_refl _⟩
  · rw [going]
    exact ⟨rfl,rfl,Nat.le_refl _⟩

theorem answerLater {u : Uploader} {e : Event} {result : Result} (answered : Answered u e result) :
    Later u result.1 := by
  cases answered with
  | @denied origin _ _ _ _ _ _ awaiting denied =>
    rw [policyFailedEq]
    cases origin <;> exact ⟨rfl,rfl,Nat.le_refl _⟩
  | granted awaiting granted given => exact (filesLater u _).trans (advanceLater _ _ _)
  | unsent under flight broken =>
    rw [resolveEq]
    exact (filesLater u _).trans (advanceLater _ _ _)
  | posted under flight sent => exact ⟨rfl,rfl,Nat.le_refl _⟩
  | replied under flight =>
    rw [resolveEq]
    exact (filesLater u _).trans (advanceLater _ _ _)

theorem stepLater {u v : Uploader} {e : Event} {effects : List Effect} (sound : Sound u)
    (step : u.step? e = some (v,effects)) : Later u v := by
  cases call : e.isCall with
  | true =>
    have called := sound.called call step
    exact ⟨called.config,called.kind,called.last⟩
  | false => exact answerLater (answerCases call step)

theorem stepSound {u v : Uploader} {e : Event} {effects : List Effect} (sound : Sound u)
    (step : u.step? e = some (v,effects)) : Sound v := by
  cases call : e.isCall with
  | true =>
    exact callSound sound (sound.called call step)
  | false => exact answerSound sound (answerCases call step)

theorem runSound {u w : Uploader} {events : List Event} {effects : List Effect} (sound : Sound u)
    (run : u.run? events = some (w,effects)) : Sound w := by
  induction events generalizing u effects with
  | nil =>
    obtain ⟨rfl,-⟩ := runNil.mp run
    exact sound
  | cons e rest ih =>
    obtain ⟨v,said,more,next,later,-⟩ := runCons.mp run
    exact ih (stepSound sound next) later

theorem runLater {u w : Uploader} {events : List Event} {effects : List Effect} (sound : Sound u)
    (run : u.run? events = some (w,effects)) : Later u w := by
  induction events generalizing u effects with
  | nil =>
    obtain ⟨rfl,-⟩ := runNil.mp run
    exact .refl _
  | cons e rest ih =>
    obtain ⟨v,said,more,next,later,-⟩ := runCons.mp run
    exact (stepLater sound next).trans (ih (stepSound sound next) later)

theorem Sound.source {u w : Uploader} {events : List Event} {effects : List Effect} {effect : Effect}
    (sound : Sound u) (run : u.run? events = some (w,effects)) (told : effect ∈ effects) :
    ∃ v e x said, Sound v ∧ v.config = u.config ∧ v.step? e = some (x,said) ∧ effect ∈ said := by
  obtain ⟨past,v,done,e,x,said,earlier,next,told'⟩ := runSource run told
  exact ⟨v,e,x,said,runSound sound earlier,(runLater sound earlier).config,next,told'⟩

theorem reachableSound {u : Uploader} (reachable : Reachable u) : Sound u := by
  induction reachable with
  | rendered ready => exact renderedSound ready
  | step _ next ih => exact stepSound ih next

theorem Course.sound {u v : Uploader} {events : List Event} {effects : List Effect}
    (course : Course u events effects v) (sound : Sound u) : Sound v := by
  induction course with
  | refl => exact sound
  | step _ _ next ih => exact stepSound ih next

theorem answersCourse {u w : Uploader} {events : List Event} {effects : List Effect}
    (answer : ∀ e ∈ events, e.isCall = false) (run : u.run? events = some (w,effects)) :
    Course u events effects w := by
  induction events generalizing u effects with
  | nil =>
    obtain ⟨rfl,rfl⟩ := runNil.mp run
    exact .refl
  | cons e rest ih =>
    obtain ⟨v,said,more,next,later,rfl⟩ := runCons.mp run
    have busy := (answerCases (answer e List.mem_cons_self) next).busy
    exact .cons busy next (ih (fun e mem => answer e (List.mem_cons_of_mem _ mem)) later)

end SignedUpload.Uploader

import SignedUpload.Proofs.Forms
import SignedUpload.Proofs.Progress

/-! Every batch does exactly what it was begun for. Of the files that waited, those still listed when
its policy is accepted are each read once and, if they can be read and put into a request, posted
once; the one report comes after the last of them and holds what was stored, in their order. -/
namespace SignedUpload.Uploader

structure Exact (config : Config) (policy : Policy) (origin : Origin) (jobs : List Job)
    (events : List Event) (effects : List Effect) (w : Uploader) : Prop where
  loaded : loads effects <+: jobs
  once : ∀ job ∈ jobs, (readsAt job.position events).length ≤ 1 ∧
    (repliesAt job.position events).length ≤ 1
  posted : (posts effects).Perm (jobs.filterMap (sentOf config policy events))
  going : w.isUploading = true ↔ ∃ job ∈ jobs, outcomeOf config policy events job = none
  silent : w.isUploading = true → reports effects = []
  -- A batch that is not over waits for an answer to what it asked for.
  live : w.isUploading = true → ∃ job ∈ loads effects,
    (∀ contents, (w.step? (.fileRead job.position contents)).isSome = true) ∨
      ∀ reply, (w.step? (.postAnswered job.position reply)).isSome = true
  delivered : w.isUploading = false → ∀ job ∈ jobs, ∃ contents,
    readsAt job.position events = [contents] ∧
    (posts effects).filter (·.1 = job) =
      ((posting config policy job contents).toOption.map fun request => (job,request)).toList
  -- A file that was read is posted just when its form has somewhere to go.
  sends : w.isUploading = false → ∀ job ∈ jobs, ∀ data, readsAt job.position events = [.ok data] →
    ((∃ request, (posts effects).filter (·.1 = job) = [(job,request)]) ↔
      config.Sends ⟨job.name,job.contentType,data⟩)
  finished : w.isUploading = false → loads effects = jobs ∧
    ∃ before, reports before = [] ∧ effects = before ++
      [.allUploaded (objectsOf config policy events jobs),
        .answer (succeed origin (objectsOf config policy events jobs))]
  listed : w.config.multiple = true → ∀ job ∈ jobs, ∀ f ∈ w.files, f.id = job.id →
    f.key = some job.key ∧ f.status = match outcomeOf config policy events job with
      | none => .uploading
      | some outcome => statusOf outcome
  withdrawn : w.config.multiple = true → ∀ job ∈ jobs, (∀ f ∈ w.files, f.id ≠ job.id) →
    Withdrawn config policy events job

section Stands
variable {config : Config} {policy : Policy} {t : Transfer} {events : List Event} {job : Job}

theorem Stands.once (stands : Stands config policy t events job) :
    (readsAt job.position events).length ≤ 1 ∧ (repliesAt job.position events).length ≤ 1 := by
  cases stands with
  | queued waits unread unanswered => simp [unread,unanswered]
  | reading flies unread unanswered => simp [unread,unanswered]
  | sent flies read made unanswered => simp [read,unanswered]
  | broken gone read broken unanswered => simp [read,unanswered]
  | replied gone read made answered => simp [read,answered]

theorem Stands.read (stands : Stands config policy t events job) (gone : job ∉ pendingJobs t) :
    ∃ contents, readsAt job.position events = [contents] := by
  cases stands with
  | queued waits unread unanswered => exact absurd (List.mem_append_left _ waits) gone
  | reading flies unread unanswered => exact absurd (flightPending flies) gone
  | sent flies read made unanswered => exact ⟨_,read⟩
  | broken gone read broken unanswered => exact ⟨_,read⟩
  | replied gone read made answered => exact ⟨_,read⟩

end Stands

theorem flightTakes {u : Uploader} {origin : Origin} {t : Transfer} {flight : Flight}
    (under : u.batch = some ⟨origin,.transferring t⟩)
    (once : ((pendingJobs t).map (·.position)).Nodup) (flies : flight ∈ t.flights) :
    (∀ contents, (u.step? (.fileRead flight.job.position contents)).isSome = true) ∨
      ∀ reply, (u.step? (.postAnswered flight.job.position reply)).isSome = true := by
  have found := (flightIff once).mpr ⟨flies,rfl⟩
  obtain ⟨job,stage⟩ := flight
  cases stage with
  | reading =>
    left
    intro contents
    simp only [step?,fileRead,under,found]
    cases contents with
    | error fault => rfl
    | ok data =>
      simp only
      split <;> rfl
  | posting request =>
    right
    intro reply
    simp only [step?,postAnswered,under,found]
    rfl

theorem postsOf {config : Config} {policy : Policy} {jobs : List Job} {events : List Event}
    {effects : List Effect} (distinct : jobs.Nodup)
    (posted : (posts effects).Perm (jobs.filterMap (sentOf config policy events))) {job : Job}
    (mem : job ∈ jobs) {contents : Except DiskFault Bytes}
    (read : readsAt job.position events = [contents]) :
    (posts effects).filter (·.1 = job) =
      ((posting config policy job contents).toOption.map fun request => (job,request)).toList := by
  have own : (jobs.filterMap (sentOf config policy events)).filter (·.1 = job) =
      (sentOf config policy events job).toList := by
    refine filterMapOwn distinct mem fun j x eq => ?_
    obtain ⟨request,-,rfl⟩ := Option.map_eq_some_iff.mp eq
    simp
  have same := posted.filter fun sent => sent.1 = job
  rw [own] at same
  have its : sentOf config policy events job =
      (posting config policy job contents).toOption.map fun request => (job,request) := by
    simp [sentOf,requestOf,read]
  rw [its] at same
  cases one : posting config policy job contents with
  | error _ =>
    rw [one] at same
    exact List.perm_nil.mp same
  | ok request =>
    rw [one] at same
    exact List.perm_singleton.mp same

theorem postsSends {config : Config} {policy : Policy} {jobs : List Job} {events : List Event}
    {effects : List Effect} (distinct : jobs.Nodup)
    (posted : (posts effects).Perm (jobs.filterMap (sentOf config policy events))) {job : Job}
    (mem : job ∈ jobs) {data : Bytes} (read : readsAt job.position events = [.ok data]) :
    (∃ request, (posts effects).filter (·.1 = job) = [(job,request)]) ↔
      config.Sends ⟨job.name,job.contentType,data⟩ := by
  rw [← config.storageSends job.key policy,postsOf distinct posted mem read,posting]
  cases config.storageRequest job.key policy ⟨job.name,job.contentType,data⟩ with
  | error fault => simp [Except.toOption]
  | ok request => simp [Except.toOption]

theorem reportAsks (objects : List UploadedObject) (answer : Answer) :
    loads [.allUploaded objects,.answer answer] = [] ∧
      posts [.allUploaded objects,.answer answer] = [] := ⟨rfl,rfl⟩

section Exact
variable {base u : Uploader} {policy : Policy} {jobs : List Job} {origin : Origin}
  {events : List Event} {effects : List Effect} {t : Transfer} (launched : Launched base jobs)
  (transit : Transit base.config policy jobs events effects t) (silent : reports effects = [])
  (keep : Stayed base policy jobs events u)
include launched transit silent keep

theorem goingExact (sound : Sound u) (under : u.batch = some ⟨origin,.transferring t⟩)
    (flying : t.flights ≠ []) : Exact base.config policy origin jobs events effects u := by
  have busy : u.isUploading = true := by simp [isUploading,under]
  have runs := (sound.runs under).1
  obtain ⟨flight,flies⟩ := List.exists_mem_of_ne_nil _ flying
  have pending := flightPending flies
  have here := transit.inside _ pending
  have loaded : flight.job ∈ loads effects := by
    have started := here
    rw [← transit.started] at started
    rcases List.mem_append.mp started with loaded | queued
    · exact loaded
    · exact absurd rfl (queuedApart runs.positions flies _ queued)
  exact {
    loaded := ⟨t.queue,transit.started⟩
    once := fun job mem => (transit.stands job mem).once
    posted := transit.posted
    going := iff_of_true busy
      ⟨flight.job,here,(transit.stands _ here).openIff.mpr pending⟩
    silent := fun _ => silent
    live := fun _ => ⟨flight.job,loaded,flightTakes under runs.positions flies⟩
    delivered := fun idle => absurd busy (by simp [idle])
    sends := fun idle => absurd busy (by simp [idle])
    finished := fun idle => absurd busy (by simp [idle])
    listed := fun _ job mem f listed named => keep.file launched mem listed named
    withdrawn := fun _ job mem absent => keep.gone job mem absent }

theorem reportedExact (empty : pendingJobs t = []) :
    Exact base.config policy origin jobs events
      (effects ++ [.allUploaded (objectsOf base.config policy events jobs),
        .answer (succeed origin (objectsOf base.config policy events jobs))]) u.settled := by
  have idle : u.settled.isUploading = false := by simp [isUploading,u.settledRest.1]
  have closed : ∀ job ∈ jobs, job ∉ pendingJobs t := by simp [empty]
  have queue : t.queue = [] := (List.append_eq_nil_iff.mp empty).1
  have asks := reportAsks (objectsOf base.config policy events jobs)
    (succeed origin (objectsOf base.config policy events jobs))
  have loaded : loads effects = jobs := by simpa [queue] using transit.started
  have kept : u.settled.config.multiple = true → u.settled.files = u.files := by
    intro multiple
    rw [u.settledRest.2.2] at multiple
    simp [settled,multiple]
  have loadedAll : loads (effects ++ [.allUploaded (objectsOf base.config policy events jobs),
      .answer (succeed origin (objectsOf base.config policy events jobs))]) = jobs := by
    rw [loadsAppend,loaded,asks.1,List.append_nil]
  have distinct : jobs.Nodup := List.Nodup.of_map _ launched.positions
  have postedAll : (posts (effects ++ [.allUploaded (objectsOf base.config policy events jobs),
      .answer (succeed origin (objectsOf base.config policy events jobs))])).Perm
      (jobs.filterMap (sentOf base.config policy events)) := by
    rw [postsAppend,asks.2,List.append_nil]
    exact transit.posted
  exact {
    loaded := ⟨[],by rw [loadedAll,List.append_nil]⟩
    once := fun job mem => (transit.stands job mem).once
    posted := postedAll
    delivered := by
      intro _ job mem
      obtain ⟨contents,read⟩ := (transit.stands job mem).read (closed job mem)
      exact ⟨contents,read,postsOf distinct postedAll mem read⟩
    sends := fun _ job mem data read => postsSends distinct postedAll mem read
    going := by
      refine iff_of_false (by simp [idle]) ?_
      rintro ⟨job,mem,undone⟩
      exact closed job mem ((transit.stands job mem).openIff.mp undone)
    silent := fun busy => absurd busy (by simp [idle])
    live := fun busy => absurd busy (by simp [idle])
    finished := fun _ => ⟨loadedAll,effects,silent,rfl⟩
    listed := fun multiple job mem f listed named =>
      keep.file launched mem (kept multiple ▸ listed) named
    withdrawn := fun multiple job mem absent =>
      keep.gone job mem (kept multiple ▸ absent) }

end Exact

theorem progressExact {base w : Uploader} {policy : Policy} {jobs : List Job} {origin : Origin}
    {events : List Event} {effects : List Effect} (launched : Launched base jobs) (sound : Sound w)
    (progress : Progress base.config policy jobs origin (Stayed base policy jobs) events effects w) :
    Exact base.config policy origin jobs events effects w := by
  cases progress with
  | going under same flying transit silent keep =>
    exact goingExact launched transit silent keep sound under flying
  | finished same empty transit silent keep =>
    exact reportedExact launched transit silent keep empty

theorem answerTransfers {u : Uploader} {e : Event} {result : Result} (answered : Answered u e result)
    {origin request waiting} :
    result.1.batch ≠ some ⟨origin,.awaitingPolicy request waiting⟩ := by
  intro awaiting
  obtain ⟨origin,phase,under,comes⟩ := answerComes answered
  cases comes with
  | reading jobs under => cases under.symm.trans awaiting
  | posting job request under => cases under.symm.trans awaiting
  | reported objects free => cases free.symm.trans awaiting
  | denied failure free => cases free.symm.trans awaiting

theorem Course.awaiting {v a : Uploader} {calls : List Event} {said : List Effect} (sound : Sound v)
    (course : Course v calls said a) {origin request waiting}
    (awaiting : a.batch = some ⟨origin,.awaitingPolicy request waiting⟩) :
    v.batch = some ⟨origin,.awaitingPolicy request waiting⟩ ∧ Quiet said := by
  induction course with
  | refl => exact ⟨awaiting,⟨rfl,rfl,rfl⟩⟩
  | @step a b calls said e more earlier busy next ih =>
    cases call : e.isCall with
    | false => exact absurd awaiting (answerTransfers (answerCases call next))
    | true =>
      have called := (earlier.sound sound).called call next
      obtain ⟨begun,quiet⟩ := ih (called.keeps busy ▸ awaiting)
      exact ⟨begun,quiet.append called.quiet⟩

theorem launch {a b : Uploader} {origin : Origin} {request waiting reply now supply policy}
    {opening : List Effect} (sound : Sound a)
    (awaiting : a.batch = some ⟨origin,.awaitingPolicy request waiting⟩)
    (granted : a.config.policyFrom request reply now = .ok policy)
    (answered : a.step? (.policyAnswered reply now supply) = some (b,opening)) :
    ∃ base jobs, dispatch (.fresh a.config.prefixPath) supply 0 a.files waiting =
        some (jobs,base.files) ∧
      base = { a with files := base.files } ∧ Launched base jobs ∧
      (b,opening) = base.advance origin ⟨policy,jobs,[],.start jobs.length,none⟩ := by
  generalize (b,opening) = result at answered ⊢
  cases answerCases rfl answered with
  | denied awaiting' denied =>
    rw [awaiting] at awaiting'
    cases awaiting'
    rw [granted] at denied
    cases denied
  | @granted _ _ _ _ _ _ _ jobs sent awaiting' granted' given =>
    rw [awaiting] at awaiting'
    cases awaiting'
    rw [granted] at granted'
    cases granted'
    have waits := sound.waits awaiting
    have d := dispatchExact sound.distinct waits.once waits.still given
    obtain ⟨listed,runs⟩ := dispatchRuns sound awaiting policy d
    have pending : pendingJobs ⟨policy,jobs,[],.start jobs.length,none⟩ = jobs := by
      simp [pendingJobs]
    refine ⟨{ a with files := sent },jobs,given,rfl,⟨listed,?_,d.rising,?_,?_⟩,rfl⟩
    · rw [← pending]
      exact runs.ids
    · intro job mem
      exact runs.sent job (by rwa [pending])
    · intro f mem uploading
      obtain ⟨job,mem',named⟩ := runs.all f mem uploading
      exact ⟨job,by rwa [pending] at mem',named⟩

theorem idleCall {u : Uploader} {call : Event} {result : Result} (idle : u.isUploading = false)
    (step : u.step? call = some result) : call.isCall = true := by
  cases isCall : call.isCall with
  | true => rfl
  | false =>
    have busy := (answerCases isCall step).busy
    simp [idle] at busy

theorem policyAwaited {a : Uploader} {reply now supply} {result : Result}
    (answered : a.step? (.policyAnswered reply now supply) = some result) :
    ∃ origin request waiting, a.batch = some ⟨origin,.awaitingPolicy request waiting⟩ := by
  cases answerCases rfl answered with
  | denied awaiting _ => exact ⟨_,_,_,awaiting⟩
  | granted awaiting _ _ => exact ⟨_,_,_,awaiting⟩

theorem batchExact {u v a b w : Uploader} {call : Event} {asked said opening effects : List Effect}
    {origin : Origin} {request : Http.Request} {waiting : List FileId} {calls events : List Event}
    {reply : Http.Reply} {now : Instant} {supply : Supply} {policy : Policy}
    (reachable : Reachable u) (idle : u.isUploading = false)
    (called : u.step? call = some (v,asked))
    (begun : v.batch = some ⟨origin,.awaitingPolicy request waiting⟩)
    (wait : Course v calls said a)
    (answered : a.step? (.policyAnswered reply now supply) = some (b,opening))
    (granted : a.config.policyFrom request reply now = .ok policy)
    (course : Course b events effects w) :
    waiting = waitingIds v.files ∧ Quiet (asked ++ said) ∧ ∃ jobs,
      jobs.map (·.id) = waiting.filter (fun id => (a.file? id).isSome) ∧
      jobs.Pairwise (·.position < ·.position) ∧
      (∀ job ∈ jobs, ∃ f ∈ a.files, MadeOf job f) ∧
      Exact a.config policy origin jobs events (opening ++ effects) w := by
  have sound := reachableSound reachable
  have entered := sound.called (idleCall idle called) called
  have soundV := stepSound sound called
  obtain ⟨origin',request',waiting',awaiting⟩ := policyAwaited answered
  obtain ⟨begun',quiet⟩ := wait.awaiting soundV awaiting
  rw [begun] at begun'
  cases begun'
  have soundA := wait.sound soundV
  obtain ⟨base,jobs,given,same,launched,opens⟩ := launch soundA awaiting granted answered
  have waits := soundA.waits awaiting
  have d := dispatchExact soundA.distinct waits.once waits.still given
  refine ⟨?_,entered.quiet.append quiet,jobs,d.ids,d.rising,d.made,?_⟩
  · rcases entered.batch with ⟨same,-⟩ | ⟨-,-,_,_,waits⟩
    · have free := idleIff.mp idle
      rw [begun,free] at same
      cases same
    · rw [begun] at waits
      cases waits
      rfl
  · have soundB := stepSound soundA answered
    have config : a.config = base.config := by rw [same]
    have first := launchProgress (stayedKeeping launched policy) (stayedStart launched policy) opens
    have progress := courseProgress (stayedKeeping launched policy) launched.rising soundB first
      course fun _ call busy called keep => keep.call launched call called busy
    rw [config]
    exact progressExact launched (course.sound soundB) progress

def asking : Result := offered.next .start

def lessened : Result := asking.1.next (.remove 2)

def opened : Result := lessened.1.next sampleAccepted

def storing : List Event := [.fileRead 0 (.ok []),.postAnswered 0 (.whole 200 [])]

theorem oneOfTwoExact : ∃ request policy,
    Reachable offered ∧ offered.isUploading = false ∧
    offered.step? .start = some (asking.1,asking.2) ∧
    asking.1.batch = some ⟨.start,.awaitingPolicy request [1,2]⟩ ∧
    Course asking.1 [.remove 2] lessened.2 lessened.1 ∧
    lessened.1.step? sampleAccepted = some (opened.1,opened.2) ∧
    lessened.1.config.policyFrom request samplePolicy ⟨0,0⟩ = .ok policy ∧
    Course opened.1 storing (opened.1.after storing).2 (opened.1.after storing).1 ∧
    (opened.1.after storing).1.isUploading = false ∧
    [1,2] = waitingIds asking.1.files ∧ Quiet (asking.2 ++ lessened.2) ∧ ∃ jobs,
      jobs.map (·.id) = [1,2].filter (fun id => (lessened.1.file? id).isSome) ∧
      jobs.Pairwise (·.position < ·.position) ∧
      (∀ job ∈ jobs, ∃ f ∈ lessened.1.files, MadeOf job f) ∧
      Exact lessened.1.config policy .start jobs storing
        (opened.2 ++ (opened.1.after storing).2) (opened.1.after storing).1 := by
  have started : offered.step? .start = some (asking.1,asking.2) := stepNext (by decide +kernel)
  have removed : asking.1.step? (.remove 2) = some (lessened.1,lessened.2) :=
    stepNext (by decide +kernel)
  have wait : Course asking.1 [.remove 2] lessened.2 lessened.1 :=
    .step .refl (by decide +kernel) removed
  have answered : lessened.1.step? sampleAccepted = some (opened.1,opened.2) :=
    stepNext (by decide +kernel)
  have course : Course opened.1 storing (opened.1.after storing).2 (opened.1.after storing).1 :=
    answersCourse (by simp [storing,Event.isCall]) (runAfter (by decide +kernel))
  obtain ⟨request,policy,begun,accepted⟩ : ∃ request policy,
      asking.1.batch = some ⟨.start,.awaitingPolicy request [1,2]⟩ ∧
        lessened.1.config.policyFrom request samplePolicy ⟨0,0⟩ = .ok policy := ⟨_,_,rfl,rfl⟩
  exact ⟨request,policy,offeredReachable,offeredIdle,started,begun,wait,answered,accepted,course,
    by decide +kernel,
    batchExact offeredReachable offeredIdle started begun wait answered accepted course⟩

-- A file that is read and has nowhere to go.
def storeless : Config := { sampleConfig true with endpoint := some "ftp://store" }

def listedAlone : Uploader :=
  ((⟨storeless,.file,[],[],0,false,none⟩ : Uploader).next (.choose sampleDisk [[97]])).1

def askingAlone : Result := listedAlone.next .start

def openedAlone : Result := askingAlone.1.next sampleAccepted

def readingAlone : Result := openedAlone.1.next (.fileRead 0 (.ok []))

theorem someReadUnposted : ¬∀ {u v b w : Uploader} {asked opening effects : List Effect}
    {origin : Origin} {request : Http.Request} {waiting : List FileId} {events : List Event}
    {reply : Http.Reply} {now : Instant} {supply : Supply} {policy : Policy}, Reachable u →
      u.isUploading = false → u.step? .start = some (v,asked) →
      v.batch = some ⟨origin,.awaitingPolicy request waiting⟩ →
      v.step? (.policyAnswered reply now supply) = some (b,opening) →
      v.config.policyFrom request reply now = .ok policy → Course b events effects w →
      w.isUploading = false → ∀ job ∈ loads (opening ++ effects), ∀ data,
        readsAt job.position events = [.ok data] →
          ((posts (opening ++ effects)).filter (·.1 = job)).length = 1 := by
  intro posted
  have ready : render storeless = .ok ⟨storeless,.file,[],[],0,false,none⟩ := rfl
  have reachable : Reachable listedAlone := .step (.rendered ready) (stepNext (by decide +kernel))
  have started : listedAlone.step? .start = some (askingAlone.1,askingAlone.2) :=
    stepNext (by decide +kernel)
  have answered : askingAlone.1.step? sampleAccepted = some (openedAlone.1,openedAlone.2) :=
    stepNext (by decide +kernel)
  have course : Course openedAlone.1 [.fileRead 0 (.ok [])] readingAlone.2 readingAlone.1 :=
    .step .refl (by decide +kernel) (stepNext (by decide +kernel))
  obtain ⟨request,policy,begun,accepted⟩ : ∃ request policy,
      askingAlone.1.batch = some ⟨.start,.awaitingPolicy request [1]⟩ ∧
        askingAlone.1.config.policyFrom request samplePolicy ⟨0,0⟩ = .ok policy := ⟨_,_,rfl,rfl⟩
  obtain ⟨job,loaded,placed⟩ : ∃ job ∈ loads (openedAlone.2 ++ readingAlone.2),
      job.position = 0 := by decide +kernel
  have one := posted reachable (by decide +kernel) started begun answered accepted course
    (by decide +kernel) job loaded [] (by rw [placed]; rfl)
  have unsent : posts (openedAlone.2 ++ readingAlone.2) = [] := by decide +kernel
  rw [unsent] at one
  cases one

end SignedUpload.Uploader

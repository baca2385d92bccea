import SignedUpload.Proofs.Exactness

/-! How many jobs of a batch are on their way at once. The window is as full as the limit and the
open jobs allow, so that a batch with open jobs always waits for an answer, and what it collected is
there when the last one comes. -/
namespace SignedUpload.Uploader

structure Windowed (most : Nat) (t : Transfer) : Prop where
  unbounded : most = 0 → t.queue = []
  bounded : 0 < most → t.flights.length ≤ most
  filled : 0 < most → t.queue ≠ [] → t.flights.length = most

theorem fillWindowed {u : Uploader} {t : Transfer}
    (bounded : 0 < u.config.maxConcurrency → t.flights.length ≤ u.config.maxConcurrency) :
    Windowed u.config.maxConcurrency (u.fill t) := by
  have flights : (u.fill t).flights.length = t.flights.length + min (u.room t) t.queue.length := by
    simp [fill,startable]
  have queue : (u.fill t).queue.length = t.queue.length - u.room t := by
    simp [fill]
  refine ⟨?_,?_,?_⟩
  · intro zero
    simp [fill,room,zero]
  · intro positive
    have before := bounded positive
    have level : u.room t = u.config.maxConcurrency - t.flights.length := by
      simp [room,Nat.ne_of_gt positive]
    omega
  · intro positive queued
    have before := bounded positive
    have level : u.room t = u.config.maxConcurrency - t.flights.length := by
      simp [room,Nat.ne_of_gt positive]
    have more := List.length_pos_iff.mpr queued
    omega

theorem advanceWindowed {u : Uploader} {origin origin' : Origin} {t t' : Transfer} {most : Nat}
    (under : (u.advance origin t).1.batch = some ⟨origin',.transferring t'⟩)
    (limit : u.config.maxConcurrency = most) (bounded : 0 < most → t.flights.length ≤ most) :
    Windowed most t' := by
  subst limit
  rcases advanceCases u origin t with ⟨-,finished⟩ | ⟨-,going⟩
  · rw [finished,reportEq] at under
    simp [u.settledRest.1] at under
  · rw [going] at under
    cases under
    exact fillWindowed bounded

theorem resolveWindowed {u : Uploader} {origin origin' : Origin} {t t' : Transfer} {job : Job}
    {outcome : Except UploadError Unit} (windowed : Windowed u.config.maxConcurrency t)
    (under : (u.resolve origin t job outcome).1.batch = some ⟨origin',.transferring t'⟩) :
    Windowed u.config.maxConcurrency t' := by
  rw [resolveEq] at under
  exact advanceWindowed under rfl fun positive =>
    Nat.le_trans (List.length_filter_le _ _) (windowed.bounded positive)

theorem answerWindowed {u : Uploader} {e : Event} {result : Result}
    (before : ∀ {origin t}, u.batch = some ⟨origin,.transferring t⟩ →
      Windowed u.config.maxConcurrency t)
    (answered : Answered u e result) {origin : Origin} {t : Transfer}
    (under : result.1.batch = some ⟨origin,.transferring t⟩) :
    Windowed u.config.maxConcurrency t := by
  cases answered with
  | denied awaiting denied =>
    rw [policyFailedEq] at under
    simp [(takeBackRest _ _).1] at under
  | granted awaiting granted given => exact advanceWindowed under rfl fun _ => Nat.zero_le _
  | unsent transfers flight broken => exact resolveWindowed (before transfers) under
  | @posted _ t position _ _ request transfers flight sent =>
    have windowed := before transfers
    have same : (setStage t position (.posting request)).flights.length = t.flights.length := by
      simp [setStage]
    cases under
    exact ⟨windowed.unbounded,fun positive => same ▸ windowed.bounded positive,
      fun positive queued => same ▸ windowed.filled positive queued⟩
  | replied transfers flight => exact resolveWindowed (before transfers) under

theorem reachableWindowed {u : Uploader} (reachable : Reachable u) {origin : Origin} {t : Transfer}
    (under : u.batch = some ⟨origin,.transferring t⟩) : Windowed u.config.maxConcurrency t := by
  induction reachable generalizing origin t with
  | rendered ready =>
    obtain ⟨kind,rfl⟩ := renderedFresh ready
    cases under
  | @step u v e said earlier next ih =>
    have sound := reachableSound earlier
    rw [(stepLater sound next).config]
    cases call : e.isCall with
    | false => exact answerWindowed ih (answerCases call next) under
    | true =>
      rcases (sound.called call next).batch with ⟨same,-⟩ | ⟨-,-,_,_,begun⟩
      · exact ih (same ▸ under)
      · cases begun.symm.trans under

section Jobs
variable (config : Config) (policy : Policy) (events : List Event)

def unresolved (jobs : List Job) : List Job :=
  jobs.filter fun job => (outcomeOf config policy events job).isNone

def inFlight (effects : List Effect) : List Job := unresolved config policy events (loads effects)

def limit (jobs : List Job) : Nat :=
  if config.maxConcurrency = 0 then jobs.length else config.maxConcurrency

end Jobs

section Transit
variable {config : Config} {policy : Policy} {jobs : List Job} {events : List Event}
  {effects : List Effect} {t : Transfer} (transit : Transit config policy jobs events effects t)
include transit

theorem Transit.unresolvedIff {job : Job} :
    job ∈ unresolved config policy events jobs ↔ job ∈ pendingJobs t := by
  simp only [unresolved,List.mem_filter,Option.isNone_iff_eq_none]
  constructor
  · rintro ⟨mem,undone⟩
    exact (transit.stands job mem).openIff.mp undone
  · intro pending
    have mem := transit.inside job pending
    exact ⟨mem,(transit.stands job mem).openIff.mpr pending⟩

theorem Transit.split : unresolved config policy events jobs =
    inFlight config policy events effects ++ t.queue := by
  have queue : unresolved config policy events t.queue = t.queue := by
    refine List.filter_eq_self.mpr fun job waits => ?_
    have pending : job ∈ pendingJobs t := List.mem_append_left _ waits
    exact (List.mem_filter.mp (transit.unresolvedIff.mpr pending)).2
  rw [← transit.started]
  exact (List.filter_append ..).trans (congrArg _ queue)

theorem Transit.flying (distinct : jobs.Nodup) (once : ((pendingJobs t).map (·.position)).Nodup) :
    (inFlight config policy events effects).Perm (t.flights.map (·.job)) := by
  have undone : (unresolved config policy events jobs).Nodup := distinct.sublist List.filter_sublist
  have pending : (unresolved config policy events jobs).Perm (pendingJobs t) :=
    (List.perm_ext_iff_of_nodup undone (List.Nodup.of_map _ once)).mpr fun _ => transit.unresolvedIff
  rw [transit.split] at pending
  exact (List.perm_append_left_iff t.queue).mp (List.perm_append_comm.trans pending)

theorem Transit.window (distinct : jobs.Nodup) (once : ((pendingJobs t).map (·.position)).Nodup)
    (windowed : Windowed config.maxConcurrency t) :
    (inFlight config policy events effects).length =
      min (limit config jobs) (unresolved config policy events jobs).length := by
  have flights := (transit.flying distinct once).length_eq
  have all : (unresolved config policy events jobs).length ≤ jobs.length :=
    List.length_filter_le _ _
  have parts := congrArg List.length transit.split
  rw [List.length_append] at parts
  rw [List.length_map] at flights
  unfold limit
  split
  · rename_i zero
    have queue : t.queue.length = 0 := by simp [windowed.unbounded zero]
    omega
  · rename_i limited
    have positive := Nat.pos_of_ne_zero limited
    have bounded := windowed.bounded positive
    rcases Nat.eq_zero_or_pos t.queue.length with empty | queued
    · omega
    · have filled := windowed.filled positive (List.length_pos_iff.mp queued)
      omega

end Transit

structure Collected (w : Uploader) (origin : Origin) (t : Transfer) (result : Result) (job : Job)
    (outcome : Except UploadError Unit) (objects : List UploadedObject) : Prop where
  flies : job ∈ t.flights.map (·.job)
  resolved : result = w.resolve origin t job outcome
  last : pendingJobs (closeJob w.config t job outcome) = []
  collected : (closeJob w.config t job outcome).completed = some objects
  reported : reports result.2 = [objects]

theorem resolveCollected {w : Uploader} {origin : Origin} {t : Transfer} {job : Job} {stage : Stage}
    (sound : Sound w) (under : w.batch = some ⟨origin,.transferring t⟩)
    (flies : ⟨job,stage⟩ ∈ t.flights) (outcome : Except UploadError Unit)
    (reported : reports (w.resolve origin t job outcome).2 ≠ []) :
    ∃ objects, Collected w origin t (w.resolve origin t job outcome) job outcome objects := by
  have runs := (sound.runs under).1
  have here : job ∈ t.flights.map (·.job) := List.mem_map.mpr ⟨_,flies,rfl⟩
  rcases advanceCases { w with files := markResolved w.files job.id (statusOf outcome) } origin
    (closeJob w.config t job outcome) with ⟨last,finished⟩ | ⟨-,going⟩
  · have collected := closeComplete runs w.config flies outcome last
    refine ⟨_,here,rfl,last,collected,?_⟩
    rw [resolveEq,finished,collected]
    rfl
  · rw [resolveEq,going,reportsLoads] at reported
    exact absurd rfl reported

theorem reportCollected {w : Uploader} {origin : Origin} {t : Transfer} {e : Event}
    {result : Result} (sound : Sound w) (under : w.batch = some ⟨origin,.transferring t⟩)
    (step : w.step? e = some result) (reported : reports result.2 ≠ []) :
    ∃ job outcome objects, Collected w origin t result job outcome objects := by
  have once := (sound.runs under).1.positions
  cases call : e.isCall with
  | true =>
    obtain ⟨next,said⟩ := result
    exact absurd (sound.called call step).quiet.reports reported
  | false =>
    cases answerCases call step with
    | denied awaiting _ => cases under.symm.trans awaiting
    | granted awaiting _ _ => cases under.symm.trans awaiting
    | unsent under' flight broken =>
      cases under.symm.trans under'
      exact ⟨_,_,resolveCollected sound under ((flightIff once).mp flight).1 _ reported⟩
    | posted under' flight sent => exact absurd rfl reported
    | replied under' flight =>
      cases under.symm.trans under'
      exact ⟨_,_,resolveCollected sound under ((flightIff once).mp flight).1 _ reported⟩

/-- How a batch keeps to its limit and comes to its end, whatever is called meanwhile and in
whatever order its answers come. -/
structure Paced (config : Config) (policy : Policy) (origin : Origin) (jobs : List Job)
    (events : List Event) (effects : List Effect) (w : Uploader) : Prop where
  bound : 0 < config.maxConcurrency →
    (inFlight config policy events effects).length ≤ config.maxConcurrency
  window : (inFlight config policy events effects).length =
    min (limit config jobs) (unresolved config policy events jobs).length
  unbounded : config.maxConcurrency = 0 → loads effects = jobs
  order : loads effects <+: jobs
  once : (loads effects).Nodup
  alive : unresolved config policy events jobs ≠ [] →
    inFlight config policy events effects ≠ [] ∧ w.isUploading = true ∧ reports effects = []
  awaited : ∀ job ∈ inFlight config policy events effects,
    (∀ contents, (w.step? (.fileRead job.position contents)).isSome = true) ∨
      ∀ reply, (w.step? (.postAnswered job.position reply)).isSome = true
  -- Everything that was started is answered.
  ended : inFlight config policy events effects = [] →
    (∀ job ∈ jobs, outcomeOf config policy events job ≠ none) ∧ loads effects = jobs ∧
      w.isUploading = false ∧ reports effects = [objectsOf config policy events jobs]
  -- A batch under way has jobs, and its report is never the one of an empty batch.
  collected : ∀ {t e result}, w.batch = some ⟨origin,.transferring t⟩ → w.step? e = some result →
    reports result.2 ≠ [] → ∃ job ∈ jobs, ∃ outcome objects,
      Collected w origin t result job outcome objects

theorem noKeeping (config : Config) (policy : Policy) (jobs : List Job) :
    Keeping config policy jobs fun _ _ => True :=
  ⟨fun _ _ => trivial,fun _ _ => trivial,fun _ _ _ _ _ => trivial⟩

theorem Transit.says {config : Config} {policy : Policy} {jobs : List Job} {events : List Event}
    {effects said : List Effect} {t : Transfer}
    (transit : Transit config policy jobs events effects t) (unloaded : loads said = [])
    (unposted : posts said = []) : Transit config policy jobs events (effects ++ said) t :=
  { transit with
    started := by rw [loadsAppend,unloaded,List.append_nil]; exact transit.started
    posted := by rw [postsAppend,unposted,List.append_nil]; exact transit.posted }

theorem begunWaiting {u v : Uploader} {call : Event} {asked : List Effect} {origin request waiting}
    (reachable : Reachable u) (idle : u.isUploading = false)
    (called : u.step? call = some (v,asked))
    (begun : v.batch = some ⟨origin,.awaitingPolicy request waiting⟩) :
    waiting = waitingIds v.files := by
  have entered := (reachableSound reachable).called (idleCall idle called) called
  rcases entered.batch with ⟨same,-⟩ | ⟨-,-,_,_,waits⟩
  · have free := idleIff.mp idle
    rw [begun,free] at same
    cases same
  · cases begun.symm.trans waits
    rfl

theorem closedWindowed {t : Transfer} (empty : pendingJobs t = []) (most : Nat) :
    Windowed most t := by
  obtain ⟨queue,flights⟩ := List.append_eq_nil_iff.mp empty
  exact ⟨fun _ => queue,by simp [List.map_eq_nil_iff.mp flights],by simp [queue]⟩

section Paced
variable {config : Config} {policy : Policy} {origin : Origin} {jobs : List Job}
  {events : List Event} {effects : List Effect} {t : Transfer}
  (positions : (jobs.map (·.position)).Nodup)
  (transit : Transit config policy jobs events effects t) (silent : reports effects = [])
include positions transit silent

theorem goingPaced {w : Uploader} (reachable : Reachable w)
    (under : w.batch = some ⟨origin,.transferring t⟩) (same : w.config = config)
    (flying : t.flights ≠ []) : Paced config policy origin jobs events effects w := by
  have sound := reachableSound reachable
  have distinct : jobs.Nodup := List.Nodup.of_map _ positions
  have busy : w.isUploading = true := by simp [isUploading,under]
  have once := (sound.runs under).1.positions
  have windowed : Windowed config.maxConcurrency t := same ▸ reachableWindowed reachable under
  have flights := transit.flying distinct once
  have nonempty : inFlight config policy events effects ≠ [] := by
    intro empty
    rw [empty] at flights
    exact flying (List.map_eq_nil_iff.mp (List.nil_perm.mp flights))
  have order : loads effects <+: jobs := ⟨t.queue,transit.started⟩
  refine ⟨?_,transit.window distinct once windowed,?_,order,distinct.sublist order.sublist,
    fun _ => ⟨nonempty,busy,silent⟩,?_,fun empty => absurd empty nonempty,?_⟩
  · intro positive
    rw [flights.length_eq,List.length_map]
    exact windowed.bounded positive
  · intro zero
    have started := transit.started
    rwa [windowed.unbounded zero,List.append_nil] at started
  · intro job mem
    obtain ⟨flight,flies,rfl⟩ := List.mem_map.mp (flights.mem_iff.mp mem)
    exact flightTakes under once flies
  · intro t' e result under' step reported
    cases under.symm.trans under'
    obtain ⟨job,outcome,objects,collected⟩ := reportCollected sound under step reported
    obtain ⟨flight,flies,rfl⟩ := List.mem_map.mp collected.flies
    exact ⟨_,transit.inside _ (flightPending flies),outcome,objects,collected⟩

theorem finishedPaced {w : Uploader} (free : w.batch = none) (empty : pendingJobs t = []) :
    Paced config policy origin jobs events
      (effects ++ [.allUploaded (objectsOf config policy events jobs),
        .answer (succeed origin (objectsOf config policy events jobs))]) w := by
  have distinct : jobs.Nodup := List.Nodup.of_map _ positions
  have idle := idleIff.mpr free
  have told := transit.says (reportAsks (objectsOf config policy events jobs)
    (succeed origin (objectsOf config policy events jobs))).1 (reportAsks _ _).2
  have once : ((pendingJobs t).map (·.position)).Nodup := by simp [empty]
  have closed : ∀ job ∈ jobs, outcomeOf config policy events job ≠ none := by
    intro job mem undone
    have pending := (transit.stands job mem).openIff.mp undone
    rw [empty] at pending
    cases pending
  have resolved : unresolved config policy events jobs = [] :=
    List.filter_eq_nil_iff.mpr fun job mem => by simpa using closed job mem
  have queue : t.queue = [] := (List.append_eq_nil_iff.mp empty).1
  have flying := told.split
  rw [resolved,queue,List.append_nil] at flying
  have loaded := told.started
  rw [queue,List.append_nil] at loaded
  refine ⟨by simp [← flying],told.window distinct once (closedWindowed empty _),fun _ => loaded,
    ⟨[],by rw [loaded,List.append_nil]⟩,by rwa [loaded],fun undone => absurd resolved undone,
    by simp [← flying],fun _ => ⟨closed,loaded,idle,?_⟩,?_⟩
  · rw [reportsAppend,silent]
    rfl
  · intro t' e result under
    simp [free] at under

end Paced

theorem progressPaced {config : Config} {policy : Policy} {origin : Origin} {jobs : List Job}
    {events : List Event} {effects : List Effect} {w : Uploader}
    {Keep : List Event → Uploader → Prop} (reachable : Reachable w)
    (positions : (jobs.map (·.position)).Nodup)
    (progress : Progress config policy jobs origin Keep events effects w) :
    Paced config policy origin jobs events effects w := by
  cases progress with
  | going under same flying transit silent keep =>
    exact goingPaced positions transit silent reachable under same flying
  | @finished _ u t same empty transit silent keep =>
    exact finishedPaced positions transit silent u.settledRest.1 empty

theorem openingReports {base b : Uploader} {origin : Origin} {policy : Policy} {jobs : List Job}
    {opening : List Effect}
    (opens : (b,opening) = base.advance origin ⟨policy,jobs,[],.start jobs.length,none⟩) :
    jobs = [] ↔ opening = [.allUploaded [],.answer (succeed origin [])] := by
  have pending : pendingJobs ⟨policy,jobs,[],.start jobs.length,none⟩ = jobs := by
    simp [pendingJobs]
  rcases advanceCases base origin ⟨policy,jobs,[],.start jobs.length,none⟩ with
    ⟨empty,finished⟩ | ⟨nonempty,going⟩
  · rw [finished,reportEq] at opens
    cases opens
    exact iff_of_true (pending ▸ empty) rfl
  · rw [going] at opens
    cases opens
    refine iff_of_false (pending ▸ nonempty) fun same => ?_
    have reported := congrArg reports same
    rw [reportsLoads] at reported
    cases reported

theorem windowKept {u v a b w : Uploader} {call : Event} {asked said opening effects : List Effect}
    {origin : Origin} {request : Http.Request} {waiting : List FileId} {calls events : List Event}
    {reply : Http.Reply} {now : Instant} {supply : Supply} {policy : Policy}
    (reachable : Reachable u) (idle : u.isUploading = false)
    (called : u.step? call = some (v,asked))
    (begun : v.batch = some ⟨origin,.awaitingPolicy request waiting⟩)
    (wait : Course v calls said a)
    (answered : a.step? (.policyAnswered reply now supply) = some (b,opening))
    (granted : a.config.policyFrom request reply now = .ok policy)
    (course : Course b events effects w) : ∃ jobs,
      jobs.map (·.id) = (waitingIds v.files).filter (fun id => (a.file? id).isSome) ∧
      jobs.Pairwise (·.position < ·.position) ∧
      (jobs = [] ↔ opening = [.allUploaded [],.answer (succeed origin [])]) ∧
      Paced a.config policy origin jobs events (opening ++ effects) w := by
  have reachableA := wait.reachable (.step reachable called)
  have soundA := reachableSound reachableA
  obtain ⟨origin',request',waiting',awaiting⟩ := policyAwaited answered
  obtain ⟨begun',-⟩ := wait.awaiting (stepSound (reachableSound reachable) called) awaiting
  rw [begun] at begun'
  cases begun'
  obtain ⟨base,jobs,given,same,launched,opens⟩ := launch soundA awaiting granted answered
  have waits := soundA.waits awaiting
  have d := dispatchExact soundA.distinct waits.once waits.still given
  have listed : waiting = waitingIds v.files := begunWaiting reachable idle called begun
  refine ⟨jobs,listed ▸ d.ids,d.rising,openingReports opens,?_⟩
  have reachableB := reachableA.step answered
  have config : a.config = base.config := by rw [same]
  have keeping := noKeeping base.config policy jobs
  have progress := courseProgress keeping launched.rising (reachableSound reachableB)
    (launchProgress keeping trivial opens) course fun _ _ _ _ _ => trivial
  rw [config]
  exact progressPaced (course.reachable reachableB) launched.positions progress

-- Two files go through a window of one: the second starts when the first is stored.
def oneAtOnce : Uploader :=
  { sample true with config := { sampleConfig true with maxConcurrency := 1 } }

def lined : Uploader := (oneAtOnce.next (.choose sampleDisk [[97],[98]])).1

def askingOne : Result := lined.next .start

def oneFlying : Result := askingOne.1.next sampleAccepted

theorem secondFollows : ∃ request policy,
    Reachable lined ∧ lined.isUploading = false ∧
    lined.step? .start = some (askingOne.1,askingOne.2) ∧
    askingOne.1.batch = some ⟨.start,.awaitingPolicy request [1,2]⟩ ∧
    Course askingOne.1 [] [] askingOne.1 ∧
    askingOne.1.step? sampleAccepted = some (oneFlying.1,oneFlying.2) ∧
    askingOne.1.config.policyFrom request samplePolicy ⟨0,0⟩ = .ok policy ∧
    Course oneFlying.1 storing (oneFlying.1.after storing).2 (oneFlying.1.after storing).1 ∧
    ∃ jobs, jobs.map (·.id) =
        (waitingIds askingOne.1.files).filter (fun id => (askingOne.1.file? id).isSome) ∧
      jobs.Pairwise (·.position < ·.position) ∧
      (jobs = [] ↔ oneFlying.2 = [.allUploaded [],.answer (succeed .start [])]) ∧
      Paced askingOne.1.config policy .start jobs storing
        (oneFlying.2 ++ (oneFlying.1.after storing).2) (oneFlying.1.after storing).1 := by
  have rendered : render oneAtOnce.config = .ok oneAtOnce := rfl
  have reachable : Reachable lined := .step (.rendered rendered) (stepNext (by decide +kernel))
  have idle : lined.isUploading = false := by decide +kernel
  have started : lined.step? .start = some (askingOne.1,askingOne.2) := stepNext (by decide +kernel)
  have answered : askingOne.1.step? sampleAccepted = some (oneFlying.1,oneFlying.2) :=
    stepNext (by decide +kernel)
  have course :
      Course oneFlying.1 storing (oneFlying.1.after storing).2 (oneFlying.1.after storing).1 :=
    answersCourse (by simp [storing,Event.isCall]) (runAfter (by decide +kernel))
  obtain ⟨request,policy,begun,accepted⟩ : ∃ request policy,
      askingOne.1.batch = some ⟨.start,.awaitingPolicy request [1,2]⟩ ∧
        askingOne.1.config.policyFrom request samplePolicy ⟨0,0⟩ = .ok policy := ⟨_,_,rfl,rfl⟩
  exact ⟨request,policy,reachable,idle,started,begun,.refl,answered,accepted,course,
    windowKept reachable idle started begun .refl answered accepted course⟩

end SignedUpload.Uploader

import SignedUpload.Proofs.Exactness
import SignedUpload.Proofs.Uploading

/-! What a batch comes to does not depend on how many jobs may run at once, nor on the order in which
they come to their ends: only on what is read and answered for each job. -/
namespace SignedUpload.Uploader

def withLimit (u : Uploader) (limit : Nat) : Uploader :=
  { u with config := { u.config with maxConcurrency := limit } }

section Limit
variable (u : Uploader) (limit : Nat)

theorem failLimit (origin : Origin) (error : UploadError) : (u.withLimit limit).fail origin error =
    ((u.fail origin error).1.withLimit limit,(u.fail origin error).2) := by
  cases origin <;> rfl

theorem beginLimit (origin : Origin) : (u.withLimit limit).begin origin =
    ((u.begin origin).1.withLimit limit,(u.begin origin).2) := by
  have request : (u.withLimit limit).config.policyRequest = u.config.policyRequest := rfl
  have busy : (u.withLimit limit).isUploading = u.isUploading := rfl
  have files : (u.withLimit limit).files = u.files := rfl
  unfold begin
  rw [busy,files,request]
  split
  · exact failLimit u limit origin _
  · split
    · simp only [failLimit]
    · simp only
      split
      · rfl
      · split
        · simp only [policyFailed]
          exact congrArg (fun r : Result => (r.1,_ :: r.2)) (failLimit { u with batch := none } limit _ _)
        · rfl

theorem chooseLimit (disk : Disk) (paths : List Path) : (u.withLimit limit).choose disk paths =
    ((u.choose disk paths).1.withLimit limit,(u.choose disk paths).2) := by
  have multiple : (u.withLimit limit).config.multiple = u.config.multiple := rfl
  have filter : (u.withLimit limit).filter = u.filter := rfl
  have seen : (u.withLimit limit).snapshot = u.snapshot := rfl
  have staged : ∀ picked fresh,
      ({ u.withLimit limit with snapshot := picked } : Uploader).stage fresh =
        ((({ u with snapshot := picked } : Uploader).stage fresh).1.withLimit limit,
          (({ u with snapshot := picked } : Uploader).stage fresh).2) := fun _ _ => rfl
  unfold choose
  rw [multiple,filter,seen]
  split
  · rfl
  · simp only [staged,beginLimit]
    split <;> rfl

theorem closeLimit : (u.withLimit limit).closeDialog =
    (u.closeDialog.1.withLimit limit,u.closeDialog.2) := by
  have busy : (u.withLimit limit).isUploading = u.isUploading := rfl
  have shown : (u.withLimit limit).dialogOpen = u.dialogOpen := rfl
  unfold closeDialog
  rw [busy,shown]
  split
  · rfl
  · split <;> rfl

theorem removeLimit (id : FileId) : (u.withLimit limit).remove id =
    ((u.remove id).1.withLimit limit,(u.remove id).2) := by
  have found : (u.withLimit limit).file? id = u.file? id := rfl
  unfold remove
  rw [found]
  cases u.file? id with
  | none => rfl
  | some file =>
    simp only
    split <;> rfl

theorem retryLimit (id : FileId) : (u.withLimit limit).retry id =
    ((u.retry id).1.withLimit limit,(u.retry id).2) := by
  have found : ({ u.withLimit limit with lastId := u.lastId + 1 } : Uploader).file? id =
      ({ u with lastId := u.lastId + 1 } : Uploader).file? id := rfl
  have last : (u.withLimit limit).lastId = u.lastId := rfl
  unfold retry
  simp only [last,found]
  cases ({ u with lastId := u.lastId + 1 } : Uploader).file? id with
  | none => rfl
  | some file =>
    simp only
    split <;> rfl

theorem callLimit {e : Event} (call : e.isCall = true) : (u.withLimit limit).step? e =
    (u.step? e).map fun r => (r.1.withLimit limit,r.2) := by
  cases e with
  | openDialog => rfl
  | closeDialog => simp only [step?,closeLimit,Option.map_some]
  | choose disk paths => simp only [step?,chooseLimit,Option.map_some]
  | remove id => simp only [step?,removeLimit,Option.map_some]
  | retry id => simp only [step?,retryLimit,Option.map_some]
  | start => simp only [step?,beginLimit,Option.map_some]
  | policyAnswered reply now supply => cases call
  | fileRead position contents => cases call
  | postAnswered position reply => cases call

theorem soundLimit {u : Uploader} (sound : Sound u) : Sound (u.withLimit limit) where
  distinct := sound.distinct
  bound := sound.bound
  waits := fun awaiting =>
    have waits := sound.waits awaiting
    ⟨waits.once,waits.given,waits.still⟩
  runs := fun under => sound.runs under
  closed := sound.closed

theorem settledLimit : (u.withLimit limit).settled = u.settled.withLimit limit := by
  have multiple : (u.withLimit limit).config.multiple = u.config.multiple := rfl
  simp only [settled,multiple]
  split <;> rfl

end Limit

section Follows
variable (contents : Nat → Except DiskFault Bytes) (replies : Nat → Http.Reply)

def Follows : Event → Prop
  | .fileRead position data => data = contents position
  | .postAnswered position reply => reply = replies position
  | _ => False

def assigned (config : Config) (policy : Policy) (job : Job) : Except UploadError Unit :=
  match posting config policy job (contents job.position) with
  | .error error => .error error
  | .ok request => Config.stored request (replies job.position)

variable {contents replies} {events : List Event} (follows : ∀ e ∈ events, Follows contents replies e)
include follows

theorem followsAnswer : ∀ e ∈ events, e.isCall = false := by
  intro e mem
  have its := follows e mem
  cases e with
  | fileRead position data => rfl
  | postAnswered position reply => rfl
  | _ => cases its

theorem followedReads (position : Nat) : ∀ data ∈ readsAt position events, data = contents position := by
  intro data mem
  obtain ⟨e,listed,eq⟩ := List.mem_filterMap.mp mem
  have its := follows e listed
  cases e with
  | fileRead p data' =>
    simp only [Option.ite_none_right_eq_some,Option.some.injEq] at eq
    obtain ⟨rfl,rfl⟩ := eq
    exact its
  | _ => cases eq

theorem followedReplies (position : Nat) :
    ∀ reply ∈ repliesAt position events, reply = replies position := by
  intro reply mem
  obtain ⟨e,listed,eq⟩ := List.mem_filterMap.mp mem
  have its := follows e listed
  cases e with
  | postAnswered p reply' =>
    simp only [Option.ite_none_right_eq_some,Option.some.injEq] at eq
    obtain ⟨rfl,rfl⟩ := eq
    exact its
  | _ => cases eq

theorem followedOutcome {config : Config} {policy : Policy} {job : Job}
    (finished : outcomeOf config policy events job ≠ none) :
    outcomeOf config policy events job = some (assigned contents replies config policy job) ∧
      requestOf config policy events job =
        (posting config policy job (contents job.position)).toOption := by
  cases reads : readsAt job.position events with
  | nil => simp [outcomeOf,reads] at finished
  | cons data rest =>
    have same := followedReads follows job.position data (by simp [reads])
    subst same
    refine ⟨?_,by simp only [requestOf,reads]⟩
    cases made : posting config policy job (contents job.position) with
    | error error => simp [outcomeOf,assigned,reads,made]
    | ok request =>
      cases answered : repliesAt job.position events with
      | nil => simp [outcomeOf,reads,made,answered] at finished
      | cons reply later =>
        have same := followedReplies follows job.position reply (by simp [answered])
        simp [outcomeOf,assigned,reads,made,answered,same]

end Follows

def Untouched (base : Uploader) (policy : Policy) (jobs : List Job) (events : List Event)
    (u : Uploader) : Prop :=
  ({ u with batch := none } : Uploader) =
    { base with files := base.files.map (landed base.config policy jobs events), batch := none }

theorem untouchedStart (base : Uploader) (policy : Policy) (jobs : List Job) :
    Untouched base policy jobs [] base := by
  have same : base.files.map (landed base.config policy jobs []) = base.files := by
    have each : ∀ f ∈ base.files, landed base.config policy jobs [] f = f := by
      intro f _
      unfold landed
      split <;> rfl
    rw [List.map_congr_left each]
    exact List.map_id' _
  simp only [Untouched,same]

theorem untouchedKeeping {base : Uploader} {jobs : List Job} (launched : Launched base jobs)
    (policy : Policy) : Keeping base.config policy jobs (Untouched base policy jobs) where
  batch := fun _ keep => keep
  posted := by
    intro events e u same keep
    have files : base.files.map (landed base.config policy jobs (events ++ [e])) =
        base.files.map (landed base.config policy jobs events) :=
      List.map_congr_left fun _ _ => landedSame same
    rw [Untouched,files]
    exact keep
  closed := by
    intro events e u job outcome here before finished others keep
    have listed : u.files = base.files.map (landed base.config policy jobs events) :=
      congrArg Uploader.files keep
    have files : base.files.map (landed base.config policy jobs (events ++ [e])) =
        u.files.map (mark job.id (statusOf outcome)) := by
      rw [listed,List.map_map]
      exact List.map_congr_left fun _ _ => landedClosed launched.ids here finished others
    rw [Untouched,files]
    exact congrArg (fun v : Uploader =>
      { v with files := u.files.map (mark job.id (statusOf outcome)) }) keep

inductive Ended (v : Uploader) (origin : Origin) (request : Http.Request) (waiting : List FileId)
    (reply : Http.Reply) (now : Instant) (supply : Supply) (limit : Nat) (events : List Event) :
    Uploader → List Effect → Prop where
  | denied {failure} (denied : v.config.policyFrom request reply now = .error failure) :
      Ended v origin request waiting reply now supply limit events
        ((({ v with batch := none } : Uploader).takeBack origin).withLimit limit)
        [.policyFailed failure,.answer (.failed (.policyFailed failure))]
  | reported {policy jobs sent before} (granted : v.config.policyFrom request reply now = .ok policy)
      (given : dispatch (.fresh v.config.prefixPath) supply 0 v.files waiting = some (jobs,sent))
      (closed : ∀ job ∈ jobs, outcomeOf v.config policy events job ≠ none)
      (posted : (posts before).Perm (jobs.filterMap (sentOf v.config policy events)))
      (silent : reports before = []) (mute : answers before = []) :
      Ended v origin request waiting reply now supply limit events
        (({ v with
            files := sent.map (landed v.config policy jobs events)
            batch := none } : Uploader).settled.withLimit limit)
        (before ++ [.allUploaded (objectsOf v.config policy events jobs),
          .answer (succeed origin (objectsOf v.config policy events jobs))])

theorem idleCourse {u w : Uploader} {events : List Event} {effects : List Effect}
    (course : Course u events effects w) (idle : u.isUploading = false) : effects = [] ∧ w = u := by
  induction course with
  | refl => exact ⟨rfl,rfl⟩
  | step _ busy _ ih =>
    rw [ih.2,idle] at busy
    cases busy

theorem deniedEnd {v b w : Uploader} {origin : Origin} {request : Http.Request}
    {waiting : List FileId} {reply : Http.Reply} {now : Instant} {supply : Supply} {limit : Nat}
    {events : List Event} {opening more : List Effect} {failure : PolicyFailure}
    (awaiting : v.batch = some ⟨origin,.awaitingPolicy request waiting⟩)
    (decided : v.config.policyFrom request reply now = .error failure)
    (next : (v.withLimit limit).step? (.policyAnswered reply now supply) = some (b,opening))
    (course : Course b events more w) :
    Ended v origin request waiting reply now supply limit events w (opening ++ more) := by
  have awaiting' : (v.withLimit limit).batch = some ⟨origin,.awaitingPolicy request waiting⟩ :=
    awaiting
  have decided' : (v.withLimit limit).config.policyFrom request reply now = .error failure := decided
  simp only [step?,policyAnswered,awaiting',decided',Option.some.injEq] at next
  rw [policyFailedEq] at next
  cases next
  obtain ⟨rfl,rfl⟩ := idleCourse course (by simp [isUploading,(takeBackRest _ _).1])
  have same : ({ v.withLimit limit with batch := none } : Uploader).takeBack origin =
      (({ v with batch := none } : Uploader).takeBack origin).withLimit limit := by
    cases origin <;> rfl
  rw [same]
  exact .denied decided

theorem batchEnds {v w : Uploader} {origin : Origin} {request : Http.Request} {waiting : List FileId}
    {reply : Http.Reply} {now : Instant} {supply : Supply} {limit : Nat} {events : List Event}
    {effects : List Effect} (sound : Sound v)
    (awaiting : v.batch = some ⟨origin,.awaitingPolicy request waiting⟩)
    (answer : ∀ e ∈ events, e.isCall = false) (finished : w.isUploading = false)
    (run : (v.withLimit limit).run? (.policyAnswered reply now supply :: events) = some (w,effects)) :
    Ended v origin request waiting reply now supply limit events w effects := by
  have sound' := soundLimit limit sound
  have awaiting' : (v.withLimit limit).batch = some ⟨origin,.awaitingPolicy request waiting⟩ :=
    awaiting
  have once := answeredOnce sound' (by simp [isUploading,awaiting'])
    (List.forall_mem_cons.mpr ⟨rfl,answer⟩) finished run
  obtain ⟨b,opening,more,next,later,rfl⟩ := runCons.mp run
  have course := answersCourse answer later
  cases decided : v.config.policyFrom request reply now with
  | error failure => exact deniedEnd awaiting decided next course
  | ok policy =>
    obtain ⟨base,jobs,given,same,launched,opens⟩ := launch sound' awaiting' decided next
    obtain ⟨sent,rfl⟩ : ∃ sent, base = { v.withLimit limit with files := sent } := ⟨_,same⟩
    have first := launchProgress (untouchedKeeping launched policy)
      (untouchedStart _ policy jobs) opens
    have progress := courseProgress (untouchedKeeping launched policy) launched.rising
      (stepSound sound' next) first course fun mem call => by simp [answer _ mem] at call
    generalize opening ++ more = effects at progress once
    cases progress with
    | going under _ _ _ _ _ => simp [isUploading,under] at finished
    | @finished before u t _ empty transit silent keep =>
      -- The one answer is that of the report, so that none came before it.
      have mute : answers before = [] := by
        rw [answersAppend,List.length_append] at once
        exact List.length_eq_zero_iff.mp (Nat.add_right_cancel once)
      have final : u.settled = ({ v with
          files := sent.map (landed v.config policy jobs events)
          batch := none } : Uploader).settled.withLimit limit := by
        have level : ({ u with batch := none } : Uploader).settled = _ := congrArg settled keep
        rw [← settledLimit]
        exact level
      rw [final]
      refine .reported decided given ?_ transit.posted silent mute
      intro job mem unresolved
      have pending := (transit.stands job mem).openIff.mp unresolved
      rw [empty] at pending
      cases pending

section Orders
variable {contents : Nat → Except DiskFault Bytes} {replies : Nat → Http.Reply}
  {events₁ events₂ : List Event} (follows₁ : ∀ e ∈ events₁, Follows contents replies e)
  (follows₂ : ∀ e ∈ events₂, Follows contents replies e)
include follows₁ follows₂

theorem ordersAgree {config : Config} {policy : Policy} {job : Job}
    (finished₁ : outcomeOf config policy events₁ job ≠ none)
    (finished₂ : outcomeOf config policy events₂ job ≠ none) :
    outcomeOf config policy events₁ job = outcomeOf config policy events₂ job ∧
      requestOf config policy events₁ job = requestOf config policy events₂ job := by
  obtain ⟨outcome₁,request₁⟩ := followedOutcome follows₁ finished₁
  obtain ⟨outcome₂,request₂⟩ := followedOutcome follows₂ finished₂
  exact ⟨outcome₁.trans outcome₂.symm,request₁.trans request₂.symm⟩

theorem endsAgree {v w₁ w₂ : Uploader} {origin : Origin} {request : Http.Request}
    {waiting : List FileId} {reply : Http.Reply} {now : Instant} {supply : Supply}
    {limit₁ limit₂ : Nat} {effects₁ effects₂ : List Effect}
    (ended₁ : Ended v origin request waiting reply now supply limit₁ events₁ w₁ effects₁)
    (ended₂ : Ended v origin request waiting reply now supply limit₂ events₂ w₂ effects₂) :
    answers effects₁ = answers effects₂ ∧ reports effects₁ = reports effects₂ ∧
      (posts effects₁).Perm (posts effects₂) ∧
      ∃ w : Uploader, w₁ = w.withLimit limit₁ ∧ w₂ = w.withLimit limit₂ := by
  cases ended₁ with
  | denied denied₁ =>
    cases ended₂ with
    | denied denied₂ =>
      rw [denied₁] at denied₂
      cases denied₂
      exact ⟨rfl,rfl,.refl _,_,rfl,rfl⟩
    | reported granted₂ _ _ _ _ _ =>
      rw [denied₁] at granted₂
      cases granted₂
  | @reported policy jobs sent before₁ granted₁ given₁ closed₁ posted₁ silent₁ mute₁ =>
    cases ended₂ with
    | denied denied₂ =>
      rw [granted₁] at denied₂
      cases denied₂
    | @reported _ _ _ before₂ granted₂ given₂ closed₂ posted₂ silent₂ mute₂ =>
      rw [granted₁] at granted₂
      cases granted₂
      rw [given₁] at given₂
      cases given₂
      have agree : ∀ job ∈ jobs, _ := fun job mem =>
        ordersAgree follows₁ follows₂ (closed₁ job mem) (closed₂ job mem)
      have entries : objectsOf v.config policy events₁ jobs = objectsOf v.config policy events₂ jobs := by
        have same : jobs.filterMap (entryOf v.config policy events₁) =
            jobs.filterMap (entryOf v.config policy events₂) :=
          List.filterMap_congr fun job mem => by simp only [entryOf,(agree job mem).1]
        rw [objectsOf,same,objectsOf]
      have sentSame : jobs.filterMap (sentOf v.config policy events₁) =
          jobs.filterMap (sentOf v.config policy events₂) :=
        List.filterMap_congr fun job mem => by simp only [sentOf,(agree job mem).2]
      have files : sent.map (landed v.config policy jobs events₁) =
          sent.map (landed v.config policy jobs events₂) :=
        List.map_congr_left fun _ _ => landedSame fun job mem => (agree job mem).1
      rw [entries,files]
      refine ⟨?_,?_,?_,_,rfl,rfl⟩
      · rw [answersAppend,answersAppend,mute₁,mute₂]
      · rw [reportsAppend,reportsAppend,silent₁,silent₂]
      · rw [postsAppend,postsAppend,(reportAsks _ _).2,List.append_nil,List.append_nil]
        exact posted₁.trans (sentSame ▸ posted₂.symm)

theorem batchesAgree {v w₁ w₂ : Uploader} {reply : Http.Reply} {now : Instant} {supply : Supply}
    {limit₁ limit₂ : Nat} {effects₁ effects₂ : List Effect} (sound : Sound v)
    (run₁ : (v.withLimit limit₁).run? (.policyAnswered reply now supply :: events₁) =
      some (w₁,effects₁))
    (run₂ : (v.withLimit limit₂).run? (.policyAnswered reply now supply :: events₂) =
      some (w₂,effects₂))
    (finished₁ : w₁.isUploading = false) (finished₂ : w₂.isUploading = false) :
    answers effects₁ = answers effects₂ ∧ reports effects₁ = reports effects₂ ∧
      (posts effects₁).Perm (posts effects₂) ∧
      ∃ w : Uploader, w₁ = w.withLimit limit₁ ∧ w₂ = w.withLimit limit₂ := by
  obtain ⟨_,_,_,next,-,-⟩ := runCons.mp run₁
  obtain ⟨origin,request,waiting,awaiting⟩ := policyAwaited next
  exact endsAgree follows₁ follows₂
    (batchEnds sound awaiting (followsAnswer follows₁) finished₁ run₁)
    (batchEnds sound awaiting (followsAnswer follows₂) finished₂ run₂)

end Orders

theorem batchBegins {u w : Uploader} {call : Event} {limit : Nat} {events : List Event}
    {effects : List Effect} (idle : u.isUploading = false)
    (run : (u.withLimit limit).run? (call :: events) = some (w,effects)) :
    ∃ v asked more, u.step? call = some (v,asked) ∧ effects = asked ++ more ∧
      (v.withLimit limit).run? events = some (w,more) := by
  obtain ⟨v',asked,more,next,later,rfl⟩ := runCons.mp run
  have idle' : (u.withLimit limit).isUploading = false := idle
  rw [callLimit u limit (idleCall idle' next)] at next
  obtain ⟨⟨v,asked⟩,called,eq⟩ := Option.map_eq_some_iff.mp next
  cases eq
  exact ⟨v,asked,more,called,rfl,later⟩

/-- Two runs of one batch that differ in their limits and in the order of the answers. -/
theorem orderFree {u w₁ w₂ : Uploader} {call : Event} {limit₁ limit₂ : Nat} {reply : Http.Reply}
    {now : Instant} {supply : Supply} {events₁ events₂ : List Event} {effects₁ effects₂ : List Effect}
    {contents : Nat → Except DiskFault Bytes} {replies : Nat → Http.Reply}
    (reachable : Reachable u) (idle : u.isUploading = false)
    (run₁ : (u.withLimit limit₁).run? (call :: .policyAnswered reply now supply :: events₁) =
      some (w₁,effects₁))
    (run₂ : (u.withLimit limit₂).run? (call :: .policyAnswered reply now supply :: events₂) =
      some (w₂,effects₂))
    (follows₁ : ∀ e ∈ events₁, Follows contents replies e)
    (follows₂ : ∀ e ∈ events₂, Follows contents replies e)
    (finished₁ : w₁.isUploading = false) (finished₂ : w₂.isUploading = false) :
    answers effects₁ = answers effects₂ ∧ reports effects₁ = reports effects₂ ∧
      (posts effects₁).Perm (posts effects₂) ∧ w₁ = w₂.withLimit limit₁ := by
  obtain ⟨v,asked,more₁,called,rfl,later₁⟩ := batchBegins idle run₁
  obtain ⟨v',asked',more₂,called',rfl,later₂⟩ := batchBegins idle run₂
  rw [called] at called'
  cases called'
  have sound := stepSound (reachableSound reachable) called
  obtain ⟨same,reported,posted,w,rfl,rfl⟩ :=
    batchesAgree follows₁ follows₂ sound later₁ later₂ finished₁ finished₂
  simp only [answersAppend,reportsAppend,postsAppend]
  exact ⟨by rw [same],by rw [reported],posted.append_left _,rfl⟩

-- Two files, of which the second is refused: one by one, and at once the other way round.
def empty (_ : Nat) : Except DiskFault Bytes := .ok []

def firstOnly (position : Nat) : Http.Reply :=
  if position = 0 then .whole 200 [] else .whole 403 []

def oneByOne : List Event :=
  [.fileRead 0 (empty 0),.postAnswered 0 (firstOnly 0),.fileRead 1 (empty 1),
    .postAnswered 1 (firstOnly 1)]

def crosswise : List Event :=
  [.fileRead 1 (empty 1),.fileRead 0 (empty 0),.postAnswered 1 (firstOnly 1),
    .postAnswered 0 (firstOnly 0)]

def slowly : Result := (offered.withLimit 1).after (.start :: sampleAccepted :: oneByOne)

def atOnce : Result := (offered.withLimit 0).after (.start :: sampleAccepted :: crosswise)

theorem slowlyAtOnce :
    (offered.withLimit 1).run? (.start :: sampleAccepted :: oneByOne) =
        some (slowly.1,slowly.2) ∧
      (offered.withLimit 0).run? (.start :: sampleAccepted :: crosswise) =
        some (atOnce.1,atOnce.2) ∧
      slowly.1.isUploading = false ∧ atOnce.1.isUploading = false ∧
      answers slowly.2 = answers atOnce.2 ∧ reports slowly.2 = reports atOnce.2 ∧
      (posts slowly.2).Perm (posts atOnce.2) ∧ slowly.1 = atOnce.1.withLimit 1 := by
  have first : (offered.withLimit 1).run? (.start :: sampleAccepted :: oneByOne) =
      some (slowly.1,slowly.2) := runAfter (by decide +kernel)
  have second : (offered.withLimit 0).run? (.start :: sampleAccepted :: crosswise) =
      some (atOnce.1,atOnce.2) := runAfter (by decide +kernel)
  have finished₁ : slowly.1.isUploading = false := by decide +kernel
  have finished₂ : atOnce.1.isUploading = false := by decide +kernel
  have follows₁ : ∀ e ∈ oneByOne, Follows empty firstOnly e := by simp [oneByOne,Follows]
  have follows₂ : ∀ e ∈ crosswise, Follows empty firstOnly e := by simp [crosswise,Follows]
  exact ⟨first,second,finished₁,finished₂,
    orderFree offeredReachable offeredIdle first second follows₁ follows₂ finished₁ finished₂⟩

end SignedUpload.Uploader

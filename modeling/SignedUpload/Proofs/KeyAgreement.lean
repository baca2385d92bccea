import SignedUpload.Proofs.Exactness
import SignedUpload.Proofs.Keys
import SignedUpload.Proofs.Names
import SignedUpload.Proofs.Options

/-! One key for one file. The key that a form carries is the one that the list keeps and the one that the
reported address ends with, and no two files of a batch share it. -/
namespace SignedUpload.Uploader

section Batch
variable {config : Config} {policy : Policy} {events : List Event} {jobs : List Job}

theorem sentMade {sent : Job × Http.Request}
    (mem : sent ∈ jobs.filterMap (sentOf config policy events)) :
    sent.1 ∈ jobs ∧ ∃ contents, posting config policy sent.1 contents = .ok sent.2 := by
  obtain ⟨job,here,its⟩ := List.mem_filterMap.mp mem
  obtain ⟨request,made,rfl⟩ := Option.map_eq_some_iff.mp its
  refine ⟨here,?_⟩
  unfold requestOf at made
  split at made
  · cases made
  · rename_i contents rest read
    refine ⟨contents,?_⟩
    cases posted : posting config policy job contents with
    | error e => simp [posted,Except.toOption] at made
    | ok request' => simpa [posted,Except.toOption] using made

theorem sentJobs : ((jobs.filterMap (sentOf config policy events)).map (·.1)).Sublist jobs := by
  induction jobs with
  | nil => exact .slnil
  | cons job rest ih =>
    rw [List.filterMap_cons]
    cases its : sentOf config policy events job with
    | none => exact ih.cons _
    | some sent =>
      obtain ⟨request,-,rfl⟩ := Option.map_eq_some_iff.mp its
      exact ih.cons_cons _

theorem entryObject {job : Job} {entry : Nat × UploadedObject}
    (stored : entryOf config policy events job = some entry) : entry.2 = uploaded config job := by
  unfold entryOf at stored
  split at stored
  · cases stored
    rfl
  · cases stored

theorem objectsStored (config : Config) (policy : Policy) (events : List Event) (jobs : List Job) :
    ∃ stored : List Job, stored.Sublist jobs ∧
    objectsOf config policy events jobs = stored.map (uploaded config) := by
  induction jobs with
  | nil => exact ⟨[],.slnil,rfl⟩
  | cons job rest ih =>
    obtain ⟨stored,within,same⟩ := ih
    simp only [objectsOf] at same
    rw [objectsOf,List.filterMap_cons]
    cases its : entryOf config policy events job with
    | none => exact ⟨stored,within.cons _,same⟩
    | some entry =>
      refine ⟨job :: stored,within.cons_cons _,?_⟩
      simp only [List.map_cons,same,entryObject its]

theorem addressesDistinct {stored : List Job} (distinct : (stored.map (·.key)).Nodup) :
    ((stored.map (uploaded config)).map (·.url)).Nodup := by
  have addresses : (stored.map (uploaded config)).map (·.url) =
      (stored.map (·.key)).map config.objectUrl := by
    simp only [List.map_map,Function.comp_def,uploaded]
  rw [addresses]
  exact distinct.map fun _ _ same => (String.append_right_inj _).mp same

section Exact
variable {origin : Origin} {effects : List Effect} {w : Uploader}
  (exactly : Exact config policy origin jobs events effects w) (distinct : (jobs.map (·.key)).Nodup)
include exactly distinct

theorem postedOnce : ((posts effects).map (·.1.key)).Nodup := by
  have sent : ((posts effects).map (·.1.key)).Perm
      (((jobs.filterMap (sentOf config policy events)).map (·.1)).map (·.key)) := by
    rw [List.map_map]
    exact exactly.posted.map _
  exact sent.nodup_iff.mpr (distinct.sublist (sentJobs.map _))

theorem addressesOnce : ∀ objects ∈ reports effects, (objects.map (·.url)).Nodup ∧
    ∃ stored : List Job, stored.Sublist jobs ∧ objects = stored.map (uploaded config) := by
  intro objects told
  cases busy : w.isUploading with
  | true =>
    rw [exactly.silent busy] at told
    cases told
  | false =>
    obtain ⟨-,before,silent,rfl⟩ := exactly.finished busy
    rw [reportsAppend,silent] at told
    obtain rfl := List.mem_singleton.mp told
    obtain ⟨stored,within,same⟩ := objectsStored config policy events jobs
    rw [same]
    exact ⟨addressesDistinct (distinct.sublist (within.map _)),stored,within,rfl⟩

end Exact

end Batch

structure KeysAgree (config : Config) (clock : List Int) (jobs : List Job) (b w : Uploader)
    (effects : List Effect) : Prop where
  distinct : (jobs.map (·.key)).Nodup
  spelled : jobs.length ≤ clock.length ∧ ∀ pair ∈ jobs.zip clock,
    Spelled config.prefixPath pair.2 pair.1.name pair.1.key
  flat : ∀ job ∈ jobs, ∃ rest, job.key = config.prefixPath ++ rest ∧ '/' ∉ rest.toList
  posted : ∀ sent ∈ posts effects, sent.1 ∈ jobs ∧
    ∃ form, sent.2.body = .multipart form ∧ fieldValues "key" form = [sent.1.key]
  postedOnce : ((posts effects).map (·.1.key)).Nodup
  given : ∀ job ∈ jobs, ∃ f ∈ b.files, f.id = job.id ∧ f.key = some job.key
  kept : ∀ job ∈ jobs, ∀ f ∈ w.files, f.id = job.id → f.key = some job.key
  reported : ∀ objects ∈ reports effects, (objects.map (·.url)).Nodup ∧
    ∃ stored : List Job, stored.Sublist jobs ∧ objects = stored.map fun job =>
      ⟨job.name,job.contentType,config.storageEndpoint ++ "/" ++ job.key⟩

theorem dispatchedStands {base b : Uploader} {origin : Origin} {policy : Policy} {jobs : List Job}
    {opening : List Effect} (launched : Launched base jobs)
    (opens : (b,opening) = base.advance origin ⟨policy,jobs,[],.start jobs.length,none⟩) :
    ∀ job ∈ jobs, ∃ f ∈ b.files, f.id = job.id ∧ f.key = some job.key := by
  intro job mem
  obtain ⟨f,listed,carries⟩ := launched.carried job mem
  rcases advanceCases base origin ⟨policy,jobs,[],.start jobs.length,none⟩ with
    ⟨nothing,-⟩ | ⟨-,going⟩
  · have empty : jobs = [] := by simpa [pendingJobs] using nothing
    rw [empty] at mem
    cases mem
  · rw [going] at opens
    cases opens
    exact ⟨f,listed,carries.id,carries.key⟩

theorem progressKeys {base w : Uploader} {policy : Policy} {jobs : List Job} {origin : Origin}
    {events : List Event} {effects : List Effect} (launched : Launched base jobs)
    (progress : Progress base.config policy jobs origin (Stayed base policy jobs) events effects w) :
    ∀ job ∈ jobs, ∀ f ∈ w.files, f.id = job.id → f.key = some job.key := by
  intro job mem f listed same
  cases progress with
  | going _ _ _ _ _ keep => exact (keep.file launched mem listed same).1
  | finished _ _ _ _ keep => exact (keep.file launched mem (settledFiles _ |>.subset listed) same).1

/-- In every batch that got its policy, however its keys had to be drawn, each file has one key that no
other file has, wherever it is posted, listed or reported. -/
theorem keysAgree {config : Config} {start a b w : Uploader} {past events : List Event}
    {before opening effects : List Effect} {origin : Origin} {request : Http.Request}
    {waiting : List FileId} {reply : Http.Reply} {now : Instant} {supply : Supply} {policy : Policy}
    (ready : render config = .ok start) (ran : start.run? past = some (a,before))
    (awaiting : a.batch = some ⟨origin,.awaitingPolicy request waiting⟩)
    (granted : config.policyFrom request reply now = .ok policy)
    (answered : a.step? (.policyAnswered reply now supply) = some (b,opening))
    (course : Course b events effects w) : ∃ jobs,
      jobs.map (·.id) = waiting.filter (fun id => (a.file? id).isSome) ∧
      (∀ job ∈ jobs, ∃ f ∈ a.files, MadeOf job f ∧ Picked past f) ∧
      KeysAgree config supply.clock jobs b w (opening ++ effects) := by
  have sound := runSound (renderedSound ready) ran
  have same : a.config = config := by
    obtain ⟨kind,rfl⟩ := renderedFresh ready
    exact (runLater (renderedSound ready) ran).config
  subst same
  have checked := renderedChecked ready
  obtain ⟨base,jobs,given,rest,launched,opens⟩ := launch sound awaiting granted answered
  have config : base.config = a.config := by rw [rest]
  have waits := sound.waits awaiting
  have d := dispatchExact sound.distinct waits.once waits.still given
  have keyed : Keyed a.config.prefixPath [] supply.clock jobs := dispatchKeyed given
  have soundB := stepSound sound answered
  have first := launchProgress (stayedKeeping launched policy) (stayedStart launched policy) opens
  have progress := courseProgress (stayedKeeping launched policy) launched.rising soundB first
    course fun _ call busy called keep => keep.call launched call called busy
  have exactly := progressExact launched (course.sound soundB) progress
  rw [config] at exactly
  have named : ∀ job ∈ jobs, ∃ f ∈ a.files, MadeOf job f ∧ Picked past f := by
    intro job mem
    obtain ⟨f,listed,made⟩ := d.made job mem
    exact ⟨f,listed,made,runNames ready ran f listed⟩
  have flat : ∀ job ∈ jobs, ∃ rest, job.key = a.config.prefixPath ++ rest ∧ '/' ∉ rest.toList := by
    intro job mem
    obtain ⟨f,-,made,picked⟩ := named job mem
    rw [← List.map_fst_zip keyed.spelled.1] at mem
    obtain ⟨pair,here,rfl⟩ := List.mem_map.mp mem
    exact (keyed.spelled.2 pair here).flat (made.name ▸ picked.plain)
  have posted : ∀ sent ∈ posts (opening ++ effects), sent.1 ∈ jobs ∧
      ∃ form, sent.2.body = .multipart form ∧ fieldValues "key" form = [sent.1.key] := by
    intro sent mem
    obtain ⟨here,contents,made⟩ := sentMade (exactly.posted.mem_iff.mp mem)
    exact ⟨here,postingKeyed checked made⟩
  exact ⟨jobs,d.ids,named,keyed.distinct,keyed.spelled,flat,posted,
    postedOnce exactly keyed.distinct,dispatchedStands launched opens,progressKeys launched progress,
    addressesOnce exactly keyed.distinct⟩

-- Two files of one name, chosen from two directories, and a clock that stands still: the second key
-- has to be drawn again.
def twins : List Event := [.choose sampleDisk [[97,47,120],[98,47,120]],.start]

def twinned : Result := (sample true).after twins

def stillSupply : Supply := ⟨[5,5],sampleSupply.draws.take 1 ++ sampleSupply.draws⟩

def twinsAccepted : Event := .policyAnswered samplePolicy ⟨0,0⟩ stillSupply

def twinsOpened : Result := twinned.1.next twinsAccepted

def bothStored : List Event :=
  [.fileRead 1 (.ok []),.fileRead 0 (.ok []),.postAnswered 1 (.whole 200 []),
    .postAnswered 0 (.whole 200 [])]

theorem twinsApart : ∃ request policy,
    render (sampleConfig true) = .ok (sample true) ∧
    (sample true).run? twins = some (twinned.1,twinned.2) ∧
    twinned.1.batch = some ⟨.start,.awaitingPolicy request [1,2]⟩ ∧
    (sampleConfig true).policyFrom request samplePolicy ⟨0,0⟩ = .ok policy ∧
    twinned.1.step? twinsAccepted = some (twinsOpened.1,twinsOpened.2) ∧
    Course twinsOpened.1 bothStored (twinsOpened.1.after bothStored).2
      (twinsOpened.1.after bothStored).1 ∧
    ∃ jobs, jobs.map (·.id) = [1,2].filter (fun id => (twinned.1.file? id).isSome) ∧
      (∀ job ∈ jobs, ∃ f ∈ twinned.1.files, MadeOf job f ∧ Picked twins f) ∧
      KeysAgree (sampleConfig true) stillSupply.clock jobs twinsOpened.1
        (twinsOpened.1.after bothStored).1
        (twinsOpened.2 ++ (twinsOpened.1.after bothStored).2) := by
  have ran : (sample true).run? twins = some (twinned.1,twinned.2) := runAfter (by decide +kernel)
  have answered : twinned.1.step? twinsAccepted = some (twinsOpened.1,twinsOpened.2) :=
    stepNext (by decide +kernel)
  have course : Course twinsOpened.1 bothStored (twinsOpened.1.after bothStored).2
      (twinsOpened.1.after bothStored).1 :=
    answersCourse (by simp [bothStored,Event.isCall]) (runAfter (by decide +kernel))
  obtain ⟨request,policy,awaiting,granted⟩ : ∃ request policy,
      twinned.1.batch = some ⟨.start,.awaitingPolicy request [1,2]⟩ ∧
        (sampleConfig true).policyFrom request samplePolicy ⟨0,0⟩ = .ok policy := ⟨_,_,rfl,rfl⟩
  exact ⟨request,policy,sampleRendered true,ran,awaiting,granted,answered,course,
    keysAgree (sampleRendered true) ran awaiting granted answered course⟩

end SignedUpload.Uploader

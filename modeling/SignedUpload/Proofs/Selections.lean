import SignedUpload.Proofs.Submission

/-! Selections in single mode, one after another. Each submits what the last one did not hold, and
what is remembered of it is what the last one held and what was stored. So a path that stays selected
is submitted until it is stored, and not again. -/
namespace SignedUpload.Uploader

def acceptedBy (filter : Filter) (disk : Disk) (paths : List Path) : List Path :=
  paths.filterMap fun path => match filter.inspect disk path with
    | .ok c => some c.path
    | .error _ => none

theorem acceptedOffers {filter : Filter} {disk : Disk} {paths : List Path} {offers : List Candidate}
    {refusals : List String} (sifted : Sifted filter disk paths offers refusals) :
    acceptedBy filter disk paths = offers.map (·.path) := by
  induction sifted with
  | nil => rfl
  | taken fit rest ih =>
    rw [acceptedBy] at ih ⊢
    simp only [List.filterMap_cons,inspectFit.mpr fit,ih,List.map_cons]
  | refused unfit said rest ih =>
    rw [acceptedBy] at ih ⊢
    simp only [List.filterMap_cons,said,ih]

theorem pickedOrder (u : Uploader) (disk : Disk) (paths : List Path) :
    u.pickedPaths disk paths = (acceptedBy u.filter disk paths).eraseDups := by
  obtain ⟨offers,refusals,sifted⟩ := siftedOf u.filter disk paths
  rw [pickedPaths,pickedFirsts sifted,firstsOrder,acceptedOffers sifted]

structure Round where
  disk : Disk
  paths : List Path
  events : List Event

def Round.calls (round : Round) : List Event := .choose round.disk round.paths :: round.events

structure Turn (u : Uploader) (round : Round) (effects : List Effect) (w : Uploader) : Prop where
  run : u.run? round.calls = some (w,effects)
  answers : ∀ e ∈ round.events, e.isCall = false
  ended : w.isUploading = false

structure Settles (u : Uploader) (disk : Disk) (paths : List Path) (effects : List Effect)
    (stored : List Path) (w : Uploader) : Prop where
  empty : w.files = []
  snapshot : ∀ p, p ∈ w.snapshot ↔ p ∈ u.pickedPaths disk paths ∧ (p ∈ u.snapshot ∨ p ∈ stored)
  within : ∀ p ∈ stored, p ∈ u.freshPaths disk paths
  once : stored.Nodup
  nothing : u.freshPaths disk paths = [] →
    requests effects = [] ∧ Quiet effects ∧ answers effects = [.staged []]
  asked : u.freshPaths disk paths ≠ [] →
    requests effects = u.config.policyRequest.toOption.toList
  outcome : u.freshPaths disk paths ≠ [] →
    (∃ error, answers effects = [.failed error] ∧ Quiet effects ∧ stored = []) ∨
      ∃ ids, answers effects = [.staged ids] ∧
        (loads effects).map (·.path) = u.freshPaths disk paths ∧
        ∀ sent ∈ posts effects, sent.1.path ∈ u.freshPaths disk paths

section Settles
variable {u v w : Uploader} {disk : Disk} {paths : List Path} {said more : List Effect}

theorem freshNone : u.freshPaths disk paths = [] ↔ u.unseen disk paths = [] := by
  simp [freshPaths]

theorem idleRun {events : List Event} (run : u.run? events = some (w,said))
    (answers : ∀ e ∈ events, e.isCall = false) (free : u.batch = none) :
    events = [] ∧ w = u ∧ said = [] := by
  cases events with
  | nil => exact ⟨rfl,runNil.mp run⟩
  | cons e rest =>
    obtain ⟨v,said,more,next,-,-⟩ := runCons.mp run
    have busy := (answerCases (answers e List.mem_cons_self) next).busy
    simp [isUploading,free] at busy

theorem seenSettles (empty : u.files = []) (nothing : u.unseen disk paths = []) (notices : List String) :
    Settles u disk paths (notices.map .notice ++ [.answer (.staged [])]) []
      { u with snapshot := u.pickedPaths disk paths } := by
  have stale := freshNone.mpr nothing
  refine ⟨empty,fun p => ?_,by simp,List.nodup_nil,fun _ => ⟨?_,?_,?_⟩,
    fun anew => absurd stale anew,fun anew => absurd stale anew⟩
  · have old : p ∈ u.pickedPaths disk paths → p ∈ u.snapshot := by
      intro mem
      by_contra new
      have fresh := freshIff.mpr ⟨mem,new⟩
      rw [stale] at fresh
      cases fresh
    simpa using old
  · rw [requestsAppend,requestsNotices]
    rfl
  · exact (quietNotices _).append ⟨rfl,rfl,rfl⟩
  · rw [answersAppend,answersNotices]
    rfl

theorem failsSettles (empty : u.files = []) (new : u.unseen disk paths ≠ []) {fault : Http.Fault}
    (unmade : u.config.policyRequest = .error fault) {failure : PolicyFailure}
    (fails : Fails u failure (u.refused disk paths) said) :
    Settles u disk paths said [] (u.refused disk paths) := by
  have anew : u.freshPaths disk paths ≠ [] := mt freshNone.mp new
  refine ⟨empty,fun p => ?_,by simp,List.nodup_nil,fun stale => absurd stale anew,fun _ => ?_,
    fun _ => .inl ⟨_,fails.answered,fails.quiet,rfl⟩⟩
  · rw [refusedSnapshot]
    simp [and_comm]
  · rw [fails.unasked,unmade]
    rfl

theorem asksSettles (empty : u.files = []) (new : u.unseen disk paths ≠ [])
    {request : Http.Request} (made : u.config.policyRequest = .ok request)
    (opens : Opens request v said) (silent : requests more = []) {stored : List Path}
    (followup : Followup u disk paths request more stored w) (ended : w.isUploading = false) :
    Settles u disk paths (said ++ more) stored w := by
  have anew : u.freshPaths disk paths ≠ [] := mt freshNone.mp new
  have one : requests (said ++ more) = u.config.policyRequest.toOption.toList := by
    rw [requestsAppend,opens.asked,silent,made]
    rfl
  cases followup with
  | awaiting => simp [submitted,isUploading] at ended
  | going under alone silent posted => simp [isUploading,under] at ended
  | denied failure =>
    refine ⟨empty,fun p => ?_,by simp,List.nodup_nil,fun stale => absurd stale anew,fun _ => one,
      fun _ => .inl ⟨.policyFailed failure,?_,opens.quiet.append ⟨rfl,rfl,rfl⟩,rfl⟩⟩
    · rw [refusedSnapshot]
      simp [and_comm]
    · rw [answersAppend,opens.unanswered]
      rfl
  | ended cleared within once loaded told posted =>
    refine ⟨cleared.empty,fun p => ?_,within,once,fun stale => absurd stale anew,fun _ => one,
      fun _ => .inr ⟨(u.submission disk paths).map (·.id),?_,?_,?_⟩⟩
    · rw [cleared.snapshot,freshIff]
      tauto
    · rw [answersAppend,opens.unanswered,told]
      rfl
    · rw [loadsAppend,opens.quiet.loads]
      exact loaded
    · rw [postsAppend,opens.quiet.posts]
      exact posted

end Settles

structure Submits (u : Uploader) (disk : Disk) (paths : List Path) : Prop where
  accepted : ∀ p, p ∈ u.pickedPaths disk paths ↔ p ∈ acceptedBy u.filter disk paths
  order : u.freshPaths disk paths =
    (acceptedBy u.filter disk paths).eraseDups.filter fun p => !u.snapshot.contains p
  batch : u.freshPaths disk paths ≠ [] → ∀ {request}, u.config.policyRequest = .ok request →
    ∃ v said, u.step? (.choose disk paths) = some (v,said) ∧ Opens request v said ∧
      v.files.map (·.path) = u.freshPaths disk paths ∧ v.files.map (·.id) = waitingIds v.files

section Submits
variable {u w : Uploader} {disk : Disk} {paths : List Path}

theorem freshOrder : u.freshPaths disk paths =
    (acceptedBy u.filter disk paths).eraseDups.filter fun p => !u.snapshot.contains p := by
  rw [← pickedOrder,pickedPaths,List.filter_map]
  rfl

theorem choiceSubmits (sound : Sound u) (single : u.config.multiple = false) (empty : u.files = [])
    (free : u.batch = none) : Submits u disk paths := by
  refine ⟨fun p => by rw [pickedOrder,List.mem_eraseDups],freshOrder,?_⟩
  intro anew request made
  have new : u.unseen disk paths ≠ [] := mt freshNone.mpr anew
  obtain ⟨v,said,step⟩ := startsRuns (.choose single new)
  refine ⟨v,said,step,startsOpens sound free (.choose single new) made step,?_⟩
  have chosen := chooseCases sound.toListed disk paths
  rw [Option.some.inj step] at chosen
  cases chosen with
  | listed notices ids multiple => simp [single] at multiple
  | seen notices single nothing => exact absurd nothing new
  | failed said quiet silent single new blocked =>
    rcases blocked with busy | ⟨fault,unmade⟩
    · exact absurd free busy
    · simp [made] at unmade
  | asked notices single free made new => exact ⟨submitPaths empty,(submitWaiting empty).symm⟩

theorem Turn.settles (sound : Sound u) (single : u.config.multiple = false) (empty : u.files = [])
    (free : u.batch = none) {round : Round} {effects : List Effect} (turn : Turn u round effects w) :
    Settles u round.disk round.paths effects (u.storedIn round.calls) w := by
  obtain ⟨v,said,more,step,later,rfl⟩ := runCons.mp turn.run
  have stored : u.storedIn round.calls = v.storedIn round.events := by
    simp only [Round.calls,storedIn,step]
    rfl
  rw [stored]
  have chosen := chooseCases sound.toListed round.disk round.paths
  rw [Option.some.inj step] at chosen
  cases chosen with
  | listed notices ids multiple => simp [single] at multiple
  | seen notices single nothing =>
    obtain ⟨still,rfl,rfl⟩ := idleRun later turn.answers free
    rw [still,List.append_nil]
    exact seenSettles empty nothing notices
  | failed said quiet silent single new blocked =>
    obtain ⟨fault,unmade⟩ := blocked.resolve_left fun busy => busy free
    obtain ⟨still,rfl,rfl⟩ := idleRun later turn.answers free
    rw [still,List.append_nil]
    exact failsSettles empty new unmade
      (startsFails sound.toListed free (.choose single new) unmade step)
  | @asked notices request single free made new =>
    have sound' := stepSound sound step
    have quiet := (answersCourse turn.answers later).asks sound'
    have followup := Followup.run sound.toListed single empty free sound' .awaiting turn.answers later
    exact asksSettles empty new made
      (startsOpens sound free (.choose single new) made step) quiet followup turn.ended

end Submits

inductive Rounds (u : Uploader) : List Round → List Path → Uploader → Prop where
  | nil : Rounds u [] [] u
  | snoc {rounds stored v round effects w} (earlier : Rounds u rounds stored v)
      (turn : Turn v round effects w) :
      Rounds u (rounds ++ [round]) (stored ++ v.storedIn round.calls) w

structure Between (u : Uploader) : Prop where
  sound : Sound u
  single : u.config.multiple = false
  empty : u.files = []
  free : u.batch = none

section Rounds
variable {u v w : Uploader} {round : Round} {rounds : List Round} {stored : List Path} {p : Path}
  {effects : List Effect}

theorem Between.settles (between : Between u) (turn : Turn u round effects w) :
    Settles u round.disk round.paths effects (u.storedIn round.calls) w :=
  turn.settles between.sound between.single between.empty between.free

theorem Between.turn (between : Between u) (turn : Turn u round effects w) : Between w where
  sound := runSound between.sound turn.run
  single := (runLater between.sound turn.run).config ▸ between.single
  empty := (between.settles turn).empty
  free := idleIff.mp turn.ended

theorem Rounds.between (between : Between u) (along : Rounds u rounds stored w) : Between w := by
  induction along with
  | nil => exact between
  | snoc _ turn ih => exact ih.turn turn

theorem Rounds.filter (between : Between u) (along : Rounds u rounds stored w) :
    w.filter = u.filter := by
  induction along with
  | nil => rfl
  | snoc earlier turn ih => exact (runLater (earlier.between between).sound turn.run).filter.trans ih

theorem Rounds.remembered (between : Between u) (fresh : u.snapshot = [])
    (along : Rounds u rounds stored w) (mem : p ∈ w.snapshot) : p ∈ stored := by
  induction along with
  | nil => simp [fresh] at mem
  | snoc earlier turn ih =>
    have settles := (earlier.between between).settles turn
    rcases ((settles.snapshot p).mp mem).2 with old | new
    · exact List.mem_append_left _ (ih old)
    · exact List.mem_append_right _ new

theorem Rounds.once (between : Between u) (along : Rounds u rounds stored w)
    (selected : ∀ r ∈ rounds, p ∈ acceptedBy u.filter r.disk r.paths) :
    stored.count p ≤ 1 ∧ (p ∈ w.snapshot ↔ p ∈ u.snapshot ∨ p ∈ stored) := by
  induction along with
  | nil => simp
  | @snoc rounds stored v round effects w earlier turn ih =>
    obtain ⟨once,remembered⟩ := ih fun r mem => selected r (List.mem_append_left _ mem)
    have settles := (earlier.between between).settles turn
    have picked : p ∈ v.pickedPaths round.disk round.paths := by
      rw [pickedOrder,List.mem_eraseDups,earlier.filter between]
      exact selected round (by simp)
    have new : p ∈ v.storedIn round.calls → p ∉ v.snapshot := fun mem =>
      (freshIff.mp (settles.within p mem)).2
    constructor
    · rw [List.count_append]
      by_cases held : p ∈ v.snapshot
      · rw [List.count_eq_zero.mpr fun mem => new mem held]
        exact once
      · rw [List.count_eq_zero.mpr fun mem => held (remembered.mpr (.inr mem)),Nat.zero_add]
        exact List.nodup_iff_count_le_one.mp settles.once p
    · rw [settles.snapshot,and_iff_right picked,remembered,List.mem_append,or_assoc]

end Rounds

structure Persists (past : List Path) (u : Uploader) (stored : List Path) (w : Uploader)
    (round : Round) (p : Path) : Prop where
  once : (stored ++ w.storedIn round.calls).count p ≤ 1
  submitted : p ∈ w.freshPaths round.disk round.paths ↔ p ∉ u.snapshot ∧ p ∉ stored
  remembered : p ∈ u.snapshot → p ∈ past

theorem selectedUntilStored {config : Config} {start u w x : Uploader} {earlier stretch : List Round}
    {past stored : List Path} {round : Round} {effects : List Effect}
    (ready : render config = .ok start) (single : config.multiple = false)
    (before : Rounds start earlier past u) (along : Rounds u stretch stored w)
    (turn : Turn w round effects x) :
    Submits w round.disk round.paths ∧
    Settles w round.disk round.paths effects (w.storedIn round.calls) x ∧
    ∀ p, (∀ r ∈ stretch ++ [round], p ∈ acceptedBy start.filter r.disk r.paths) →
      Persists past u stored w round p := by
  have fresh : Between start ∧ start.snapshot = [] := by
    have sound := renderedSound ready
    obtain ⟨kind,rfl⟩ := renderedFresh ready
    exact ⟨⟨sound,single,rfl,rfl⟩,rfl⟩
  have first := before.between fresh.1
  have last := along.between first
  have same : u.filter = start.filter := before.filter fresh.1
  refine ⟨choiceSubmits last.sound last.single last.empty last.free,last.settles turn,?_⟩
  intro p selected
  have selected' : ∀ r ∈ stretch ++ [round], p ∈ acceptedBy u.filter r.disk r.paths :=
    fun r mem => same ▸ selected r mem
  have remembered := (along.once first fun r mem => selected' r (List.mem_append_left _ mem)).2
  refine ⟨((along.snoc turn).once first selected').1,?_,before.remembered fresh.1 fresh.2⟩
  have picked : p ∈ w.pickedPaths round.disk round.paths := by
    rw [pickedOrder,List.mem_eraseDups,along.filter first]
    exact selected' round (by simp)
  rw [freshIff,and_iff_right picked,remembered,not_or]

-- Two files are chosen and one of them is stored; then both are chosen again.
def halfStored : Round := ⟨sampleDisk,[[97],[98],[97]],[sampleAccepted,.fileRead 0 (.ok []),
  .postAnswered 0 (.whole 500 []),.fileRead 1 (.ok []),.postAnswered 1 (.whole 200 [])]⟩

def restStored : Round := ⟨sampleDisk,[[98],[97]],[sampleAccepted,.fileRead 0 (.ok []),
  .postAnswered 0 (.whole 200 [])]⟩

def halfDone : Uploader := { sample false with snapshot := [[98]], lastId := 2 }

def restDone : Uploader := { sample false with snapshot := [[98],[97]], lastId := 3 }

theorem halfTurn : Turn (sample false) halfStored ((sample false).after halfStored.calls).2 halfDone :=
  ⟨by decide +kernel,by decide,rfl⟩

theorem restTurn : Turn halfDone restStored (halfDone.after restStored.calls).2 restDone :=
  ⟨by decide +kernel,by decide,rfl⟩

theorem restPersists : render (sampleConfig false) = .ok (sample false) ∧
    Turn (sample false) halfStored ((sample false).after halfStored.calls).2 halfDone ∧
    Turn halfDone restStored (halfDone.after restStored.calls).2 restDone ∧
    Settles halfDone sampleDisk [[98],[97]] (halfDone.after restStored.calls).2
      (halfDone.storedIn restStored.calls) restDone ∧
    Persists [] (sample false) ([] ++ (sample false).storedIn halfStored.calls) halfDone restStored
      [97] ∧
    halfDone.freshPaths sampleDisk [[98],[97]] = [[97]] := by
  obtain ⟨-,settles,persists⟩ := selectedUntilStored (sampleRendered false) rfl .nil
    (.snoc .nil halfTurn) restTurn
  exact ⟨sampleRendered false,halfTurn,restTurn,settles,persists [97] (by decide +kernel),
    by decide +kernel⟩

end SignedUpload.Uploader

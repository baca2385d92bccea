import SignedUpload.Proofs.Transit

/-! The course of a batch from its dispatch to its report. The list keeps what each outcome says of
its file, whatever is called meanwhile. -/
namespace SignedUpload.Uploader

structure Launched (base : Uploader) (jobs : List Job) : Prop extends Listed base where
  ids : (jobs.map (·.id)).Nodup
  rising : jobs.Pairwise (·.position < ·.position)
  carried : ∀ job ∈ jobs, ∃ f ∈ base.files, Carries job f
  all : ∀ f ∈ base.files, f.status = .uploading → ∃ job ∈ jobs, job.id = f.id

theorem Launched.positions {base : Uploader} {jobs : List Job} (launched : Launched base jobs) :
    (jobs.map (·.position)).Nodup :=
  List.pairwise_map.mpr (launched.rising.imp Nat.ne_of_lt)

theorem Launched.carries {base : Uploader} {jobs : List Job} (launched : Launched base jobs)
    {job : Job} (mem : job ∈ jobs) {f : PendingFile} (listed : f ∈ base.files)
    (same : f.id = job.id) : Carries job f := by
  obtain ⟨g,here,carries⟩ := launched.carried job mem
  rwa [sameFile launched.distinct listed here (same.trans carries.id.symm)]

section Landed
variable (config : Config) (policy : Policy) (jobs : List Job) (events : List Event)

def landed (f : PendingFile) : PendingFile :=
  match jobs.find? (·.id == f.id) with
  | none => f
  | some job => match outcomeOf config policy events job with
    | none => f
    | some outcome => { f with status := statusOf outcome }

variable {config policy jobs events} {job : Job} {f : PendingFile}

theorem landedId : (landed config policy jobs events f).id = f.id := by
  unfold landed
  split
  · rfl
  · split <;> rfl

theorem landedOf (ids : (jobs.map (·.id)).Nodup) (mem : job ∈ jobs) (same : f.id = job.id) :
    landed config policy jobs events f = match outcomeOf config policy events job with
      | none => f
      | some outcome => { f with status := statusOf outcome } := by
  have found : jobs.find? (·.id == f.id) = some job := (keyedIff ids).mpr ⟨mem,same.symm⟩
  simp only [landed,found]

theorem landedSame {later : List Event}
    (same : ∀ j ∈ jobs, outcomeOf config policy later j = outcomeOf config policy events j) :
    landed config policy jobs later f = landed config policy jobs events f := by
  unfold landed
  cases found : jobs.find? (·.id == f.id) with
  | none => rfl
  | some j => simp only [same j (List.mem_of_find?_eq_some found)]

theorem landedClosed {later : List Event} (ids : (jobs.map (·.id)).Nodup) (mem : job ∈ jobs)
    {outcome : Except UploadError Unit} (finished : outcomeOf config policy later job = some outcome)
    (others : ∀ j ∈ jobs, j ≠ job →
      outcomeOf config policy later j = outcomeOf config policy events j) :
    landed config policy jobs later f =
      mark job.id (statusOf outcome) (landed config policy jobs events f) := by
  by_cases same : f.id = job.id
  · rw [mark,landedId,if_pos same,landedOf ids mem same,landedOf ids mem same,finished]
    cases outcomeOf config policy events job <;> rfl
  · rw [markOther (by rwa [landedId])]
    unfold landed
    cases found : jobs.find? (·.id == f.id) with
    | none => rfl
    | some j =>
      have named : j.id = f.id := by simpa using List.find?_some found
      have other : j ≠ job := fun eq => same (by rw [← named,eq])
      simp only [others j (List.mem_of_find?_eq_some found) other]

end Landed

inductive Moved (policy : Policy) (jobs : List Job) (events : List Event) (effects : List Effect)
    (u : Uploader) (origin : Origin) (e : Event) : Result → Prop where
  | posted {job request t}
      (same : ∀ j ∈ jobs,
        outcomeOf u.config policy (events ++ [e]) j = outcomeOf u.config policy events j)
      (flying : t.flights ≠ [])
      (transit : Transit u.config policy jobs (events ++ [e]) (effects ++ [.postFile job request]) t) :
      Moved policy jobs events effects u origin e (u.underWay origin t,[.postFile job request])
  | closed {job outcome t} (here : job ∈ jobs)
      (before : outcomeOf u.config policy events job = none)
      (finished : outcomeOf u.config policy (events ++ [e]) job = some outcome)
      (others : ∀ j ∈ jobs, j ≠ job →
        outcomeOf u.config policy (events ++ [e]) j = outcomeOf u.config policy events j)
      (transit : Transit u.config policy jobs (events ++ [e]) effects t) :
      Moved policy jobs events effects u origin e
        (({ u with files := u.files.map (mark job.id (statusOf outcome)) } : Uploader).advance
          origin t)

section Moves
variable {u : Uploader} {origin : Origin} {t : Transfer} {policy : Policy} {jobs : List Job}
  {events : List Event} {effects : List Effect} {e : Event} {job : Job} {stage : Stage}
  {outcome : Except UploadError Unit}

theorem movedClosed (sound : Sound u) (under : u.batch = some ⟨origin,.transferring t⟩)
    (rising : jobs.Pairwise (·.position < ·.position))
    (transit : Transit u.config policy jobs events effects t) (flies : ⟨job,stage⟩ ∈ t.flights)
    (concerns : Concerns job.position e)
    (ends : ∀ t', job ∉ pendingJobs t' → Stands u.config policy t' (events ++ [e]) job)
    (finished : outcomeOf u.config policy (events ++ [e]) job = some outcome)
    (posted : requestOf u.config policy (events ++ [e]) job = requestOf u.config policy events job) :
    Moved policy jobs events effects u origin e (u.resolve origin t job outcome) := by
  have runs := (sound.runs under).1
  have positions : (jobs.map (·.position)).Nodup := List.pairwise_map.mpr (rising.imp Nat.ne_of_lt)
  have here := transit.inside job (flightPending flies)
  have before := (transit.stands job here).openIff.mpr (flightPending flies)
  obtain ⟨⟨_,_,_,marked⟩,-⟩ := closeRuns sound.distinct runs u.config flies outcome
  have closed := transit.close rising runs flies concerns ends finished posted
  rw [resolveEq,marked]
  exact .closed here before finished
    (fun j mem apart => (othersAlike positions here concerns mem apart).outcome) closed

theorem moveCases (sound : Sound u) (under : u.batch = some ⟨origin,.transferring t⟩)
    (rising : jobs.Pairwise (·.position < ·.position))
    (transit : Transit u.config policy jobs events effects t) {result : Result}
    (answered : Answered u e result) : Moved policy jobs events effects u origin e result := by
  have positions : (jobs.map (·.position)).Nodup := List.pairwise_map.mpr (rising.imp Nat.ne_of_lt)
  have once := (sound.runs under).1.positions
  cases answered with
  | denied awaiting _ =>
    rw [under] at awaiting
    cases awaiting
  | granted awaiting _ _ =>
    rw [under] at awaiting
    cases awaiting
  | @unsent _ _ position job contents error under' flight broken =>
    rw [under] at under'
    cases under'
    obtain ⟨flies,rfl⟩ := (flightIff once).mp flight
    have here := transit.inside job (flightPending flies)
    obtain ⟨unread,unanswered⟩ := (transit.stands job here).unread once flies
    obtain ⟨read,still⟩ := readHere events job.position contents
    rw [unread] at read
    rw [unanswered] at still
    rw [transit.signed] at broken
    exact movedClosed sound under rising transit flies rfl
      (fun t' gone => .broken gone read broken still)
      (by simp [outcomeOf,read,broken]) (by simp [requestOf,read,unread,broken,Except.toOption])
  | @posted _ _ position job contents request under' flight sent =>
    rw [under] at under'
    cases under'
    obtain ⟨flies,rfl⟩ := (flightIff once).mp flight
    have here := transit.inside job (flightPending flies)
    obtain ⟨unread,unanswered⟩ := (transit.stands job here).unread once flies
    obtain ⟨read,still⟩ := readHere events job.position contents
    rw [transit.signed] at sent
    have concerns : Concerns job.position (.fileRead job.position contents) := rfl
    refine .posted ?_ ?_ (transit.post positions once flies sent)
    · intro j mem
      by_cases same : j = job
      · subst same
        simp [outcomeOf,read,unread,sent,still,unanswered]
      · exact (othersAlike positions here concerns mem same).outcome
    · exact mt List.map_eq_nil_iff.mp (List.ne_nil_of_mem flies)
  | @replied _ _ position job request reply under' flight =>
    rw [under] at under'
    cases under'
    obtain ⟨flies,rfl⟩ := (flightIff once).mp flight
    have here := transit.inside job (flightPending flies)
    obtain ⟨contents,read,made,unanswered⟩ := (transit.stands job here).awaiting once flies
    obtain ⟨answered,still⟩ := replyHere events job.position reply
    rw [read] at still
    rw [unanswered] at answered
    exact movedClosed sound under rising transit flies rfl
      (fun t' gone => .replied gone still made answered)
      (by simp [outcomeOf,still,made,answered]) (by simp [requestOf,still,read])

end Moves

section Progress
-- `Keep` is whatever else is known of the uploader; it has to outlast an answer.
variable (config : Config) (policy : Policy) (jobs : List Job) (origin : Origin)
  (Keep : List Event → Uploader → Prop)

structure Keeping : Prop where
  batch : ∀ {events u} batch, Keep events u → Keep events { u with batch := batch }
  posted : ∀ {events e u}, (∀ j ∈ jobs,
      outcomeOf config policy (events ++ [e]) j = outcomeOf config policy events j) →
    Keep events u → Keep (events ++ [e]) u
  closed : ∀ {events e u job outcome}, job ∈ jobs → outcomeOf config policy events job = none →
    outcomeOf config policy (events ++ [e]) job = some outcome →
    (∀ j ∈ jobs, j ≠ job →
      outcomeOf config policy (events ++ [e]) j = outcomeOf config policy events j) →
    Keep events u →
    Keep (events ++ [e]) { u with files := u.files.map (mark job.id (statusOf outcome)) }

inductive Progress (events : List Event) : List Effect → Uploader → Prop where
  | going {effects u t} (under : u.batch = some ⟨origin,.transferring t⟩)
      (same : u.config = config) (flying : t.flights ≠ [])
      (transit : Transit config policy jobs events effects t) (silent : reports effects = [])
      (keep : Keep events u) : Progress events effects u
  | finished {effects u t} (same : u.config = config) (empty : pendingJobs t = [])
      (transit : Transit config policy jobs events effects t) (silent : reports effects = [])
      (keep : Keep events u) :
      Progress events
        (effects ++ [.allUploaded (objectsOf config policy events jobs),
          .answer (succeed origin (objectsOf config policy events jobs))]) u.settled

theorem fillFlying {u : Uploader} {t : Transfer} (nonempty : pendingJobs t ≠ []) :
    (u.fill t).flights ≠ [] := by
  intro empty
  obtain ⟨flights,started⟩ := List.append_eq_nil_iff.mp empty
  have nothing : t.queue.take (u.room t) = [] := List.map_eq_nil_iff.mp started
  rcases List.take_eq_nil_iff.mp nothing with full | queue
  · unfold room at full
    split at full
    · exact nonempty (by simp [pendingJobs,flights,List.length_eq_zero_iff.mp full])
    · rw [flights] at full
      simp only [List.length_nil] at full
      omega
  · exact nonempty (by simp [pendingJobs,flights,queue])

variable {config policy jobs origin Keep} {events : List Event} {effects : List Effect}
  {u : Uploader} {t : Transfer}

theorem advanceProgress (keeping : Keeping config policy jobs Keep) (same : u.config = config)
    (transit : Transit config policy jobs events effects t) (silent : reports effects = [])
    (keep : Keep events u) : Progress config policy jobs origin Keep events
      (effects ++ (u.advance origin t).2) (u.advance origin t).1 := by
  rcases advanceCases u origin t with ⟨empty,finished⟩ | ⟨nonempty,going⟩
  · rw [finished,reportEq,transit.complete empty]
    exact .finished same empty transit silent keep
  · rw [going]
    refine .going rfl same (fillFlying nonempty) (transit.fill u) ?_ (keeping.batch _ keep)
    rw [reportsAppend,reportsLoads,silent]
    rfl

theorem answerProgress (keeping : Keeping config policy jobs Keep)
    (rising : jobs.Pairwise (·.position < ·.position)) (sound : Sound u)
    (progress : Progress config policy jobs origin Keep events effects u) {e : Event}
    {result : Result} (answered : Answered u e result) :
    Progress config policy jobs origin Keep (events ++ [e]) (effects ++ result.2) result.1 := by
  cases progress with
  | @finished _ u _ same empty transit silent keep =>
    have busy := answered.busy
    simp [isUploading,u.settledRest.1] at busy
  | @going _ _ t under same flying transit silent keep =>
    subst same
    cases moveCases sound under rising transit answered with
    | posted same flying transit =>
      refine .going rfl rfl flying transit ?_ (keeping.batch _ (keeping.posted same keep))
      rw [reportsAppend,silent]
      rfl
    | closed here before finished others transit =>
      exact advanceProgress keeping rfl transit silent (keeping.closed here before finished others keep)

theorem launchProgress {base b : Uploader} {opening : List Effect}
    (keeping : Keeping base.config policy jobs Keep) (keep : Keep [] base)
    (opens : (b,opening) = base.advance origin ⟨policy,jobs,[],.start jobs.length,none⟩) :
    Progress base.config policy jobs origin Keep [] opening b := by
  have first : Progress base.config policy jobs origin Keep [] ([] ++ (b,opening).2) (b,opening).1 := by
    rw [opens]
    exact advanceProgress keeping rfl (transitStart base.config policy jobs) rfl keep
  exact first

theorem Called.keeps {v : Uploader} {e : Event} (called : Called u e v effects)
    (busy : u.isUploading = true) : v.batch = u.batch := by
  rcases called.batch with ⟨same,-⟩ | ⟨free,-⟩
  · exact same
  · simp [isUploading,free] at busy

theorem courseProgress {b w : Uploader} {opening : List Effect}
    (keeping : Keeping config policy jobs Keep) (rising : jobs.Pairwise (·.position < ·.position))
    (sound : Sound b) (first : Progress config policy jobs origin Keep [] opening b)
    (course : Course b events effects w)
    (tended : ∀ {past u v e said}, e ∈ events → e.isCall = true → u.isUploading = true →
      Called u e v said → Keep past u → Keep (past ++ [e]) v) :
    Progress config policy jobs origin Keep events (opening ++ effects) w := by
  induction course with
  | refl => simpa using first
  | @step v w events effects e said earlier busy next ih =>
    have sound' := earlier.sound sound
    have before := ih fun mem => tended (List.mem_append_left _ mem)
    rw [← List.append_assoc]
    cases call : e.isCall with
    | false => exact answerProgress keeping rising sound' before (answerCases call next)
    | true =>
      have called := sound'.called call next
      generalize opening ++ effects = sofar at before
      cases before with
      | @finished _ u _ _ _ _ _ _ => simp [isUploading,u.settledRest.1] at busy
      | going under same flying transit silent keep =>
        refine .going ((called.keeps busy).trans under) (called.config.trans same) flying
          (transit.call call called.quiet) ?_ (tended (by simp) call busy called keep)
        rw [reportsAppend,silent,called.quiet.reports]
        rfl

end Progress

def Withdrawn (config : Config) (policy : Policy) (events : List Event) (job : Job) : Prop :=
  ∃ outcome, outcomeOf config policy events job = some outcome ∧
    (.remove job.id ∈ events ∨ .retry job.id ∈ events ∧ statusOf outcome = .failed)

structure Stayed (base : Uploader) (policy : Policy) (jobs : List Job) (events : List Event)
    (u : Uploader) : Prop where
  last : base.lastId ≤ u.lastId
  known : ∀ f ∈ u.files, (∃ g ∈ base.files, f = landed base.config policy jobs events g) ∨
    base.lastId < f.id
  gone : ∀ job ∈ jobs, (∀ f ∈ u.files, f.id ≠ job.id) → Withdrawn base.config policy events job

section Stayed
variable {base u v : Uploader} {policy : Policy} {jobs : List Job} {events : List Event} {e : Event}
  {effects : List Effect}

theorem Withdrawn.later {config : Config} {job : Job} (gone : Withdrawn config policy events job)
    (same : outcomeOf config policy (events ++ [e]) job = outcomeOf config policy events job) :
    Withdrawn config policy (events ++ [e]) job := by
  obtain ⟨outcome,finished,how⟩ := gone
  refine ⟨outcome,same.trans finished,?_⟩
  rcases how with removed | ⟨renewed,failed⟩
  · exact .inl (List.mem_append_left _ removed)
  · exact .inr ⟨List.mem_append_left _ renewed,failed⟩

theorem Stayed.file (stayed : Stayed base policy jobs events u) (launched : Launched base jobs)
    {job : Job} (mem : job ∈ jobs) {f : PendingFile} (listed : f ∈ u.files) (same : f.id = job.id) :
    f.key = some job.key ∧ f.status = match outcomeOf base.config policy events job with
      | none => .uploading
      | some outcome => statusOf outcome := by
  rcases stayed.known f listed with ⟨g,old,rfl⟩ | new
  · rw [landedId] at same
    have carries := launched.carries mem old same
    rw [landedOf launched.ids mem same]
    cases outcomeOf base.config policy events job with
    | none => exact ⟨carries.key,carries.status⟩
    | some outcome => exact ⟨carries.key,rfl⟩
  · obtain ⟨g,old,carries⟩ := launched.carried job mem
    have below := launched.bound g old
    rw [carries.id,← same] at below
    exact absurd new (Nat.not_lt.mpr below)

theorem stayedStart (launched : Launched base jobs) (policy : Policy) :
    Stayed base policy jobs [] base where
  last := Nat.le_refl _
  known := by
    intro f mem
    refine .inl ⟨f,mem,?_⟩
    unfold landed
    split <;> rfl
  gone := by
    intro job mem absent
    obtain ⟨f,here,carries⟩ := launched.carried job mem
    exact absurd carries.id (absent f here)

theorem Stayed.call (stayed : Stayed base policy jobs events u) (launched : Launched base jobs)
    (call : e.isCall = true) (called : Called u e v effects) (busy : u.isUploading = true) :
    Stayed base policy jobs (events ++ [e]) v := by
  have same : ∀ job, outcomeOf base.config policy (events ++ [e]) job =
      outcomeOf base.config policy events job :=
    fun job => (unconcerned (callUnconcerned call job.position) events).outcome
  refine ⟨Nat.le_trans stayed.last called.last,?_,?_⟩
  · intro f mem
    rcases called.new f mem with old | ⟨-,-,new⟩
    · rcases stayed.known f old with ⟨g,first,eq⟩ | later
      · exact .inl ⟨g,first,by rw [landedSame fun j _ => same j]; exact eq⟩
      · exact .inr later
    · exact .inr (Nat.lt_of_le_of_lt stayed.last new)
  · intro job mem absent
    by_cases before : ∀ f ∈ u.files, f.id ≠ job.id
    · exact (stayed.gone job mem before).later (same job)
    · push Not at before
      obtain ⟨f,old,named⟩ := before
      obtain ⟨unsent,how⟩ := called.kept f old fun still => absent f still named
      have status := (stayed.file launched mem old named).2
      cases finished : outcomeOf base.config policy events job with
      | none =>
        rw [finished] at status
        exact absurd status unsent
      | some outcome =>
        rw [finished] at status
        refine ⟨outcome,(same job).trans finished,?_⟩
        rw [← named]
        rcases how with removed | ⟨renewed,failed⟩ | ⟨-,free⟩
        · exact .inl (List.mem_append_right _ (by simp [removed]))
        · exact .inr ⟨List.mem_append_right _ (by simp [renewed]),status.symm.trans failed⟩
        · simp [isUploading,free] at busy

theorem stayedKeeping (launched : Launched base jobs) (policy : Policy) :
    Keeping base.config policy jobs (Stayed base policy jobs) where
  batch := fun _ stayed => ⟨stayed.last,stayed.known,stayed.gone⟩
  posted := by
    intro events e u same stayed
    refine ⟨stayed.last,?_,fun job mem absent => (stayed.gone job mem absent).later (same job mem)⟩
    intro f mem
    rcases stayed.known f mem with ⟨g,old,eq⟩ | new
    · exact .inl ⟨g,old,by rw [landedSame same]; exact eq⟩
    · exact .inr new
  closed := by
    intro events e u job outcome here before finished others stayed
    refine ⟨stayed.last,?_,?_⟩
    · intro f mem
      obtain ⟨h,listed,rfl⟩ := List.mem_map.mp mem
      rcases stayed.known h listed with ⟨g,old,rfl⟩ | new
      · exact .inl ⟨g,old,(landedClosed launched.ids here finished others).symm⟩
      · exact .inr (by rwa [markId])
    · intro j mem absent
      have absent' : ∀ f ∈ u.files, f.id ≠ j.id := by
        intro f listed same
        exact absent _ (List.mem_map.mpr ⟨f,listed,rfl⟩) ((markId _ _ f).trans same)
      have gone := stayed.gone j mem absent'
      refine gone.later (others j mem ?_)
      rintro rfl
      obtain ⟨_,resolved,-⟩ := gone
      rw [before] at resolved
      cases resolved

end Stayed

end SignedUpload.Uploader

import SignedUpload.Proofs.Invariant
import SignedUpload.Proofs.Outcomes

/-! Jobs on their way through a batch. A job waits to be read, then to be answered, and is over. How
far it is shows in the transfer, and the same way in the events that came for it. -/
namespace SignedUpload.Uploader

section Transit
variable (config : Config) (policy : Policy)

inductive Stands (t : Transfer) (events : List Event) (job : Job) : Prop where
  | queued (waits : job ∈ t.queue) (unread : readsAt job.position events = [])
      (unanswered : repliesAt job.position events = [])
  | reading (flies : ⟨job,.reading⟩ ∈ t.flights) (unread : readsAt job.position events = [])
      (unanswered : repliesAt job.position events = [])
  | sent {contents request} (flies : ⟨job,.posting request⟩ ∈ t.flights)
      (read : readsAt job.position events = [contents])
      (made : posting config policy job contents = .ok request)
      (unanswered : repliesAt job.position events = [])
  | broken {contents error} (gone : job ∉ pendingJobs t)
      (read : readsAt job.position events = [contents])
      (broken : posting config policy job contents = .error error)
      (unanswered : repliesAt job.position events = [])
  | replied {contents request reply} (gone : job ∉ pendingJobs t)
      (read : readsAt job.position events = [contents])
      (made : posting config policy job contents = .ok request)
      (answered : repliesAt job.position events = [reply])

structure Transit (jobs : List Job) (events : List Event) (effects : List Effect) (t : Transfer) :
    Prop where
  signed : t.policy = policy
  started : loads effects ++ t.queue = jobs
  inside : ∀ job ∈ pendingJobs t, job ∈ jobs
  stands : ∀ job ∈ jobs, Stands config policy t events job
  posted : (posts effects).Perm (jobs.filterMap (sentOf config policy events))
  tallied : pendingJobs t ≠ [] →
    t.tally.results.Perm (jobs.filterMap (entryOf config policy events))
  complete : pendingJobs t = [] → t.completed.getD [] = objectsOf config policy events jobs

variable {config policy} {t : Transfer} {events : List Event} {job : Job}

theorem Stands.openIff (stands : Stands config policy t events job) :
    outcomeOf config policy events job = none ↔ job ∈ pendingJobs t := by
  cases stands with
  | queued waits unread unanswered =>
    simp [outcomeOf,unread,pendingJobs,waits]
  | reading flies unread unanswered =>
    simpa [outcomeOf,unread] using flightPending flies
  | sent flies read made unanswered =>
    simpa [outcomeOf,read,made,unanswered] using flightPending flies
  | broken gone read broken unanswered =>
    simpa [outcomeOf,read,broken] using gone
  | replied gone read made answered =>
    simpa [outcomeOf,read,made,answered] using gone

theorem Stands.frame {t' : Transfer} {later : List Event} (stands : Stands config policy t events job)
    (queue : job ∈ t.queue → job ∈ t'.queue ∨ ⟨job,.reading⟩ ∈ t'.flights)
    (flights : ∀ stage, ⟨job,stage⟩ ∈ t.flights → ⟨job,stage⟩ ∈ t'.flights)
    (closed : job ∈ pendingJobs t' → job ∈ pendingJobs t)
    (alike : Alike job.position events later) : Stands config policy t' later job := by
  obtain ⟨reads,replies⟩ := alike
  cases stands with
  | queued waits unread unanswered =>
    rcases queue waits with waits | flies
    · exact .queued waits (reads.trans unread) (replies.trans unanswered)
    · exact .reading flies (reads.trans unread) (replies.trans unanswered)
  | reading flies unread unanswered =>
    exact .reading (flights _ flies) (reads.trans unread) (replies.trans unanswered)
  | sent flies read made unanswered =>
    exact .sent (flights _ flies) (reads.trans read) made (replies.trans unanswered)
  | broken gone read broken unanswered =>
    exact .broken (fun pending => gone (closed pending)) (reads.trans read) broken
      (replies.trans unanswered)
  | replied gone read made answered =>
    exact .replied (fun pending => gone (closed pending)) (reads.trans read) made
      (replies.trans answered)

section Once
variable (once : ((pendingJobs t).map (·.position)).Nodup)
include once

theorem stageUnique {first second : Stage} (left : ⟨job,first⟩ ∈ t.flights)
    (right : ⟨job,second⟩ ∈ t.flights) : first = second := by
  have one := (flightIff once).mpr ⟨left,rfl⟩
  have other := (flightIff once).mpr ⟨right,rfl⟩
  rw [one] at other
  cases other
  rfl

theorem Stands.unread (stands : Stands config policy t events job)
    (flies : ⟨job,.reading⟩ ∈ t.flights) :
    readsAt job.position events = [] ∧ repliesAt job.position events = [] := by
  cases stands with
  | queued waits unread unanswered => exact ⟨unread,unanswered⟩
  | reading flies unread unanswered => exact ⟨unread,unanswered⟩
  | sent other read made unanswered => cases stageUnique once flies other
  | broken gone read broken unanswered => exact absurd (flightPending flies) gone
  | replied gone read made answered => exact absurd (flightPending flies) gone

theorem Stands.awaiting (stands : Stands config policy t events job) {request : Http.Request}
    (flies : ⟨job,.posting request⟩ ∈ t.flights) :
    ∃ contents, readsAt job.position events = [contents] ∧
      posting config policy job contents = .ok request ∧
      repliesAt job.position events = [] := by
  cases stands with
  | queued waits unread unanswered => exact absurd rfl (queuedApart once flies job waits)
  | reading other unread unanswered => cases stageUnique once flies other
  | sent other read made unanswered =>
    cases stageUnique once flies other
    exact ⟨_,read,made,unanswered⟩
  | broken gone read broken unanswered => exact absurd (flightPending flies) gone
  | replied gone read made answered => exact absurd (flightPending flies) gone

end Once

theorem advancePosts (u : Uploader) (origin : Origin) (t : Transfer) :
    posts (u.advance origin t).2 = [] := by
  rcases advanceCases u origin t with ⟨-,finished⟩ | ⟨-,going⟩
  · rw [finished,reportEq]
    rfl
  · rw [going,postsLoads]

variable {jobs : List Job} {effects : List Effect}

theorem transitStart (config : Config) (policy : Policy) (jobs : List Job) :
    Transit config policy jobs [] [] ⟨policy,jobs,[],.start jobs.length,none⟩ where
  signed := rfl
  started := rfl
  inside := by simp [pendingJobs]
  stands := fun _ mem => .queued mem rfl rfl
  posted := by simp [posts,sentOf,requestOf,readsAt]
  tallied := fun _ => by simp [Tally.start,entryOf,outcomeOf,readsAt]
  complete := by
    intro drained
    have empty : jobs = [] := by simpa [pendingJobs] using drained
    simp [empty,objectsOf]

theorem Transit.call (transit : Transit config policy jobs events effects t) {e : Event}
    {said : List Effect} (call : e.isCall = true) (quiet : Quiet said) :
    Transit config policy jobs (events ++ [e]) (effects ++ said) t := by
  have alike : ∀ position, Alike position events (events ++ [e]) :=
    fun position => unconcerned (callUnconcerned call position) events
  have sent : sentOf config policy (events ++ [e]) = sentOf config policy events :=
    funext fun _ => (alike _).sent
  have entries : entryOf config policy (events ++ [e]) = entryOf config policy events :=
    funext fun _ => (alike _).entry
  refine ⟨transit.signed,?_,transit.inside,?_,?_,?_,?_⟩
  · rw [loadsAppend,quiet.loads,List.append_nil]
    exact transit.started
  · exact fun job mem => (transit.stands job mem).frame .inl (fun _ flies => flies) id (alike _)
  · rw [postsAppend,quiet.posts,List.append_nil,sent]
    exact transit.posted
  · rw [entries]
    exact transit.tallied
  · rw [objectsOf,entries]
    exact transit.complete

theorem Transit.fill (transit : Transit config policy jobs events effects t) (u : Uploader) :
    Transit config policy jobs events (effects ++ (u.startable t).map .loadFile) (u.fill t) := by
  have same := u.fillPending t
  refine ⟨transit.signed,?_,fun job mem => transit.inside job (same.mem_iff.mp mem),?_,?_,?_,?_⟩
  · rw [loadsAppend,loadsLoads,List.append_assoc]
    simp only [startable,Uploader.fill,List.take_append_drop]
    exact transit.started
  · intro job mem
    refine (transit.stands job mem).frame ?_ (fun _ flies => List.mem_append_left _ flies)
      same.mem_iff.mp ⟨rfl,rfl⟩
    intro waits
    rw [← List.take_append_drop (u.room t) t.queue] at waits
    rcases List.mem_append.mp waits with starts | waits
    · exact .inr (List.mem_append_right _ (List.mem_map.mpr ⟨job,starts,rfl⟩))
    · exact .inl waits
  · rw [postsAppend,postsLoads,List.append_nil]
    exact transit.posted
  · intro nonempty
    exact transit.tallied fun empty => nonempty (List.perm_nil.mp (empty ▸ same))
  · intro empty
    exact transit.complete (List.perm_nil.mp (empty ▸ same.symm))

section Answer
variable (positions : (jobs.map (·.position)).Nodup) {e : Event} (here : job ∈ jobs)
  (concerns : Concerns job.position e)
include positions here concerns

theorem othersAlike {other : Job} (mem : other ∈ jobs) (apart : other ≠ job) :
    Alike other.position events (events ++ [e]) :=
  unconcerned (fun also => apart (List.inj_on_of_nodup_map positions mem here
    (concernsOne also concerns))) events

end Answer

theorem Transit.post (transit : Transit config policy jobs events effects t)
    (positions : (jobs.map (·.position)).Nodup)
    (once : ((pendingJobs t).map (·.position)).Nodup) (flies : ⟨job,.reading⟩ ∈ t.flights)
    {contents : Except DiskFault Bytes} {request : Http.Request}
    (made : posting config policy job contents = .ok request) :
    Transit config policy jobs (events ++ [.fileRead job.position contents])
      (effects ++ [.postFile job request]) (setStage t job.position (.posting request)) := by
  have here := transit.inside job (flightPending flies)
  obtain ⟨unread,unanswered⟩ := (transit.stands job here).unread once flies
  have alike : ∀ j ∈ jobs, j ≠ job →
      Alike j.position events (events ++ [.fileRead job.position contents]) :=
    fun j mem apart => othersAlike positions here (e := .fileRead _ _) rfl mem apart
  have read : readsAt job.position (events ++ [.fileRead job.position contents]) = [contents] := by
    rw [(readHere _ _ _).1,unread,List.nil_append]
  have still : repliesAt job.position (events ++ [.fileRead job.position contents]) = [] := by
    rw [(readHere _ _ _).2,unanswered]
  have pending := stagePending t job.position (.posting request)
  have entries : jobs.filterMap
      (entryOf config policy (events ++ [.fileRead job.position contents])) =
      jobs.filterMap (entryOf config policy events) := by
    apply List.filterMap_congr
    intro j mem
    by_cases same : j = job
    · subst same
      simp [entryOf,outcomeOf,read,made,still,unread]
    · exact (alike j mem same).entry
  refine ⟨transit.signed,?_,?_,?_,?_,?_,?_⟩
  · rw [loadsAppend]
    simpa [loads,setStage] using transit.started
  · rw [pending]
    exact transit.inside
  · intro j mem
    by_cases same : j = job
    · subst same
      exact .sent (List.mem_map.mpr ⟨⟨j,.reading⟩,flies,by simp⟩) read made still
    · refine (transit.stands j mem).frame .inl ?_ (by rw [pending]; exact id) (alike j mem same)
      intro stage its
      have apart : j.position ≠ job.position :=
        fun eq => same (List.inj_on_of_nodup_map positions mem here eq)
      exact List.mem_map.mpr ⟨⟨j,stage⟩,its,by simp [apart]⟩
  · have gains : (jobs.filterMap
        (sentOf config policy (events ++ [.fileRead job.position contents]))).Perm
        ((job,request) :: jobs.filterMap (sentOf config policy events)) :=
      filterMapGains (List.Nodup.of_map _ positions) here
        (fun j mem apart => (alike j mem apart).sent) (by simp [sentOf,requestOf,unread])
        (by simp [sentOf,requestOf,read,made,Except.toOption])
    refine List.Perm.trans ?_ gains.symm
    rw [postsAppend]
    exact List.perm_append_comm.trans (transit.posted.cons _)
  · rw [pending,entries]
    exact transit.tallied
  · rw [pending]
    intro empty
    have member := flightPending flies
    rw [empty] at member
    cases member

theorem closeGone (config : Config) {t : Transfer} {job : Job} {stage : Stage}
    (once : ((pendingJobs t).map (·.position)).Nodup) (flies : ⟨job,stage⟩ ∈ t.flights)
    (outcome : Except UploadError Unit) : job ∉ pendingJobs (closeJob config t job outcome) := by
  have perm := closePending config once flies outcome
  exact (List.nodup_cons.mp (perm.nodup_iff.mp (List.Nodup.of_map _ once))).1

theorem countedResults (config : Config) (tally : Tally) (job : Job)
    (outcome : Except UploadError Unit) :
    (counted config tally job outcome).results =
      tally.results ++ match outcome with
        | .ok _ => [(job.position,uploaded config job)]
        | .error _ => [] := by
  cases outcome with
  | ok _ => rfl
  | error _ => exact (List.append_nil _).symm

section Close
variable {files : List PendingFile} {stage : Stage} {e : Event} {outcome : Except UploadError Unit}

theorem closeEntries (transit : Transit config policy jobs events effects t)
    (positions : (jobs.map (·.position)).Nodup) (flies : ⟨job,stage⟩ ∈ t.flights)
    (concerns : Concerns job.position e)
    (finished : outcomeOf config policy (events ++ [e]) job = some outcome) :
    (counted config t.tally job outcome).results.Perm
      (jobs.filterMap (entryOf config policy (events ++ [e]))) := by
  have pending := flightPending flies
  have here := transit.inside job pending
  have before := transit.tallied (List.ne_nil_of_mem pending)
  have others : ∀ j ∈ jobs, j ≠ job →
      entryOf config policy (events ++ [e]) j = entryOf config policy events j :=
    fun j mem apart => (othersAlike positions here concerns mem apart).entry
  have unstored : entryOf config policy events job = none := by
    simp only [entryOf,(transit.stands job here).openIff.mpr pending]
  rw [countedResults]
  cases outcome with
  | ok _ =>
    have gains : (jobs.filterMap (entryOf config policy (events ++ [e]))).Perm
        ((job.position,uploaded config job) :: jobs.filterMap (entryOf config policy events)) :=
      filterMapGains (List.Nodup.of_map _ positions) here others unstored (by simp [entryOf,finished])
    exact (List.perm_append_comm.trans (before.cons _)).trans gains.symm
  | error _ =>
    have same : jobs.filterMap (entryOf config policy (events ++ [e])) =
        jobs.filterMap (entryOf config policy events) := by
      apply List.filterMap_congr
      intro j mem
      by_cases eq : j = job
      · subst eq
        rw [unstored]
        simp [entryOf,finished]
      · exact others j mem eq
    rw [same,List.append_nil]
    exact before

theorem risingEntries (rising : jobs.Pairwise (·.position < ·.position)) :
    (jobs.filterMap (entryOf config policy events)).Pairwise (·.1 < ·.1) := by
  refine List.Pairwise.filterMap _ ?_ rising
  intro i j before x hx y hy
  rw [entryPosition hx,entryPosition hy]
  exact before

theorem Transit.close (transit : Transit config policy jobs events effects t)
    (rising : jobs.Pairwise (·.position < ·.position)) (runs : Runs files t)
    (flies : ⟨job,stage⟩ ∈ t.flights) (concerns : Concerns job.position e)
    (ends : ∀ t', job ∉ pendingJobs t' → Stands config policy t' (events ++ [e]) job)
    (finished : outcomeOf config policy (events ++ [e]) job = some outcome)
    (posted : requestOf config policy (events ++ [e]) job = requestOf config policy events job) :
    Transit config policy jobs (events ++ [e]) effects (closeJob config t job outcome) := by
  have positions : (jobs.map (·.position)).Nodup := List.pairwise_map.mpr (rising.imp Nat.ne_of_lt)
  have here := transit.inside job (flightPending flies)
  have perm := closePending config runs.positions flies outcome
  have gone := closeGone config runs.positions flies outcome
  have alike : ∀ j ∈ jobs, j ≠ job → Alike j.position events (events ++ [e]) :=
    fun j mem apart => othersAlike positions here concerns mem apart
  have entries := closeEntries transit positions flies concerns finished
  refine ⟨transit.signed,transit.started,?_,?_,?_,?_,?_⟩
  · exact fun j mem => transit.inside j (perm.mem_iff.mpr (List.mem_cons_of_mem _ mem))
  · intro j mem
    by_cases same : j = job
    · subst same
      exact ends _ gone
    · refine (transit.stands j mem).frame .inl ?_
        (fun pending => perm.mem_iff.mpr (List.mem_cons_of_mem _ pending)) (alike j mem same)
      intro stage its
      have apart : j.position ≠ job.position :=
        fun eq => same (List.inj_on_of_nodup_map positions mem here eq)
      exact List.mem_filter.mpr ⟨its,by simpa using apart⟩
  · have sent : jobs.filterMap (sentOf config policy (events ++ [e])) =
        jobs.filterMap (sentOf config policy events) := by
      apply List.filterMap_congr
      intro j mem
      by_cases same : j = job
      · subst same
        simp only [sentOf,posted]
      · exact (alike j mem same).sent
    rw [sent]
    exact transit.posted
  · intro nonempty
    have more := closeGoes runs config flies outcome nonempty
    simp only [closeJob,Tally.takeWaits more]
    exact entries
  · intro empty
    rw [closeComplete runs config flies outcome empty,Option.getD_some]
    exact Tally.inOrderPerm entries (risingEntries rising)

end Close

end Transit

end SignedUpload.Uploader

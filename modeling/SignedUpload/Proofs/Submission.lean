import SignedUpload.Proofs.Refusal

/-! The batch of a choice that is left alone until its call is answered. Its files are those of the
selection in their order, and when it is over only those that were stored are remembered. -/
namespace SignedUpload.Uploader

def storedIn (u : Uploader) : List Event → List Path
  | [] => []
  | e :: rest => match u.step? e with
    | none => []
    | some (v,_) => u.storedBy e ++ v.storedIn rest

/-- A batch of the files `fresh`, as it stands after some effects: `stored` are the paths of those that
have succeeded, and the files come up in their order. -/
structure Alone (picked fresh : List Path) (loaded : List Job) (stored : List Path) (u : Uploader)
    (t : Transfer) : Prop where
  single : u.config.multiple = false
  snapshot : u.snapshot = picked
  files : u.files.map (·.path) = fresh
  sent : ∀ f ∈ u.files, f.status ≠ .waiting
  succeeded : ∀ p, p ∈ stored ↔ ∃ f ∈ u.files, f.path = p ∧ f.status = .succeeded
  once : stored.Nodup
  queue : (loaded ++ t.queue).map (·.path) = fresh

structure Cleared (picked fresh stored : List Path) (w : Uploader) : Prop where
  free : w.batch = none
  empty : w.files = []
  snapshot : ∀ p, p ∈ w.snapshot ↔ p ∈ picked ∧ (p ∉ fresh ∨ p ∈ stored)

section Alone
variable {picked fresh stored : List Path} {loaded : List Job} {u : Uploader} {origin : Origin}
  {t : Transfer} {job : Job}

theorem Alone.within (alone : Alone picked fresh loaded stored u t) {p : Path} (mem : p ∈ stored) :
    p ∈ fresh := by
  obtain ⟨f,listed,rfl,-⟩ := (alone.succeeded p).mp mem
  exact alone.files ▸ List.mem_map.mpr ⟨f,listed,rfl⟩

theorem Alone.carried (alone : Alone picked fresh loaded stored u t) (runs : Runs u.files t)
    (pending : job ∈ pendingJobs t) : job.path ∈ fresh := by
  obtain ⟨f,listed,carries⟩ := runs.sent job pending
  rw [← alone.files]
  exact List.mem_map.mpr ⟨f,listed,carries.path⟩

theorem Alone.clear (alone : Alone picked fresh loaded stored u t) (distinct : fresh.Nodup)
    (runs : Runs u.files t) (empty : pendingJobs t = []) :
    Cleared picked fresh stored u.settled := by
  -- nothing waits and nothing is under way, so every file has come to an end
  have final : ∀ f ∈ u.files, f.status = .failed ∨ f.status = .succeeded := by
    intro f mem
    have waits := alone.sent f mem
    have sends : f.status ≠ .uploading := by
      intro sent
      obtain ⟨job,pending,-⟩ := runs.all f mem sent
      rw [empty] at pending
      cases pending
    cases status : f.status <;> simp [status] at waits sends ⊢
  have failed : ∀ p, p ∈ (u.files.filter fun f => decide (f.status = .failed)).map (·.path) ↔
      p ∈ fresh ∧ p ∉ stored := by
    intro p
    rw [← alone.files] at distinct ⊢
    simp only [List.mem_map,List.mem_filter,decide_eq_true_eq,alone.succeeded]
    constructor
    · rintro ⟨f,⟨mem,broke⟩,rfl⟩
      refine ⟨⟨f,mem,rfl⟩,?_⟩
      rintro ⟨g,other,same,done⟩
      rw [List.inj_on_of_nodup_map distinct other mem same,broke] at done
      cases done
    · rintro ⟨⟨f,mem,rfl⟩,unstored⟩
      refine ⟨f,⟨mem,(final f mem).resolve_right fun done => unstored ⟨f,mem,rfl,done⟩⟩,rfl⟩
  rw [settledSingle alone.single]
  refine ⟨rfl,rfl,fun p => ?_⟩
  simp only [forget,List.mem_filter,alone.snapshot,Bool.not_eq_true',List.contains_eq_mem,
    decide_eq_false_iff_not,failed]
  tauto

theorem Alone.fill (alone : Alone picked fresh loaded stored u t) :
    Alone picked fresh (loaded ++ u.startable t) stored (u.underWay origin (u.fill t)) (u.fill t) where
  single := alone.single
  snapshot := alone.snapshot
  files := alone.files
  sent := alone.sent
  succeeded := alone.succeeded
  once := alone.once
  queue := by
    have both : u.startable t ++ (u.fill t).queue = t.queue := List.take_append_drop _ _
    rw [List.append_assoc,both]
    exact alone.queue

theorem Alone.stage (alone : Alone picked fresh loaded stored u t) (position : Nat) (stage : Stage) :
    Alone picked fresh loaded stored (u.underWay origin (setStage t position stage))
      (setStage t position stage) :=
  ⟨alone.single,alone.snapshot,alone.files,alone.sent,alone.succeeded,alone.once,alone.queue⟩

theorem Alone.exhausted (alone : Alone picked fresh loaded stored u t) (empty : pendingJobs t = []) :
    loaded.map (·.path) = fresh := by
  have queue : t.queue = [] := (List.append_eq_nil_iff.mp empty).1
  simpa [queue] using alone.queue

def gain (job : Job) : Except UploadError Unit → List Path
  | .ok _ => [job.path]
  | .error _ => []

theorem gainIff {outcome : Except UploadError Unit} {p : Path} :
    p ∈ gain job outcome ↔ p = job.path ∧ statusOf outcome = .succeeded := by
  cases outcome <;> simp [gain,statusOf]

theorem Alone.close (alone : Alone picked fresh loaded stored u t) (sound : Sound u)
    (distinct : fresh.Nodup) (under : u.batch = some ⟨origin,.transferring t⟩) {stage : Stage}
    (flies : ⟨job,stage⟩ ∈ t.flights) (outcome : Except UploadError Unit) :
    Alone picked fresh loaded (stored ++ gain job outcome)
      { u with files := markResolved u.files job.id (statusOf outcome) }
      (closeJob u.config t job outcome) := by
  obtain ⟨⟨file,listed,carries,marked⟩,-⟩ :=
    closeRuns sound.distinct (sound.runs under).1 u.config flies outcome
  have own : ∀ f ∈ u.files, f.id = job.id → f = file := fun f mem same =>
    sameFile sound.distinct mem listed (same.trans carries.id.symm)
  have paths : (u.files.map (mark job.id (statusOf outcome))).map (·.path) = u.files.map (·.path) := by
    rw [List.map_map]
    exact List.map_congr_left fun f _ => markPath _ _ f
  -- the paths are distinct: had this one been stored, its file would not be under way
  have unstored : job.path ∉ stored := by
    intro mem
    obtain ⟨f,other,same,done⟩ := (alone.succeeded _).mp mem
    rw [← alone.files] at distinct
    rw [List.inj_on_of_nodup_map distinct other listed (same.trans carries.path.symm),
      carries.status] at done
    cases done
  refine ⟨alone.single,alone.snapshot,?_,?_,?_,?_,alone.queue⟩
  · simp only [marked,paths,alone.files]
  · simp only [marked]
    intro g mem
    obtain ⟨f,old,rfl⟩ := List.mem_map.mp mem
    by_cases same : f.id = job.id
    · rcases statusFinal outcome with final | final <;> simp [mark,same,final]
    · rw [markOther same]
      exact alone.sent f old
  · intro p
    simp only [marked,List.mem_append,gainIff,alone.succeeded]
    constructor
    · rintro (⟨f,old,rfl,done⟩ | ⟨rfl,done⟩)
      · have other : f.id ≠ job.id := by
          intro same
          rw [own f old same,carries.status] at done
          cases done
        exact ⟨f,List.mem_map.mpr ⟨f,old,markOther other _⟩,rfl,done⟩
      · exact ⟨_,List.mem_map.mpr ⟨file,listed,rfl⟩,(markPath _ _ _).trans carries.path,
          by simp [mark,carries.id,done]⟩
    · rintro ⟨g,mem,rfl,done⟩
      obtain ⟨f,old,rfl⟩ := List.mem_map.mp mem
      by_cases same : f.id = job.id
      · rw [own f old same,markPath]
        refine .inr ⟨carries.path,?_⟩
        simpa [mark,same] using done
      · rw [markOther same] at done ⊢
        exact .inl ⟨f,old,rfl,done⟩
  · refine List.nodup_append.mpr ⟨alone.once,?_,?_⟩
    · cases outcome <;> simp [gain]
    · rintro p old q new rfl
      exact unstored ((gainIff.mp new).1 ▸ old)

end Alone

def freshPaths (u : Uploader) (disk : Disk) (paths : List Path) : List Path :=
  (u.unseen disk paths).map (·.path)

theorem jobPaths {files : List PendingFile} {jobs : List Job} (distinct : Distinct files)
    (ids : jobs.map (·.id) = files.map (·.id)) (made : ∀ job ∈ jobs, ∃ f ∈ files, MadeOf job f) :
    jobs.map (·.path) = files.map (·.path) := by
  -- the ids give the paths, since the list has one file for each id
  have found : ∀ f ∈ files, (files.find? (·.id == f.id)).map (·.path) = some f.path := by
    intro f mem
    rw [(foundIff distinct).mpr ⟨mem,rfl⟩]
    rfl
  have same : (jobs.map (·.path)).map some = (files.map (·.path)).map some := by
    calc (jobs.map (·.path)).map some
        = (jobs.map (·.id)).map fun id => (files.find? (·.id == id)).map (·.path) := by
          simp only [List.map_map]
          refine List.map_congr_left fun job mem => ?_
          obtain ⟨f,listed,its⟩ := made job mem
          simp only [Function.comp_apply,← its.id,← its.path,found f listed]
      _ = (files.map (·.id)).map fun id => (files.find? (·.id == id)).map (·.path) := by rw [ids]
      _ = (files.map (·.path)).map some := by
          simp only [List.map_map]
          exact List.map_congr_left fun f mem => found f mem
  exact List.map_injective_iff.mpr (fun _ _ => Option.some.inj) same

section Choice
variable {u : Uploader} {disk : Disk} {paths : List Path}

theorem freshIff {p : Path} :
    p ∈ u.freshPaths disk paths ↔ p ∈ u.pickedPaths disk paths ∧ p ∉ u.snapshot := by
  rw [freshPaths,← stageFromPaths (u.lastId + 1)]
  exact submissionPath u disk paths p

theorem freshDistinct : (u.freshPaths disk paths).Nodup :=
  (pickedDistinct u disk paths).sublist (List.filter_sublist.map _)

theorem submitFiles (empty : u.files = []) : (u.submit disk paths).files = u.submission disk paths := by
  simp [submit,empty]

theorem submitPaths (empty : u.files = []) :
    (u.submit disk paths).files.map (·.path) = u.freshPaths disk paths := by
  rw [submitFiles empty]
  exact stageFromPaths _ _

theorem submitWaiting (empty : u.files = []) :
    waitingIds (u.submit disk paths).files = (u.submit disk paths).files.map (·.id) := by
  rw [waitingSubmission,submitFiles empty,empty]
  rfl

theorem launchedAlone (single : u.config.multiple = false) (empty : u.files = [])
    {jobs : List Job} {sent : List PendingFile}
    (d : Dispatched 0 (u.submit disk paths).files (waitingIds (u.submit disk paths).files) jobs sent)
    (request : Http.Request) (policy : Policy) :
    Alone (u.pickedPaths disk paths) (u.freshPaths disk paths) [] []
      { u.submitted disk paths request with files := sent }
      ⟨policy,jobs,[],.start jobs.length,none⟩ := by
  have distinct : Distinct (u.submit disk paths).files := by
    rw [Distinct,submitFiles empty,submission,stageFromIds]
    exact List.nodup_range'
  have ids : jobs.map (·.id) = (u.submit disk paths).files.map (·.id) := by
    rw [d.ids,submitWaiting empty]
    refine List.filter_eq_self.mpr fun id mem => ?_
    obtain ⟨f,listed,rfl⟩ := List.mem_map.mp mem
    simp [(foundIff distinct).mpr ⟨listed,rfl⟩]
  have uploading : ∀ g ∈ sent, g.status = .uploading := by
    intro g mem
    rw [d.sent] at mem
    obtain ⟨f,listed,rfl⟩ := List.mem_map.mp mem
    obtain ⟨job,here,named⟩ : ∃ job ∈ jobs, job.id = f.id :=
      List.mem_map.mp (ids ▸ List.mem_map.mpr ⟨f,listed,rfl⟩)
    have found : (jobs.find? (·.id == f.id)).isSome = true :=
      List.find?_isSome.mpr ⟨job,here,by simpa using named⟩
    obtain ⟨job',eq⟩ := Option.isSome_iff_exists.mp found
    simp only [stamp,eq]
  refine ⟨single,rfl,?_,?_,?_,List.nodup_nil,?_⟩
  · simp only [d.sent,List.map_map,← submitPaths empty]
    exact List.map_congr_left fun f _ => stampPath jobs f
  · exact fun f mem => by simp [uploading f mem]
  · intro p
    simp only [List.not_mem_nil,false_iff,not_exists,not_and]
    intro f mem _ done
    simp [uploading f mem] at done
  · rw [List.nil_append,jobPaths distinct ids d.made,submitPaths empty]

end Choice

inductive Followup (u : Uploader) (disk : Disk) (paths : List Path) (request : Http.Request) :
    List Effect → List Path → Uploader → Prop where
  | awaiting : Followup u disk paths request [] [] (u.submitted disk paths request)
  | denied (failure : PolicyFailure) : Followup u disk paths request
      [.policyFailed failure,.answer (.failed (.policyFailed failure))] [] (u.refused disk paths)
  | going {v t effects stored}
      (under : v.batch = some ⟨.choice ((u.submission disk paths).map (·.id)),.transferring t⟩)
      (alone : Alone (u.pickedPaths disk paths) (u.freshPaths disk paths) (loads effects) stored v t)
      (silent : answers effects = [])
      (posted : ∀ sent ∈ posts effects, sent.1.path ∈ u.freshPaths disk paths) :
      Followup u disk paths request effects stored v
  | ended {w effects stored}
      (cleared : Cleared (u.pickedPaths disk paths) (u.freshPaths disk paths) stored w)
      (within : ∀ p ∈ stored, p ∈ u.freshPaths disk paths) (once : stored.Nodup)
      (loaded : (loads effects).map (·.path) = u.freshPaths disk paths)
      (told : answers effects = [.staged ((u.submission disk paths).map (·.id))])
      (posted : ∀ sent ∈ posts effects, sent.1.path ∈ u.freshPaths disk paths) :
      Followup u disk paths request effects stored w

section Followup
variable {u v w : Uploader} {disk : Disk} {paths : List Path} {request : Http.Request}
  {effects said : List Effect} {stored : List Path} {e : Event}

theorem advanceFollowup {t : Transfer}
    (alone : Alone (u.pickedPaths disk paths) (u.freshPaths disk paths) (loads effects) stored v t)
    (runs : Runs v.files t) (silent : answers effects = [])
    (posted : ∀ sent ∈ posts effects, sent.1.path ∈ u.freshPaths disk paths) :
    Followup u disk paths request
      (effects ++ (v.advance (.choice ((u.submission disk paths).map (·.id))) t).2) stored
      (v.advance (.choice ((u.submission disk paths).map (·.id))) t).1 := by
  rcases advanceCases v (.choice ((u.submission disk paths).map (·.id))) t with
    ⟨empty,finished⟩ | ⟨-,going⟩
  · rw [finished,reportEq]
    refine .ended (alone.clear freshDistinct runs empty) (fun p mem => alone.within mem) alone.once ?_
      ?_ ?_
    · rw [loadsAppend,(reportAsks _ _).1,List.append_nil]
      exact alone.exhausted empty
    · rw [answersAppend,silent]
      rfl
    · rwa [postsAppend,(reportAsks _ _).2,List.append_nil]
  · rw [going]
    refine .going rfl ?_ ?_ ?_
    · rw [loadsAppend,loadsLoads]
      exact alone.fill
    · rw [answersAppend,silent,answersLoads]
      rfl
    · rwa [postsAppend,postsLoads,List.append_nil]

theorem closeFollowup {t : Transfer} {job : Job} {stage : Stage} (sound : Sound v)
    (under : v.batch = some ⟨.choice ((u.submission disk paths).map (·.id)),.transferring t⟩)
    (alone : Alone (u.pickedPaths disk paths) (u.freshPaths disk paths) (loads effects) stored v t)
    (silent : answers effects = [])
    (posted : ∀ sent ∈ posts effects, sent.1.path ∈ u.freshPaths disk paths)
    (flies : ⟨job,stage⟩ ∈ t.flights) (outcome : Except UploadError Unit) :
    Followup u disk paths request
      (effects ++ (v.resolve (.choice ((u.submission disk paths).map (·.id))) t job outcome).2)
      (stored ++ gain job outcome)
      (v.resolve (.choice ((u.submission disk paths).map (·.id))) t job outcome).1 := by
  rw [resolveEq]
  exact advanceFollowup (alone.close sound freshDistinct under flies outcome)
    (closeRuns sound.distinct (sound.runs under).1 v.config flies outcome).2 silent posted

theorem postFollowup {t : Transfer} {job : Job} {stage : Stage} (sound : Sound v)
    (under : v.batch = some ⟨.choice ((u.submission disk paths).map (·.id)),.transferring t⟩)
    (alone : Alone (u.pickedPaths disk paths) (u.freshPaths disk paths) (loads effects) stored v t)
    (silent : answers effects = [])
    (posted : ∀ sent ∈ posts effects, sent.1.path ∈ u.freshPaths disk paths)
    (flies : ⟨job,stage⟩ ∈ t.flights) (position : Nat) (form : Http.Request) :
    Followup u disk paths request (effects ++ [.postFile job form]) stored
      (v.underWay (.choice ((u.submission disk paths).map (·.id)))
        (setStage t position (.posting form))) := by
  have carried := alone.carried (sound.runs under).1 (flightPending flies)
  refine .going rfl ?_ ?_ ?_
  · have unread : loads (effects ++ [.postFile job form]) = loads effects := by
      rw [loadsAppend]
      exact List.append_nil _
    rw [unread]
    exact alone.stage _ _
  · rw [answersAppend,silent]
    rfl
  · intro sent mem
    rw [postsAppend] at mem
    rcases List.mem_append.mp mem with old | new
    · exact posted sent old
    · obtain rfl := List.mem_singleton.mp new
      exact carried

theorem Followup.step (listed : Listed u) (single : u.config.multiple = false) (empty : u.files = [])
    (free : u.batch = none) (sound : Sound v)
    (followup : Followup u disk paths request effects stored v) (answer : e.isCall = false)
    (next : v.step? e = some (w,said)) :
    Followup u disk paths request (effects ++ said) (stored ++ v.storedBy e) w := by
  have answered := answerCases answer next
  have busy := answered.busy
  generalize result : (w,said) = r at answered
  cases followup with
  | awaiting =>
    cases answered with
    | denied awaiting denied =>
      cases awaiting
      rw [policyFailedEq] at result
      cases result
      rw [submittedTakeBack listed free]
      exact .denied _
    | @granted _ _ _ _ _ _ policy _ _ awaiting granted given =>
      cases awaiting
      have waits := sound.waits rfl
      have d := dispatchExact sound.distinct waits.once waits.still given
      have runs := (dispatchRuns sound rfl policy d).2
      obtain rfl : w = _ := congrArg Prod.fst result
      obtain rfl : said = _ := congrArg Prod.snd result
      exact advanceFollowup (launchedAlone single empty d request policy) runs rfl (by simp [posts])
    | unsent under flight broken => cases under
    | posted under flight sent => cases under
    | replied under flight => cases under
  | denied failure => simp [refused,isUploading,free] at busy
  | ended cleared within once loaded told posted => simp [isUploading,cleared.free] at busy
  | going under alone silent posted =>
    cases answered with
    | denied awaiting denied => cases under.symm.trans awaiting
    | granted awaiting granted given => cases under.symm.trans awaiting
    | unsent under' flight broken =>
      cases under.symm.trans under'
      obtain ⟨flies,-⟩ := (flightIff (sound.runs under).1.positions).mp flight
      obtain rfl : w = _ := congrArg Prod.fst result
      obtain rfl : said = _ := congrArg Prod.snd result
      exact closeFollowup sound under alone silent posted flies _
    | posted under' flight sent =>
      cases under.symm.trans under'
      obtain ⟨flies,-⟩ := (flightIff (sound.runs under).1.positions).mp flight
      cases result
      rw [show v.storedBy (.fileRead _ _) = [] from rfl,List.append_nil]
      exact postFollowup sound under alone silent posted flies _ _
    | @replied _ _ position job request' reply under' flight =>
      cases under.symm.trans under'
      obtain ⟨flies,-⟩ := (flightIff (sound.runs under).1.positions).mp flight
      have gained : v.storedBy (.postAnswered position reply) = gain job (Config.stored request' reply) := by
        simp only [storedBy,under,flight]
        cases Config.stored request' reply <;> rfl
      obtain rfl : w = _ := congrArg Prod.fst result
      obtain rfl : said = _ := congrArg Prod.snd result
      rw [gained]
      exact closeFollowup sound under alone silent posted flies _

theorem Followup.run (listed : Listed u) (single : u.config.multiple = false) (empty : u.files = [])
    (free : u.batch = none) (sound : Sound v)
    (followup : Followup u disk paths request effects stored v) {events : List Event}
    (answers : ∀ e ∈ events, e.isCall = false) (run : v.run? events = some (w,said)) :
    Followup u disk paths request (effects ++ said) (stored ++ v.storedIn events) w := by
  induction events generalizing v effects stored said with
  | nil =>
    obtain ⟨rfl,rfl⟩ := runNil.mp run
    simpa [storedIn] using followup
  | cons e rest ih =>
    obtain ⟨x,first,more,next,later,rfl⟩ := runCons.mp run
    have stepped := followup.step listed single empty free sound (answers e List.mem_cons_self) next
    have ended := ih (stepSound sound next) stepped
      (fun e mem => answers e (List.mem_cons_of_mem _ mem)) later
    rw [List.append_assoc,List.append_assoc] at ended
    simpa only [storedIn,next] using ended

end Followup

end SignedUpload.Uploader

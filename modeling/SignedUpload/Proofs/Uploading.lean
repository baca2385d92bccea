import SignedUpload.Proofs.Invariant

/-! A file is uploading exactly while it is an open job of the batch under way. Every call is
answered once; the one answer that may be owed is that of the call whose batch is under way. -/
namespace SignedUpload.Uploader

def owed (u : Uploader) : Nat := if u.isUploading then 1 else 0

theorem owedNone {u : Uploader} (free : u.batch = none) : u.owed = 0 := by
  simp [owed,isUploading,free]

theorem owedSome {u : Uploader} {batch : Batch} (under : u.batch = some batch) : u.owed = 1 := by
  simp [owed,isUploading,under]

theorem advanceAnswers (u : Uploader) (origin : Origin) (t : Transfer) :
    answers (u.advance origin t).2 = [] ∨
      ∃ objects, answers (u.advance origin t).2 = [succeed origin objects] := by
  rcases advanceCases u origin t with ⟨-,finished⟩ | ⟨-,going⟩
  · rw [finished,reportEq]
    exact .inr ⟨_,rfl⟩
  · rw [going,answersLoads]
    exact .inl rfl

theorem callOwed {u v : Uploader} {e : Event} {effects : List Effect}
    (called : Called u e v effects) : 1 + u.owed = (answers effects).length + v.owed := by
  rcases called.batch with ⟨same,answer,one⟩ | ⟨free,silent,origin,request,begun⟩
  · have level : v.owed = u.owed := by
      unfold owed isUploading
      rw [same]
    rw [level,one]
    rfl
  · simp [owedNone free,owedSome begun,silent]

theorem Comes.owed {origin : Origin} {result : Result} (comes : Comes origin result) :
    1 = (answers result.2).length + result.1.owed := by
  cases comes with
  | reading jobs under => rw [answersLoads,owedSome under]; rfl
  | posting job request under => rw [owedSome under]; rfl
  | reported objects free => rw [owedNone free]; rfl
  | denied failure free => rw [owedNone free]; rfl

theorem answerOwed {u : Uploader} {e : Event} {result : Result} (answered : Answered u e result) :
    u.owed = (answers result.2).length + result.1.owed := by
  obtain ⟨origin,phase,under,comes⟩ := answerComes answered
  rw [owedSome under]
  exact comes.owed

theorem runOwed {u v : Uploader} {events : List Event} {effects : List Effect} (sound : Sound u)
    (run : u.run? events = some (v,effects)) :
    events.countP Event.isCall + u.owed = (answers effects).length + v.owed := by
  induction events generalizing u effects with
  | nil =>
    obtain ⟨rfl,rfl⟩ := runNil.mp run
    rfl
  | cons e rest ih =>
    obtain ⟨w,said,more,next,later,rfl⟩ := runCons.mp run
    have after := ih (stepSound sound next) later
    rw [answersAppend,List.length_append]
    cases call : e.isCall with
    | true =>
      have one := callOwed (sound.called call next)
      rw [List.countP_cons_of_pos call]
      omega
    | false =>
      have level := answerOwed (answerCases call next)
      rw [List.countP_cons_of_neg (by simp [call])]
      simp only at level
      omega

theorem answeredOnce {u w : Uploader} {events : List Event} {effects : List Effect} (sound : Sound u)
    (busy : u.isUploading = true) (answer : ∀ e ∈ events, e.isCall = false)
    (finished : w.isUploading = false) (run : u.run? events = some (w,effects)) :
    (answers effects).length = 1 := by
  have counts := runOwed sound run
  have calls : events.countP Event.isCall = 0 :=
    List.countP_eq_zero.mpr fun e mem => by simp [answer e mem]
  have before : u.owed = 1 := by simp [owed,busy]
  have after : w.owed = 0 := by simp [owed,finished]
  omega

structure Consistent (events : List Event) (effects : List Effect) (u : Uploader) : Prop where
  owed : events.countP Event.isCall = (answers effects).length + u.owed
  uploading : ∀ f ∈ u.files, f.status = .uploading ↔ ∃ job ∈ u.openJobs, job.id = f.id
  present : ∀ job ∈ u.openJobs, ∃ f, u.file? job.id = some f ∧ Carries job f
  idle : u.isUploading = false → ∀ f ∈ u.files, f.status ≠ .uploading
  -- What takes the batch returns at once, or with the answer that ends the batch.
  returned : ∀ {e v said}, u.step? e = some (v,said) → answers said ≠ [] →
    u.isUploading = false ∨ e.isCall = false → ∀ f ∈ v.files, f.status ≠ .uploading
  refused : u.isUploading = true → u.step? .start = some (u,[.answer (.failed .batchInProgress)])
  dispatched : ∀ {origin request waiting issuer supply jobs sent},
    u.batch = some ⟨origin,.awaitingPolicy request waiting⟩ →
    dispatch issuer supply 0 u.files waiting = some (jobs,sent) →
    jobs.map (·.id) = waiting.filter fun id => (u.file? id).isSome
  moves : ∀ {origin t flight}, u.batch = some ⟨origin,.transferring t⟩ → flight ∈ t.flights →
    ∀ outcome, ∃ f, u.file? flight.job.id = some f ∧
      f.moveTo (statusOf outcome) = .ok { f with status := statusOf outcome }

theorem Sound.present {u : Uploader} (sound : Sound u) {job : Job} (pending : job ∈ u.openJobs) :
    ∃ f, u.file? job.id = some f ∧ Carries job f := by
  unfold openJobs at pending
  split at pending
  · rename_i origin t under
    obtain ⟨f,mem,carries⟩ := (sound.runs under).1.sent job pending
    exact ⟨f,(foundIff sound.distinct).mpr ⟨mem,carries.id⟩,carries⟩
  · exact absurd pending (by simp)

theorem Sound.idle {u : Uploader} (sound : Sound u) (idle : u.isUploading = false) :
    ∀ f ∈ u.files, f.status ≠ .uploading :=
  sound.unsent (openJobsNone (idleIff.mp idle))

theorem startRefused {u : Uploader} (busy : u.isUploading = true) :
    u.step? .start = some (u,[.answer (.failed .batchInProgress)]) := by
  simp [step?,begin,busy,failEq,takeBack]

theorem answeredIdle {u v : Uploader} {e : Event} {said : List Effect} (sound : Sound u)
    (step : u.step? e = some (v,said)) (told : answers said ≠ [])
    (ends : u.isUploading = false ∨ e.isCall = false) : v.isUploading = false := by
  have positive : 0 < (answers said).length := List.length_pos_iff.mpr told
  have unowed : v.owed = 0 := by
    cases call : e.isCall with
    | true =>
      have idle : u.isUploading = false := by simpa [call] using ends
      have free : u.owed = 0 := by simp [owed,idle]
      have one := callOwed (sound.called call step)
      omega
    | false =>
      have atMost : u.owed ≤ 1 := by unfold owed; split <;> omega
      have level := answerOwed (answerCases call step)
      simp only at level
      omega
  simpa [owed] using unowed

theorem uploadingIsOpen {config : Config} {start u : Uploader} {events : List Event}
    {effects : List Effect} (ready : render config = .ok start)
    (run : start.run? events = some (u,effects)) : Consistent events effects u := by
  have sound := reachableSound ((Reachable.rendered ready).run run)
  refine ⟨?_,?_,?_,sound.idle,?_,?_,?_,?_⟩
  · have counts := runOwed (renderedSound ready) run
    obtain ⟨kind,rfl⟩ := renderedFresh ready
    exact counts
  · intro f mem
    constructor
    · exact sound.closed f mem
    · rintro ⟨job,pending,same⟩
      obtain ⟨g,found,carries⟩ := sound.present pending
      have here := (foundIff sound.distinct).mp found
      rw [sameFile sound.distinct mem here.1 (same.symm.trans here.2.symm)]
      exact carries.status
  · exact fun job pending => sound.present pending
  · intro e v said step told ends
    exact (stepSound sound step).idle (answeredIdle sound step told ends)
  · exact startRefused
  · intro origin request waiting issuer supply jobs sent awaiting given
    have waits := sound.waits awaiting
    exact (dispatchExact sound.distinct waits.once waits.still given).ids
  · intro origin t flight under flies outcome
    have pending : flight.job ∈ u.openJobs := by
      rw [openJobsUnder under]
      exact List.mem_append_right _ (List.mem_map.mpr ⟨flight,flies,rfl⟩)
    obtain ⟨f,found,carries⟩ := sound.present pending
    exact ⟨f,found,uploadingMoves carries.status (statusFinal outcome)⟩

theorem sendingConsistent : render (sampleConfig true) = .ok (sample true) ∧
    (sample true).run? sending =
      some (((sample true).after sending).1,((sample true).after sending).2) ∧
    Consistent sending ((sample true).after sending).2 ((sample true).after sending).1 :=
  ⟨sampleRendered true,sendingRuns,uploadingIsOpen (sampleRendered true) sendingRuns⟩

theorem refusedStartLeavesUploading :
    ¬ ∀ {u v : Uploader} {said : List Effect}, Reachable u → u.step? .start = some (v,said) →
      answers said ≠ [] → ∀ f ∈ v.files, f.status ≠ .uploading := by
  intro settles
  have reachable := (Reachable.rendered (sampleRendered true)).run sendingRuns
  have sends : ((sample true).after sending).1.isUploading = true ∧
      ¬ ∀ f ∈ ((sample true).after sending).1.files, f.status ≠ .uploading := by
    decide +kernel
  exact sends.2 (settles reachable (startRefused sends.1) (by simp [answers]))

end SignedUpload.Uploader

import SignedUpload.Proofs.Stages

/-! What an id stands for. An id is given to one file and never again, and over a whole run the file is
dispatched and posted at most once; a failed file is retried under another id. -/
namespace SignedUpload.Uploader

theorem replaceAt {files : List PendingFile} (distinct : Distinct files) {i : Nat} {f : PendingFile}
    (here : files[i]? = some f) (file : PendingFile) : replace files f.id file = files.set i file := by
  obtain ⟨inside,rfl⟩ := List.getElem?_eq_some_iff.mp here
  refine List.ext_getElem (by simp [replace]) fun j left right => ?_
  have bound : j < files.length := by simpa [replace] using left
  rw [List.getElem_set]
  simp only [replace,List.getElem_map]
  by_cases same : i = j
  · subst j
    rw [if_pos rfl,if_pos rfl]
  · rw [if_neg same,if_neg]
    intro eq
    have first : i < (files.map (·.id)).length := by simpa using inside
    have second : j < (files.map (·.id)).length := by simpa using bound
    have ids : (files.map (·.id))[j] = (files.map (·.id))[i] := by simpa using eq
    exact same ((List.Nodup.getElem_inj_iff distinct).mp ids).symm

theorem retryFailed {u : Uploader} (distinct : Distinct u.files) {i : Nat} {f : PendingFile}
    (here : u.files[i]? = some f) (failed : f.status = .failed) :
    u.step? (.retry f.id) = some
      ({ u with
          lastId := u.lastId + 1
          files := u.files.set i
            ⟨u.lastId + 1,f.path,f.name,f.size,f.contentType,.waiting,none⟩ },
        [.answer (.renewed (u.lastId + 1))]) := by
  have found : u.file? f.id = some f :=
    (foundIff distinct).mpr ⟨List.mem_of_getElem? here,rfl⟩
  have found' : ({ u with lastId := u.lastId + 1 } : Uploader).file? f.id = some f := found
  simp only [step?,retry,found',failed,if_true,replaceAt distinct here]
  rfl

structure Identified (u : Uploader) (events : List Event) (effects : List Effect) (w : Uploader) :
    Prop where
  distinct : Distinct w.files
  given : ∀ f ∈ w.files, f.id ≤ w.lastId
  -- an id that was given out names the file that it named before, or no file
  same : ∀ g ∈ w.files, g.id ≤ u.lastId → ∃ f ∈ u.files, f.id = g.id
  traced : ∀ f ∈ u.files, ∀ g ∈ w.files, g.id = f.id → Traced f g
  fresh : ∀ g ∈ w.files, u.lastId < g.id → Moves .waiting g.status
  dispatched : ((u.dispatches events).map (·.id)).Nodup
  read : ((loads effects).map (·.id)).Nodup
  posted : ((posts effects).map (·.1.id)).Nodup
  settled : ∀ f ∈ u.files, Final f.status →
    f.id ∉ (u.dispatches events).map (·.id) ∧ f.id ∉ (posts effects).map (·.1.id)
  renewed : ∀ {i f}, w.files[i]? = some f → f.status = .failed →
    w.step? (.retry f.id) = some
      ({ w with
          lastId := w.lastId + 1
          files := w.files.set i
            ⟨w.lastId + 1,f.path,f.name,f.size,f.contentType,.waiting,none⟩ },
        [.answer (.renewed (w.lastId + 1))])

theorem Sound.finalSent {u : Uploader} (sound : Sound u) {f : PendingFile} (mem : f ∈ u.files)
    (final : Final f.status) : ¬ u.Unsent f.id := by
  have openJob : ∀ {origin t job}, u.batch = some ⟨origin,.transferring t⟩ → job ∈ pendingJobs t →
      job.id ≠ f.id := by
    intro origin t job under here same
    obtain ⟨g,listed,carries⟩ := (sound.runs under).1.sent job here
    rw [sameFile sound.distinct mem listed (same.symm.trans carries.id.symm),Final,
      carries.status] at final
    simp at final
  rintro (waits | ⟨origin,t,under,job,queued,same⟩ | ⟨origin,t,under,job,flies,same⟩)
  · obtain ⟨g,listed,still,same⟩ := waitingIff.mp waits
    rw [sameFile sound.distinct mem listed same.symm,Final,still] at final
    simp at final
  · exact openJob under (List.mem_append_left _ queued) same
  · exact openJob under (flightPending flies) same

theorem idsOnce {u w : Uploader} {events : List Event} {effects : List Effect}
    (reachable : Reachable u) (run : u.run? events = some (w,effects)) :
    Identified u events effects w := by
  have sound := reachableSound reachable
  have sound' := runSound sound run
  have once := runOnce sound run
  have posted : ((posts effects).map (·.1)).map (·.id) = (posts effects).map (·.1.id) :=
    List.map_map
  have spent : ∀ {ahead : Uploader → FileId → Prop} {f ids}, Spends ahead u w ids → f ∈ u.files →
      ¬ ahead u f.id → f.id ∉ ids := by
    intro ahead f ids spends mem behind again
    rcases (spends.before f.id again).1 with still | above
    · exact behind still
    · exact absurd (sound.bound f mem) (Nat.not_le_of_lt above)
  have since : ∀ g ∈ w.files, g.id ≤ u.lastId → ∃ f ∈ u.files, Traced f g := by
    intro g mem old
    exact (runTraced sound run mem).resolve_right fun new => absurd old (Nat.not_le_of_lt new.1)
  refine ⟨sound'.distinct,sound'.bound,?_,?_,?_,once.made.once,once.loaded.once,
    posted ▸ once.posted.once,?_,retryFailed sound'.distinct⟩
  · intro g mem old
    obtain ⟨f,before,traced⟩ := since g mem old
    exact ⟨f,before,traced.id.symm⟩
  · intro f old g mem same
    obtain ⟨f',old',traced⟩ := since g mem (same ▸ sound.bound f old)
    rwa [sameFile sound.distinct old old' (same.symm.trans traced.id)]
  · intro g mem new
    rcases runTraced sound run mem with ⟨f,old,traced⟩ | ⟨-,moves⟩
    · exact absurd (traced.id ▸ sound.bound f old) (Nat.not_le_of_lt new)
    · exact moves
  · intro f mem final
    have sent := sound.finalSent mem final
    exact ⟨spent once.made mem fun waits => sent (.inl waits),posted ▸ spent once.posted mem sent⟩

def retried : List Event := sending ++
  [.fileRead 0 (.ok []),.postAnswered 0 (.whole 200 []),.fileRead 1 (.ok []),
    .postAnswered 1 (.whole 500 []),.retry 2,.start,sampleAccepted,.fileRead 0 (.ok [])]

theorem retriedIdentified : Reachable (sample true) ∧
    (sample true).run? retried =
      some (((sample true).after retried).1,((sample true).after retried).2) ∧
    Identified (sample true) retried ((sample true).after retried).2 ((sample true).after retried).1 ∧
    (posts ((sample true).after retried).2).map (·.1.id) = [1,2,3] :=
  have ran := runAfter (by decide +kernel)
  ⟨.rendered (sampleRendered true),ran,idsOnce (.rendered (sampleRendered true)) ran,
    by decide +kernel⟩

end SignedUpload.Uploader

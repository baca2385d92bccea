import SignedUpload.Proofs.Invariant
import Mathlib.Data.List.Induction
import Mathlib.Logic.Relation

/-! What becomes of a listed file. It keeps its id, path, name, size and type, and its status moves on
by stages; what is new in the list waits under an id of its own. -/
namespace SignedUpload.Uploader

structure Onward (f g : PendingFile) : Prop where
  id : g.id = f.id
  path : g.path = f.path
  name : g.name = f.name
  size : g.size = f.size
  contentType : g.contentType = f.contentType
  status : g.status = f.status ∨ f.status.canMoveTo g.status = true

theorem Onward.refl (f : PendingFile) : Onward f f := ⟨rfl,rfl,rfl,rfl,rfl,.inl rfl⟩

theorem onwardStamp {jobs : List Job} {f : PendingFile}
    (waits : ∀ job ∈ jobs, job.id = f.id → f.status = .waiting) : Onward f (stamp jobs f) := by
  unfold stamp
  split
  · rename_i job found
    have named : job.id = f.id := by simpa using List.find?_some found
    have before := waits job (List.mem_of_find?_eq_some found) named
    exact ⟨rfl,rfl,rfl,rfl,rfl,.inr (by rw [before]; rfl)⟩
  · exact .refl f

theorem onwardMark {id : FileId} {status : FileStatus} (final : Final status) {f : PendingFile}
    (sent : f.id = id → f.status = .uploading) : Onward f (mark id status f) := by
  unfold mark
  split
  · rename_i same
    refine ⟨rfl,rfl,rfl,rfl,rfl,.inr ?_⟩
    rcases final with rfl | rfl <;> rw [sent same] <;> rfl
  · exact .refl f

theorem advanceFiles (u : Uploader) (origin : Origin) (t : Transfer) :
    (u.advance origin t).1.files.Sublist u.files := by
  rcases advanceCases u origin t with ⟨-,finished⟩ | ⟨-,going⟩
  · rw [finished,reportEq]
    exact u.settledFiles
  · rw [going]
    exact List.Sublist.refl _

theorem resolveOnward {u : Uploader} (sound : Sound u) {origin : Origin} {t : Transfer} {job : Job}
    {stage : Stage} (under : u.batch = some ⟨origin,.transferring t⟩) (flies : ⟨job,stage⟩ ∈ t.flights)
    (outcome : Except UploadError Unit) {g : PendingFile}
    (mem : g ∈ (u.resolve origin t job outcome).1.files) : ∃ f ∈ u.files, Onward f g := by
  obtain ⟨⟨file,listed,carries,marked⟩,-⟩ :=
    closeRuns sound.distinct (sound.runs under).1 u.config flies outcome
  rw [resolveEq] at mem
  have here := (advanceFiles _ _ _).subset mem
  simp only [marked] at here
  obtain ⟨f,old,rfl⟩ := List.mem_map.mp here
  refine ⟨f,old,onwardMark (statusFinal outcome) fun same => ?_⟩
  rw [sameFile sound.distinct old listed (same.trans carries.id.symm)]
  exact carries.status

theorem answerOnward {u : Uploader} {e : Event} {result : Result} (sound : Sound u)
    (answered : Answered u e result) {g : PendingFile} (mem : g ∈ result.1.files) :
    ∃ f ∈ u.files, Onward f g := by
  cases answered with
  | denied awaiting denied =>
    rw [policyFailedEq] at mem
    exact ⟨g,(takeBackFiles { u with batch := none } _).subset mem,.refl g⟩
  | @granted _ _ waiting _ _ _ _ jobs sent awaiting granted given =>
    have waits := sound.waits awaiting
    have d := dispatchExact sound.distinct waits.once waits.still given
    have here := (advanceFiles _ _ _).subset mem
    simp only [d.sent] at here
    obtain ⟨f,old,rfl⟩ := List.mem_map.mp here
    exact ⟨f,old,onwardStamp fun job its same => waits.still f old (same ▸ d.subset its)⟩
  | unsent under flight broken =>
    exact resolveOnward sound under ((flightIff (sound.runs under).1.positions).mp flight).1 _ mem
  | posted under flight sent => exact ⟨g,mem,.refl g⟩
  | replied under flight =>
    exact resolveOnward sound under ((flightIff (sound.runs under).1.positions).mp flight).1 _ mem

theorem stepOnward {u v : Uploader} {e : Event} {said : List Effect} (sound : Sound u)
    (next : u.step? e = some (v,said)) {g : PendingFile} (mem : g ∈ v.files) :
    (∃ f ∈ u.files, Onward f g) ∨ u.lastId < g.id ∧ g.status = .waiting := by
  cases call : e.isCall with
  | true =>
    rcases (sound.called call next).new g mem with old | ⟨waits,-,above⟩
    · exact .inl ⟨g,old,.refl g⟩
    · exact .inr ⟨above,waits⟩
  | false => exact .inl (answerOnward sound (answerCases call next) mem)

def Moves : FileStatus → FileStatus → Prop :=
  Relation.ReflTransGen fun a b => a.canMoveTo b = true

structure Traced (f g : PendingFile) : Prop where
  id : g.id = f.id
  path : g.path = f.path
  name : g.name = f.name
  size : g.size = f.size
  contentType : g.contentType = f.contentType
  status : Moves f.status g.status

theorem Onward.moves {f g : PendingFile} (onward : Onward f g) : Moves f.status g.status := by
  rcases onward.status with same | moves
  · exact same ▸ .refl
  · exact .single moves

theorem Traced.refl (f : PendingFile) : Traced f f := ⟨rfl,rfl,rfl,rfl,rfl,.refl⟩

theorem Traced.step {f g h : PendingFile} (traced : Traced f g) (onward : Onward g h) : Traced f h :=
  ⟨onward.id.trans traced.id,onward.path.trans traced.path,onward.name.trans traced.name,
    onward.size.trans traced.size,onward.contentType.trans traced.contentType,
    traced.status.trans onward.moves⟩

theorem runTraced {u w : Uploader} {events : List Event} {effects : List Effect} (sound : Sound u)
    (run : u.run? events = some (w,effects)) {g : PendingFile} (mem : g ∈ w.files) :
    (∃ f ∈ u.files, Traced f g) ∨ u.lastId < g.id ∧ Moves .waiting g.status := by
  induction events using List.reverseRecOn generalizing w effects g with
  | nil =>
    obtain ⟨rfl,-⟩ := runNil.mp run
    exact .inl ⟨g,mem,.refl g⟩
  | append_singleton events e ih =>
    obtain ⟨v,before,said,earlier,next,-⟩ := runSnoc.mp run
    rcases stepOnward (runSound sound earlier) next mem with ⟨f,old,onward⟩ | ⟨above,waits⟩
    · rcases ih earlier old with ⟨first,older,traced⟩ | ⟨above,moves⟩
      · exact .inl ⟨first,older,traced.step onward⟩
      · exact .inr ⟨onward.id ▸ above,moves.trans onward.moves⟩
    · exact .inr ⟨Nat.lt_of_le_of_lt ((runLater sound earlier).last) above,waits ▸ .refl⟩

end SignedUpload.Uploader

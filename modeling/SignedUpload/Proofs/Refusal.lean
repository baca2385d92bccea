import SignedUpload.Proofs.Requests
import SignedUpload.Proofs.Snapshot

/-! A choice that fails. The list is as before and the same files can be chosen again, but of the last
selection only what the failed choice holds too is remembered. -/
namespace SignedUpload.Uploader

inductive FailedChoice (u : Uploader) (disk : Disk) (paths : List Path) (error : UploadError) :
    Uploader → Prop where
  | atOnce {w said} (step : u.step? (.choose disk paths) = some (w,said))
      (told : answers said = [.failed error]) : FailedChoice u disk paths error w
  | denied {v w said last reply now supply} (step : u.step? (.choose disk paths) = some (v,said))
      (pending : answers said = [])
      (answered : v.step? (.policyAnswered reply now supply) = some (w,last))
      (told : answers last = [.failed error]) : FailedChoice u disk paths error w

theorem advanceUnfailed {u : Uploader} {origin : Origin} {t : Transfer} {error : UploadError} :
    answers (u.advance origin t).2 ≠ [.failed error] := by
  intro told
  rcases advanceAnswers u origin t with silent | ⟨objects,one⟩
  · simp [silent] at told
  · rw [one] at told
    cases origin <;> cases told

inductive Cause (u : Uploader) : UploadError → Prop where
  | busy (running : u.isUploading = true) : Cause u .batchInProgress
  | denied (idle : u.isUploading = false) (failure : PolicyFailure) :
      Cause u (.policyFailed failure)

section Failed
variable {u v w : Uploader} {disk : Disk} {paths : List Path} {error : UploadError}
  {said last : List Effect}

def submitted (u : Uploader) (disk : Disk) (paths : List Path) (request : Http.Request) : Uploader :=
  { u.submit disk paths with
    batch := some ⟨.choice ((u.submission disk paths).map (·.id)),
      .awaitingPolicy request (waitingIds (u.submit disk paths).files)⟩ }

theorem submittedTakeBack (listed : Listed u) (free : u.batch = none) (request : Http.Request) :
    ({ u.submitted disk paths request with batch := none } : Uploader).takeBack
      (.choice ((u.submission disk paths).map (·.id))) = u.refused disk paths := by
  have same : ({ u.submitted disk paths request with batch := none } : Uploader) =
      u.submit disk paths := by
    rw [← free]
    rfl
  rw [same,submitTakeBack listed]

theorem busyCause (single : u.config.multiple = false) (new : u.unseen disk paths ≠ [])
    (running : u.isUploading = true) (step : u.step? (.choose disk paths) = some (w,said)) :
    answers said = [.failed .batchInProgress] := by
  have still : (u.submit disk paths).isUploading = true := running
  simp only [step?,chooseSingle u disk paths single,if_neg new,begin,still,if_true,failEq,
    Option.some.injEq,Prod.mk.injEq] at step
  rw [← step.2,answersAppend,answersNotices]
  rfl

theorem refusedAtOnceState (listed : Listed u) (single : u.config.multiple = false)
    (step : u.step? (.choose disk paths) = some (w,said)) (told : answers said = [.failed error]) :
    w = u.refused disk paths ∧ Cause u error := by
  have chosen := chooseCases listed disk paths
  rw [Option.some.inj step] at chosen
  cases chosen with
  | listed notices ids multiple => simp [single] at multiple
  | seen notices single nothing => simp [answers] at told
  | failed said quiet silent single new blocked =>
    refine ⟨rfl,?_⟩
    cases running : u.isUploading with
    | true =>
      rw [busyCause single new running step] at told
      cases told
      exact .busy running
    | false =>
      have free := idleIff.mp running
      obtain ⟨fault,unmade⟩ := blocked.resolve_left fun busy => busy free
      have fails := startsFails listed free (.choose single new) unmade step
      rw [fails.answered] at told
      cases told
      exact .denied running _
  | asked notices single free made new => simp [answers] at told

theorem deniedState (listed : Listed u) (single : u.config.multiple = false)
    (step : u.step? (.choose disk paths) = some (v,said)) (pending : answers said = [])
    {reply : Http.Reply} {now : Instant} {supply : Supply}
    (answered : v.step? (.policyAnswered reply now supply) = some (w,last))
    (told : answers last = [.failed error]) : w = u.refused disk paths ∧ Cause u error := by
  have chosen := chooseCases listed disk paths
  rw [Option.some.inj step] at chosen
  cases chosen with
  | listed notices ids multiple => simp [single] at multiple
  | seen notices single nothing => simp [answers] at pending
  | failed said quiet silent single new blocked => simp [answers] at pending
  | asked notices single free made new =>
    have comes := answerCases rfl answered
    generalize result : (w,last) = r at comes
    cases comes with
    | denied awaiting denied =>
      cases awaiting
      rw [policyFailedEq] at result
      cases result
      cases told
      exact ⟨submittedTakeBack listed free _,.denied (by simp [isUploading,free]) _⟩
    | granted awaiting granted given =>
      rw [show last = _ from congrArg Prod.snd result] at told
      exact absurd told advanceUnfailed

theorem FailedChoice.state (listed : Listed u) (single : u.config.multiple = false)
    (failed : FailedChoice u disk paths error w) : w = u.refused disk paths ∧ Cause u error := by
  cases failed with
  | atOnce step told => exact refusedAtOnceState listed single step told
  | denied step pending answered told => exact deniedState listed single step pending answered told

theorem refusedSnapshot (p : Path) :
    p ∈ (u.refused disk paths).snapshot ↔ p ∈ u.snapshot ∧ p ∈ u.pickedPaths disk paths := by
  simp [refused,and_comm]

theorem refusedUnseen : (u.refused disk paths).unseen disk paths = u.unseen disk paths := by
  have picked : (u.refused disk paths).picked disk paths = u.picked disk paths := rfl
  unfold unseen
  rw [picked]
  apply List.filter_congr
  intro c mem
  have same : c.path ∈ (u.refused disk paths).snapshot ↔ c.path ∈ u.snapshot := by
    rw [refusedSnapshot]
    exact and_iff_left (List.mem_map.mpr ⟨c,mem,rfl⟩)
  simp [same]

end Failed

structure RolledBack (u : Uploader) (disk : Disk) (paths : List Path) (w : Uploader) : Prop where
  files : w.files = u.files
  snapshot : ∀ p, p ∈ w.snapshot ↔ p ∈ u.snapshot ∧ p ∈ u.pickedPaths disk paths
  whole : (∀ p, p ∈ w.snapshot ↔ p ∈ u.snapshot) ↔ ∀ p ∈ u.snapshot, p ∈ u.pickedPaths disk paths
  again : w.unseen disk paths = u.unseen disk paths
  -- of the next selection all is sent but what the last one and the failed one both held
  next : ∀ disk' paths' p, p ∈ (w.submission disk' paths').map (·.path) ↔
    p ∈ u.pickedPaths disk' paths' ∧ ¬ (p ∈ u.snapshot ∧ p ∈ u.pickedPaths disk paths)

theorem failedChoiceKeeps {u w : Uploader} {disk : Disk} {paths : List Path} {error : UploadError}
    (reachable : Reachable u) (single : u.config.multiple = false)
    (failed : FailedChoice u disk paths error w) : Cause u error ∧ RolledBack u disk paths w := by
  obtain ⟨rfl,cause⟩ := failed.state (reachableSound reachable).toListed single
  refine ⟨cause,rfl,refusedSnapshot,?_,refusedUnseen,?_⟩
  · constructor
    · exact fun same p mem => ((refusedSnapshot p).mp ((same p).mpr mem)).2
    · intro held p
      rw [refusedSnapshot]
      exact and_iff_left_of_imp (held p)
  · intro disk' paths' p
    rw [submissionPath,refusedSnapshot]
    rfl

-- A file is on its way, and then stored, when another one is chosen in vain.
theorem loadingReachable : Reachable loadingOne := by
  have accepted : chosenOne.step? sampleAccepted = some (loadingOne,[.loadFile onlyJob]) := by
    decide +kernel
  exact .step (.step (.rendered (sampleRendered false)) (stepNext (by decide +kernel))) accepted

def refusedOther : Result := loadingOne.next (.choose sampleDisk [[98]])

theorem loadingKeeps : Reachable loadingOne ∧ loadingOne.config.multiple = false ∧
    FailedChoice loadingOne sampleDisk [[98]] .batchInProgress refusedOther.1 ∧
    Cause loadingOne .batchInProgress ∧
    RolledBack loadingOne sampleDisk [[98]] refusedOther.1 := by
  have failed : FailedChoice loadingOne sampleDisk [[98]] .batchInProgress refusedOther.1 :=
    .atOnce (stepNext (by decide +kernel)) (by decide +kernel)
  exact ⟨loadingReachable,rfl,failed,failedChoiceKeeps loadingReachable rfl failed⟩

theorem storedReachable : Reachable storedOne :=
  .step (.step loadingReachable (stepNext (by decide +kernel))) (stepNext (by decide +kernel))

theorem deniedChoiceForgetsStored : ¬ ∀ {u w : Uploader} {disk : Disk} {paths : List Path}
    {error : UploadError}, Reachable u → u.config.multiple = false →
      FailedChoice u disk paths error w →
        w.files = u.files ∧ ∀ p, p ∈ w.snapshot ↔ p ∈ u.snapshot := by
  intro always
  have choice := stepNext (u := storedOne) (e := .choose sampleDisk [[98]]) (by decide +kernel)
  have answer := stepNext (u := (storedOne.next (.choose sampleDisk [[98]])).1)
    (e := .policyAnswered .broken ⟨0,0⟩ sampleSupply) (by decide +kernel)
  have same := (always storedReachable (by decide +kernel)
    (.denied choice (by decide +kernel) answer rfl)).2 [97]
  revert same
  decide +kernel

end SignedUpload.Uploader

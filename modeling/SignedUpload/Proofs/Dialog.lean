import SignedUpload.Proofs.Snapshot
import SignedUpload.Proofs.Uploading

/-! The dialog and the list that it shows. In multiple mode a closed dialog has an empty list behind
it, since files come to the list only with a choice, and a choice opens the dialog. In single mode
the list is empty between batches. So a close that finds the dialog closed has nothing to drop. -/
namespace SignedUpload.Uploader

def shut (u v : Uploader) : Nat := if u.dialogOpen = true ∧ v.dialogOpen = false then 1 else 0

def shuts (u : Uploader) : List Event → Nat
  | [] => 0
  | e :: rest => match u.step? e with
    | none => 0
    | some (v,_) => u.shut v + shuts v rest

/-- What a step does to the dialog: a close tells of itself, and behind a closed dialog nothing
comes to the list of multiple mode. -/
structure Shown (u v : Uploader) (said : List Effect) : Prop where
  told : closings said = u.shut v
  empty : u.config.multiple = true → v.dialogOpen = false → u.dialogOpen = true ∨ u.files = [] →
    v.files = []

structure Unmoved (u v : Uploader) (said : List Effect) : Prop where
  dialog : v.dialogOpen = u.dialogOpen
  silent : closings said = 0
  empty : u.config.multiple = true → u.files = [] → v.files = []

theorem Unmoved.shown {u v : Uploader} {said : List Effect} (unmoved : Unmoved u v said) :
    Shown u v said where
  told := by simp [unmoved.silent,shut,unmoved.dialog]
  empty := by
    intro multiple closed before
    have hidden : u.dialogOpen = false := unmoved.dialog ▸ closed
    exact unmoved.empty multiple (before.resolve_left (by simp [hidden]))

theorem Unmoved.trans {u v w : Uploader} {said more : List Effect} (first : Unmoved u v said)
    (config : v.config = u.config) (second : Unmoved v w more) : Unmoved u w (said ++ more) where
  dialog := second.dialog.trans first.dialog
  silent := by rw [closingsAppend,first.silent,second.silent]
  empty := fun multiple before => second.empty (config ▸ multiple) (first.empty multiple before)

theorem Stays.shown {u v : Uploader} {said : List Effect} (stays : Stays u v)
    (silent : closings said = 0) : Shown u v said where
  told := by
    rw [silent,shut,if_neg]
    rintro ⟨shown,hidden⟩
    rcases stays.dialog with opened | same
    · simp [hidden] at opened
    · simp [same,shown] at hidden
  empty := by
    intro multiple hidden before
    have closed : u.dialogOpen = false := by
      rcases stays.dialog with opened | same
      · simp [hidden] at opened
      · rw [← same,hidden]
    exact stays.empty multiple hidden (before.resolve_left (by simp [closed]))

theorem callShown {u v : Uploader} {e : Event} {said : List Effect} (call : e.isCall = true)
    (step : u.step? e = some (v,said)) : Shown u v said := by
  have spoke := callSpeaks call step
  cases spoke with
  | hid shown hidden empty same =>
    exact ⟨by simp [closings,shut,shown,hidden],fun _ _ _ => empty⟩
  | told messages plain same stays =>
    exact stays.shown (by rw [closingsAppend,closingsNotices]; rfl)
  | denied messages failure free same stays =>
    exact stays.shown (by rw [closingsAppend,closingsNotices]; rfl)
  | asked messages free made begins awaits stays =>
    exact stays.shown (by rw [closingsAppend,closingsNotices]; rfl)

theorem deniedUnmoved (u : Uploader) (origin : Origin) (failure : PolicyFailure) :
    Unmoved u (u.policyFailed origin failure).1 (u.policyFailed origin failure).2 := by
  rw [policyFailedEq]
  refine ⟨by cases origin <;> rfl,rfl,fun _ empty => ?_⟩
  have files := takeBackFiles { u with batch := none } origin
  exact List.sublist_nil.mp (empty ▸ files)

theorem settledUnmoved (u : Uploader) : Unmoved u u.settled [] where
  dialog := by
    simp only [settled]
    split <;> rfl
  silent := rfl
  empty := fun _ before => List.sublist_nil.mp (before ▸ u.settledFiles)

theorem advanceUnmoved (u : Uploader) (origin : Origin) (t : Transfer) :
    Unmoved u (u.advance origin t).1 (u.advance origin t).2 := by
  rcases advanceCases u origin t with ⟨-,finished⟩ | ⟨-,going⟩
  · rw [finished,reportEq]
    exact ⟨u.settledUnmoved.dialog,rfl,u.settledUnmoved.empty⟩
  · rw [going]
    exact ⟨rfl,closingsLoads _,fun _ before => before⟩

theorem markNone (id : FileId) (status : FileStatus) : markResolved [] id status = [] := rfl

theorem resolveUnmoved (u : Uploader) (origin : Origin) (t : Transfer) (job : Job)
    (outcome : Except UploadError Unit) :
    Unmoved u (u.resolve origin t job outcome).1 (u.resolve origin t job outcome).2 := by
  rw [resolveEq]
  have marked : Unmoved u
      { u with files := markResolved u.files job.id (statusOf outcome) } [] :=
    ⟨rfl,rfl,fun _ before => by rw [before,markNone]⟩
  exact marked.trans rfl (advanceUnmoved _ _ _)

theorem answerUnmoved {u : Uploader} {e : Event} {result : Result} (sound : Sound u)
    (answered : Answered u e result) : Unmoved u result.1 result.2 := by
  cases answered with
  | denied awaiting denied => exact deniedUnmoved u _ _
  | @granted _ _ _ _ _ _ _ _ sent awaiting granted given =>
    have waits := sound.waits awaiting
    have d := dispatchExact sound.distinct waits.once waits.still given
    have stamped : Unmoved u { u with files := sent } [] :=
      ⟨rfl,rfl,fun _ before => by rw [d.sent,before,List.map_nil]⟩
    exact stamped.trans rfl (advanceUnmoved _ _ _)
  | unsent under flight broken => exact resolveUnmoved u _ _ _ _
  | posted under flight sent => exact ⟨rfl,rfl,fun _ before => before⟩
  | replied under flight => exact resolveUnmoved u _ _ _ _

theorem stepShown {u v : Uploader} {e : Event} {said : List Effect} (sound : Sound u)
    (step : u.step? e = some (v,said)) : Shown u v said := by
  cases call : e.isCall with
  | true => exact callShown call step
  | false => exact (answerUnmoved sound (answerCases call step)).shown

theorem runCloses {u v : Uploader} {events : List Event} {effects : List Effect} (sound : Sound u)
    (run : u.run? events = some (v,effects)) : closings effects = u.shuts events := by
  induction events generalizing u effects with
  | nil =>
    obtain ⟨-,rfl⟩ := runNil.mp run
    rfl
  | cons e rest ih =>
    obtain ⟨w,said,more,next,later,rfl⟩ := runCons.mp run
    rw [closingsAppend,(stepShown sound next).told,ih (stepSound sound next) later]
    simp only [shuts,next]

theorem hiddenEmpty {u : Uploader} (reachable : Reachable u) (multiple : u.config.multiple = true)
    (closed : u.dialogOpen = false) : u.files = [] := by
  induction reachable with
  | rendered ready =>
    obtain ⟨kind,rfl⟩ := renderedFresh ready
    rfl
  | @step u v e said earlier next ih =>
    have sound := reachableSound earlier
    have multiple' : u.config.multiple = true := (stepLater sound next).config ▸ multiple
    refine (stepShown sound next).empty multiple' closed ?_
    cases shown : u.dialogOpen with
    | true => exact .inl rfl
    | false => exact .inr (ih multiple' shown)

theorem singleEmpty {u : Uploader} (reachable : Reachable u) (single : u.config.multiple = false)
    (idle : u.isUploading = false) : u.files = [] := by
  obtain ⟨stored,lost,history⟩ := reachable.history
  exact (historyRemembered history single).2.idle (idleIff.mp idle)

theorem closeRefused {u : Uploader} (busy : u.isUploading = true) :
    u.step? .closeDialog = some (u,[.answer (.failed .batchInProgress)]) := by
  simp [step?,closeDialog,busy,answered]

theorem closeDone {u : Uploader} (reachable : Reachable u) (idle : u.isUploading = false) :
    ∃ v said, u.step? .closeDialog = some (v,said) ∧ answers said = [.done] ∧
      v.dialogOpen = false ∧ v.files = [] := by
  have closed := closeCases u
  refine ⟨u.closeDialog.1,u.closeDialog.2,rfl,?_⟩
  generalize u.closeDialog = result at closed
  cases closed with
  | busy running => simp [idle] at running
  | cleared free shown => exact ⟨rfl,rfl,rfl⟩
  | already free shown =>
    refine ⟨rfl,shown,?_⟩
    cases mode : u.config.multiple with
    | true => exact hiddenEmpty reachable mode shown
    | false => exact singleEmpty reachable mode idle

structure DialogKept (start : Uploader) (events : List Event) (effects : List Effect)
    (u : Uploader) : Prop where
  hidden : u.config.multiple = true → u.dialogOpen = false → u.files = []
  -- No call waits for its answer; and only choices and starts ever do.
  settled : u.config.multiple = false → events.countP Event.isCall = (answers effects).length →
    u.files = []
  waiting : ∀ {e v said}, u.step? e = some (v,said) → e.isCall = true → answers said = [] →
    e = .start ∨ ∃ disk paths, e = .choose disk paths
  closed : ∀ {v said}, u.step? .closeDialog = some (v,said) → .done ∈ answers said →
    v.dialogOpen = false ∧ v.files = []
  refused : (∃ v said error, u.step? .closeDialog = some (v,said) ∧
    .failed error ∈ answers said) ↔ u.isUploading = true
  unchanged : ∀ {v said error}, u.step? .closeDialog = some (v,said) →
    .failed error ∈ answers said → v = u ∧ said = [.answer (.failed .batchInProgress)]
  counted : closings effects = start.shuts events

theorem dialogKept {config : Config} {start u : Uploader} {events : List Event}
    {effects : List Effect} (ready : render config = .ok start)
    (run : start.run? events = some (u,effects)) : DialogKept start events effects u := by
  have reachable := (Reachable.rendered ready).run run
  have idleDone : u.isUploading = false → ∀ {v said error}, u.step? .closeDialog = some (v,said) →
      .failed error ∉ answers said := by
    intro idle v said error step told
    obtain ⟨v',said',step',one,-⟩ := closeDone reachable idle
    cases step.symm.trans step'
    simp [one] at told
  refine ⟨hiddenEmpty reachable,?_,fun step call => (callSpeaks call step).later,?_,?_,?_,
    runCloses (renderedSound ready) run⟩
  · intro single level
    have counts := runOwed (renderedSound ready) run
    have before : start.owed = 0 := by
      obtain ⟨kind,rfl⟩ := renderedFresh ready
      rfl
    have after : u.owed = 0 := by omega
    exact singleEmpty reachable single (by simpa [owed] using after)
  · intro v said step told
    cases idle : u.isUploading with
    | true =>
      cases step.symm.trans (closeRefused idle)
      simp [answers] at told
    | false =>
      obtain ⟨v',said',step',-,closed,empty⟩ := closeDone reachable idle
      cases step.symm.trans step'
      exact ⟨closed,empty⟩
  · constructor
    · rintro ⟨v,said,error,step,told⟩
      by_contra idle
      exact idleDone (by simpa using idle) step told
    · intro busy
      exact ⟨_,_,.batchInProgress,closeRefused busy,by simp [answers]⟩
  · intro v said error step told
    cases idle : u.isUploading with
    | true =>
      cases step.symm.trans (closeRefused idle)
      exact ⟨rfl,rfl⟩
    | false => exact absurd told (idleDone idle step)

def closingTwice : List Event :=
  [.choose sampleDisk [[97],[98]],.closeDialog,.closeDialog,.openDialog,.closeDialog]

theorem closingTwiceKept : render (sampleConfig true) = .ok (sample true) ∧
    (sample true).run? closingTwice =
      some (((sample true).after closingTwice).1,((sample true).after closingTwice).2) ∧
    DialogKept (sample true) closingTwice ((sample true).after closingTwice).2
      ((sample true).after closingTwice).1 := by
  have run : (sample true).run? closingTwice =
      some (((sample true).after closingTwice).1,((sample true).after closingTwice).2) :=
    runAfter (by decide +kernel)
  exact ⟨sampleRendered true,run,dialogKept (sampleRendered true) run⟩

end SignedUpload.Uploader

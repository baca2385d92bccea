import SignedUpload.Proofs.Refusal
import SignedUpload.Proofs.Stages

/-! Calls that fail. Whatever but a choice is refused, or gets no policy, leaves the uploader as it was;
only the id that a renewal took is used up, and no later upload depends on it. -/
namespace SignedUpload.Uploader

def numbered (u : Uploader) (last : FileId) : Uploader := { u with lastId := last }

def Event.allots : Event → Bool
  | .choose .. => true
  | .retry _ => true
  | _ => false

section Numbered
variable (u : Uploader) (last : FileId)

theorem failNumbered (origin : Origin) (error : UploadError) :
    (u.numbered last).fail origin error =
      ((u.fail origin error).1.numbered last,(u.fail origin error).2) := by
  cases origin <;> rfl

theorem beginNumbered (origin : Origin) : (u.numbered last).begin origin =
    ((u.begin origin).1.numbered last,(u.begin origin).2) := by
  have busy : (u.numbered last).isUploading = u.isUploading := rfl
  have files : (u.numbered last).files = u.files := rfl
  have config : (u.numbered last).config = u.config := rfl
  unfold begin
  rw [busy,files,config]
  split
  · exact failNumbered u last origin _
  · split
    · simp only [failNumbered]
    · simp only
      split
      · rfl
      · split
        · simp only [policyFailed]
          exact congrArg (fun r : Result => (r.1,_ :: r.2))
            (failNumbered { u with batch := none } last _ _)
        · rfl

theorem closeNumbered : (u.numbered last).closeDialog =
    (u.closeDialog.1.numbered last,u.closeDialog.2) := by
  have busy : (u.numbered last).isUploading = u.isUploading := rfl
  have shown : (u.numbered last).dialogOpen = u.dialogOpen := rfl
  unfold closeDialog
  rw [busy,shown]
  split
  · rfl
  · split <;> rfl

theorem removeNumbered (id : FileId) : (u.numbered last).remove id =
    ((u.remove id).1.numbered last,(u.remove id).2) := by
  have found : (u.numbered last).file? id = u.file? id := rfl
  unfold remove
  rw [found]
  cases u.file? id with
  | none => rfl
  | some file =>
    simp only
    split <;> rfl

theorem settledNumbered : (u.numbered last).settled = u.settled.numbered last := by
  have config : (u.numbered last).config = u.config := rfl
  simp only [settled,config]
  split <;> rfl

theorem advanceNumbered (origin : Origin) (t : Transfer) : (u.numbered last).advance origin t =
    ((u.advance origin t).1.numbered last,(u.advance origin t).2) := by
  rcases advanceCases u origin t with ⟨empty,finished⟩ | ⟨nonempty,going⟩
  · rcases advanceCases (u.numbered last) origin t with ⟨-,finished'⟩ | ⟨nonempty,-⟩
    · rw [finished,finished',reportEq,reportEq,settledNumbered]
    · exact absurd empty nonempty
  · rcases advanceCases (u.numbered last) origin t with ⟨empty,-⟩ | ⟨-,going'⟩
    · exact absurd empty nonempty
    · rw [going,going']
      rfl

theorem resolveNumbered (origin : Origin) (t : Transfer) (job : Job)
    (outcome : Except UploadError Unit) : (u.numbered last).resolve origin t job outcome =
      ((u.resolve origin t job outcome).1.numbered last,(u.resolve origin t job outcome).2) := by
  rw [resolveEq,resolveEq]
  exact advanceNumbered { u with files := markResolved u.files job.id (statusOf outcome) } last origin _

theorem stepNumbered {e : Event} (plain : e.allots = false) : (u.numbered last).step? e =
    (u.step? e).map fun r => (r.1.numbered last,r.2) := by
  have batch : (u.numbered last).batch = u.batch := rfl
  have files : (u.numbered last).files = u.files := rfl
  have config : (u.numbered last).config = u.config := rfl
  cases e with
  | openDialog => rfl
  | closeDialog => simp only [step?,closeNumbered,Option.map_some]
  | remove id => simp only [step?,removeNumbered,Option.map_some]
  | start => simp only [step?,beginNumbered,Option.map_some]
  | policyAnswered reply now supply =>
    simp only [step?,policyAnswered,batch,files,config]
    split
    · split
      · simp only [policyFailed,Option.map_some]
        exact congrArg (fun r : Result => some (r.1,_ :: r.2))
          (failNumbered { u with batch := none } last _ _)
      · rw [Option.map_map]
        exact congrArg (Option.map · _)
          (funext fun sent => advanceNumbered { u with files := sent.2 } last _ _)
    · rfl
  | fileRead position contents =>
    simp only [step?,fileRead,batch,config]
    split
    · split
      · split
        · simp only [resolveNumbered,Option.map_some]
        · split
          · simp only [resolveNumbered,Option.map_some]
          · rfl
      · rfl
    · rfl
  | postAnswered position reply =>
    simp only [step?,postAnswered,batch]
    split
    · split
      · simp only [resolveNumbered,Option.map_some]
      · rfl
    · rfl
  | choose disk paths => cases plain
  | retry id => cases plain

theorem dispatchedNumbered (e : Event) : (u.numbered last).dispatchedBy e = u.dispatchedBy e := by
  cases e <;> rfl

end Numbered

theorem runNumbered {events : List Event} (plain : ∀ e ∈ events, e.allots = false) (u : Uploader)
    (last : FileId) : (u.numbered last).run? events =
      (u.run? events).map fun r => (r.1.numbered last,r.2) := by
  induction events generalizing u with
  | nil => rfl
  | cons e rest ih =>
    simp only [run?,stepNumbered u last (plain e List.mem_cons_self)]
    cases u.step? e with
    | none => rfl
    | some r =>
      simp only [Option.map_some,ih (fun e mem => plain e (List.mem_cons_of_mem _ mem)) r.1,
        Option.map_map,Function.comp_def]

theorem dispatchesNumbered {events : List Event} (plain : ∀ e ∈ events, e.allots = false)
    (u : Uploader) (last : FileId) :
    (u.numbered last).dispatches events = u.dispatches events := by
  induction events generalizing u with
  | nil => rfl
  | cons e rest ih =>
    simp only [dispatches,stepNumbered u last (plain e List.mem_cons_self),dispatchedNumbered]
    cases u.step? e with
    | none => rfl
    | some r =>
      simp only [Option.map_some,ih (fun e mem => plain e (List.mem_cons_of_mem _ mem)) r.1]

/-- A call is refused at once, or the batch it began gets no policy and nothing else is called meanwhile. -/
inductive FailedCall (u : Uploader) (e : Event) (error : UploadError) : Uploader → Prop where
  | atOnce {w said} (step : u.step? e = some (w,said)) (told : answers said = [.failed error]) :
      FailedCall u e error w
  | denied {v w said last reply now supply} (step : u.step? e = some (v,said))
      (pending : answers said = [])
      (answered : v.step? (.policyAnswered reply now supply) = some (w,last))
      (told : answers last = [.failed error]) : FailedCall u e error w

inductive Withheld (config : Config) : PolicyFailure → Prop where
  | unmade {fault} (unmade : config.policyRequest = .error fault) :
      Withheld config (Config.transportFailure fault)
  | denied {request reply now failure} (made : config.policyRequest = .ok request)
      (denied : config.policyFrom request reply now = .error failure) : Withheld config failure

inductive Mishap (u : Uploader) : Event → UploadError → Prop where
  | unknown {e id} (named : e = .remove id ∨ e = .retry id) (absent : u.file? id = none) :
      Mishap u e (.unknownFile id)
  | busy {id job} (pending : job ∈ u.openJobs) (named : job.id = id) :
      Mishap u (.remove id) (.fileBusy id)
  | unfailed {id file} (found : u.file? id = some file) (other : file.status ≠ .failed) :
      Mishap u (.retry id) (.invalidTransition file.status .waiting)
  | running {e} (call : e = .closeDialog ∨ e = .start) (running : u.isUploading = true) :
      Mishap u e .batchInProgress
  | nothing (idle : u.isUploading = false) (nothing : u.files = []) : Mishap u .start .noFilesSelected
  | withheld {failure} (idle : u.isUploading = false) (waits : waitingIds u.files ≠ [])
      (withheld : Withheld u.config failure) : Mishap u .start (.policyFailed failure)

structure AsBefore (u : Uploader) (e : Event) (w : Uploader) : Prop where
  same : w = u.numbered w.lastId
  last : w.lastId = u.lastId ∨ w.lastId = u.lastId + 1 ∧ ∃ id, e = .retry id
  -- what gives out no id goes on alike, so the same files are sent
  later : ∀ events, (∀ e ∈ events, e.allots = false) → w.dispatches events = u.dispatches events ∧
    w.run? events = (u.run? events).map fun r => (r.1.numbered w.lastId,r.2)

theorem asBefore {u : Uploader} {e : Event} {last : FileId}
    (counted : last = u.lastId ∨ last = u.lastId + 1 ∧ ∃ id, e = .retry id) :
    AsBefore u e (u.numbered last) where
  same := rfl
  last := counted
  later := fun _ plain => ⟨dispatchesNumbered plain u last,runNumbered plain u last⟩

theorem asBeforeSame (u : Uploader) (e : Event) : AsBefore u e u :=
  show AsBefore u e (u.numbered u.lastId) from asBefore (.inl rfl)

structure Besides (e : Event) : Prop where
  call : e.isCall = true
  other : ∀ disk paths, e ≠ .choose disk paths

section Failed
variable {u : Uploader}

theorem failedAtOnce (sound : Sound u) {e : Event} {error : UploadError} {w : Uploader}
    {said : List Effect} (besides : Besides e) (step : u.step? e = some (w,said))
    (told : answers said = [.failed error]) : Mishap u e error ∧ AsBefore u e w := by
  cases e with
  | openDialog =>
    cases Option.some.inj step
    cases told
  | closeDialog =>
    have closed := closeCases u
    rw [Option.some.inj step] at closed
    cases closed with
    | busy running =>
      cases told
      exact ⟨.running (.inl rfl) running,asBeforeSame u _⟩
    | cleared _ _ => cases told
    | already _ _ => cases told
  | remove id =>
    have removed := removeCases u id
    rw [Option.some.inj step] at removed
    cases removed with
    | unknown absent =>
      cases told
      exact ⟨.unknown (.inl rfl) absent,asBeforeSame u _⟩
    | busy found sent =>
      cases told
      have here := (foundIff sound.distinct).mp found
      obtain ⟨job,pending,named⟩ := sound.closed _ here.1 sent
      exact ⟨.busy pending (named.trans here.2),asBeforeSame u _⟩
    | done _ _ => cases told
  | retry id =>
    have renewed := retryCases u id
    rw [Option.some.inj step] at renewed
    cases renewed with
    | unknown absent =>
      cases told
      exact ⟨.unknown (.inr rfl) absent,asBefore (.inr ⟨rfl,id,rfl⟩)⟩
    | refused found other =>
      cases told
      exact ⟨.unfailed found other,asBefore (.inr ⟨rfl,id,rfl⟩)⟩
    | done _ _ => cases told
  | start =>
    have begins := beginExact u .start
    rw [Option.some.inj step] at begins
    cases begins with
    | busy running =>
      cases told
      exact ⟨.running (.inr rfl) running,asBeforeSame u _⟩
    | nothing free nothing =>
      cases told
      exact ⟨.nothing (idleIff.mpr free) nothing,asBeforeSame u _⟩
    | settled _ _ => cases told
    | unmade free waits unmade =>
      cases told
      exact ⟨.withheld (idleIff.mpr free) waits (.unmade unmade),asBeforeSame u _⟩
    | asked _ _ _ => cases told
  | choose disk paths => exact absurd rfl (besides.other disk paths)
  | policyAnswered reply now supply => cases besides.call
  | fileRead position contents => cases besides.call
  | postAnswered position reply => cases besides.call

theorem failedLater {v w : Uploader} {said last : List Effect} {error : UploadError}
    (step : u.step? .start = some (v,said)) (pending : answers said = []) {reply : Http.Reply}
    {now : Instant} {supply : Supply}
    (answered : v.step? (.policyAnswered reply now supply) = some (w,last))
    (told : answers last = [.failed error]) : Mishap u .start error ∧ AsBefore u .start w := by
  have begins := beginExact u .start
  rw [Option.some.inj step] at begins
  cases begins with
  | busy _ => cases pending
  | nothing _ _ => cases pending
  | settled _ _ => cases pending
  | unmade _ _ _ => cases pending
  | asked free waits made =>
    have comes := answerCases rfl answered
    generalize result : (w,last) = r at comes
    cases comes with
    | denied awaiting denied =>
      cases awaiting
      rw [policyFailedEq] at result
      cases result
      cases told
      have back : ({ u with batch := none } : Uploader).takeBack .start = u := unbatched free
      exact ⟨.withheld (idleIff.mpr free) waits (.denied made denied),back ▸ asBeforeSame u _⟩
    | granted awaiting granted given =>
      rw [show last = _ from congrArg Prod.snd result] at told
      exact absurd told advanceUnfailed

theorem FailedCall.cause (sound : Sound u) {e : Event} (besides : Besides e)
    {error : UploadError} {w : Uploader} (failed : FailedCall u e error w) :
    Mishap u e error ∧ AsBefore u e w := by
  cases failed with
  | atOnce step told => exact failedAtOnce sound besides step told
  | denied step pending answered told =>
    rcases (callSpeaks besides.call step).later pending with rfl | ⟨disk,paths,rfl⟩
    · exact failedLater step pending answered told
    · exact absurd rfl (besides.other disk paths)

theorem Mishap.fails (sound : Sound u) {e : Event} {error : UploadError} (mishap : Mishap u e error) :
    ∃ w, FailedCall u e error w := by
  cases mishap with
  | @unknown e id named absent =>
    rcases named with rfl | rfl
    · have step : u.step? (.remove id) = some (u,[.answer (.failed (.unknownFile id))]) := by
        simp only [step?,remove,absent]
        rfl
      exact ⟨u,.atOnce step rfl⟩
    · have step : u.step? (.retry id) =
          some (u.numbered (u.lastId + 1),[.answer (.failed (.unknownFile id))]) := by
        simp only [step?,retry]
        rw [show ({ u with lastId := u.lastId + 1 } : Uploader).file? id = none from absent]
        rfl
      exact ⟨_,.atOnce step rfl⟩
  | @busy id job pending named =>
    obtain ⟨f,found,carries⟩ := sound.present pending
    rw [named] at found
    have step : u.step? (.remove id) = some (u,[.answer (.failed (.fileBusy id))]) := by
      simp only [step?,remove,found,carries.status,if_true]
      rfl
    exact ⟨u,.atOnce step rfl⟩
  | @unfailed id file found other =>
    have step : u.step? (.retry id) = some (u.numbered (u.lastId + 1),
        [.answer (.failed (.invalidTransition file.status .waiting))]) := by
      simp only [step?,retry]
      rw [show ({ u with lastId := u.lastId + 1 } : Uploader).file? id = some file from found]
      simp only [if_neg other]
      rfl
    exact ⟨_,.atOnce step rfl⟩
  | running call running =>
    rcases call with rfl | rfl
    · have step : u.step? .closeDialog = some (u,[.answer (.failed .batchInProgress)]) := by
        simp only [step?,closeDialog,running,if_true]
        rfl
      exact ⟨u,.atOnce step rfl⟩
    · exact ⟨u,.atOnce (startRefused running) rfl⟩
  | nothing idle nothing =>
    have step : u.step? .start = some (u,[.notice "select files to upload first",
        .answer (.failed .noFilesSelected)]) := by
      simp only [step?,begin,idle,Bool.false_eq_true,if_false,nothing,if_true,failEq]
      rfl
    exact ⟨u,.atOnce step rfl⟩
  | @withheld failure idle waits withheld =>
    have free := idleIff.mp idle
    cases withheld with
    | unmade unmade =>
      exact ⟨_,.atOnce (congrArg some (beginUnmade free waits .start unmade)) rfl⟩
    | @denied request reply now _ made denied =>
      have answered : ({ u with
          batch := some ⟨.start,.awaitingPolicy request (waitingIds u.files)⟩ } : Uploader).step?
            (.policyAnswered reply now ⟨[],[]⟩) = some (({ u with batch := none } : Uploader),
              [.policyFailed failure,.answer (.failed (.policyFailed failure))]) := by
        simp only [step?,policyAnswered,denied,policyFailedEq]
        rfl
      exact ⟨_,.denied (congrArg some (beginMade free waits .start made)) rfl answered rfl⟩

end Failed

theorem failedCallsKeep {u : Uploader} (reachable : Reachable u) :
    (∀ {e : Event} {error : UploadError}, Besides e →
      ((∃ w, FailedCall u e error w) ↔ Mishap u e error) ∧
        ∀ {w}, FailedCall u e error w → AsBefore u e w) ∧
    ∀ id, (∃ w, FailedCall u (.remove id) (.fileBusy id) w) ↔ ∃ job ∈ u.openJobs, job.id = id := by
  have sound := reachableSound reachable
  have fails : ∀ {e : Event} {error : UploadError}, Besides e →
      ((∃ w, FailedCall u e error w) ↔ Mishap u e error) := fun besides =>
    ⟨fun ⟨_,failed⟩ => (failed.cause sound besides).1,fun mishap => mishap.fails sound⟩
  refine ⟨fun besides => ⟨fails besides,fun failed => (failed.cause sound besides).2⟩,fun id => ?_⟩
  rw [fails ⟨rfl,by rintro _ _ ⟨⟩⟩]
  constructor
  · intro mishap
    cases mishap with
    | busy pending named => exact ⟨_,pending,named⟩
  · rintro ⟨job,pending,named⟩
    exact .busy pending named

def sendingTwo : Uploader := ((sample true).after sending).1

theorem sendingReachable : Reachable sendingTwo :=
  (Reachable.rendered (sampleRendered true)).run sendingRuns

def renewedInVain : Uploader := (sendingTwo.next (.retry 2)).1

theorem sendingUnharmed : Reachable offered ∧ Reachable sendingTwo ∧
    (∃ failure, FailedCall offered .start (.policyFailed failure) offered ∧
      AsBefore offered .start offered) ∧
    FailedCall sendingTwo (.retry 2) (.invalidTransition .uploading .waiting) renewedInVain ∧
    AsBefore sendingTwo (.retry 2) renewedInVain ∧
    (∃ w, FailedCall sendingTwo (.remove 2) (.fileBusy 2) w) := by
  have started := stepNext (u := offered) (e := .start) (by decide +kernel)
  have broken := stepNext (u := (offered.next .start).1)
    (e := .policyAnswered .broken ⟨0,0⟩ sampleSupply) (by decide +kernel)
  have back : ((offered.next .start).1.next (.policyAnswered .broken ⟨0,0⟩ sampleSupply)).1 =
      offered := by
    decide +kernel
  rw [back] at broken
  have denied := FailedCall.denied started (by decide +kernel) broken rfl
  have vain : FailedCall sendingTwo (.retry 2) (.invalidTransition .uploading .waiting)
      renewedInVain := .atOnce (stepNext (by decide +kernel)) (by decide +kernel)
  exact ⟨offeredReachable,sendingReachable,
    ⟨_,denied,((failedCallsKeep offeredReachable).1 ⟨rfl,by rintro _ _ ⟨⟩⟩).2 denied⟩,vain,
    ((failedCallsKeep sendingReachable).1 ⟨rfl,by rintro _ _ ⟨⟩⟩).2 vain,
    ((failedCallsKeep sendingReachable).2 2).mpr (by decide +kernel)⟩

end SignedUpload.Uploader

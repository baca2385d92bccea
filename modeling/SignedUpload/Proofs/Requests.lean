import SignedUpload.Proofs.Exactness
import SignedUpload.Proofs.Uploading

/-! The policy requests of an uploader. A batch asks for one policy when it begins and for no other;
a call that is answered at once asks for none. -/
namespace SignedUpload.Uploader

def awaited (u : Uploader) : List Http.Request :=
  match u.batch with
  | some ⟨_,.awaitingPolicy request _⟩ => [request]
  | _ => []

theorem awaitedSame {u v : Uploader} (same : v.batch = u.batch) : v.awaited = u.awaited := by
  simp only [awaited,same]

theorem awaitedNone {u : Uploader} (free : u.batch = none) : u.awaited = [] := by
  simp only [awaited,free]

theorem callAsks {u v : Uploader} {e : Event} {said : List Effect} (call : e.isCall = true)
    (step : u.step? e = some (v,said)) : v.awaited = u.awaited ++ requests said := by
  have spoke := callSpeaks call step
  cases spoke with
  | hid shown hidden empty same =>
    rw [awaitedSame same]
    exact (List.append_nil _).symm
  | told messages plain same stays =>
    rw [awaitedSame same,requestsAppend,requestsNotices]
    exact (List.append_nil _).symm
  | denied messages failure free same stays =>
    rw [awaitedSame same,requestsAppend,requestsNotices]
    exact (List.append_nil _).symm
  | asked messages free made begins awaits stays =>
    rw [awaitedNone free,requestsAppend,requestsNotices,awaited,awaits]
    rfl

theorem answerAsks {u : Uploader} {e : Event} {result : Result} (answered : Answered u e result) :
    requests result.2 = [] := by
  obtain ⟨origin,phase,under,comes⟩ := answerComes answered
  cases comes with
  | reading jobs under => exact requestsLoads jobs
  | posting job request under => rfl
  | reported objects free => rfl
  | denied failure free => rfl

theorem Course.asks {u w : Uploader} {events : List Event} {effects : List Effect} (sound : Sound u)
    (course : Course u events effects w) : requests effects = [] := by
  induction course with
  | refl => rfl
  | @step v w events effects e said earlier busy next ih =>
    rw [requestsAppend,ih,List.nil_append]
    cases call : e.isCall with
    | true =>
      have called := (earlier.sound sound).called call next
      have level := callAsks call next
      rw [awaitedSame (called.keeps busy)] at level
      simpa using level
    | false => exact answerAsks (answerCases call next)

inductive Starts (u : Uploader) : Event → Prop where
  | start (waits : waitingIds u.files ≠ []) : Starts u .start
  | choose {disk : Disk} {paths : List Path} (single : u.config.multiple = false)
      (new : u.unseen disk paths ≠ []) : Starts u (.choose disk paths)

structure Opens (request : Http.Request) (v : Uploader) (said : List Effect) : Prop where
  asked : requests said = [request]
  quiet : Quiet said
  unanswered : answers said = []
  awaits : ∃ origin, v.batch = some ⟨origin,.awaitingPolicy request (waitingIds v.files)⟩
  once : ∀ {events effects w}, Course v events effects w → requests effects = []

structure Fails (u : Uploader) (failure : PolicyFailure) (v : Uploader) (said : List Effect) :
    Prop where
  unasked : requests said = []
  quiet : Quiet said
  answered : answers said = [.failed (.policyFailed failure)]
  ended : v.isUploading = false
  files : v.files = u.files

section Start
variable {u v : Uploader} {call : Event} {said : List Effect}

theorem startsRuns (starts : Starts u call) : ∃ v said, u.step? call = some (v,said) := by
  cases starts <;> exact ⟨_,_,rfl⟩

theorem startsAwaits (listed : Listed u) (free : u.batch = none) (starts : Starts u call)
    {request : Http.Request} (made : u.config.policyRequest = .ok request)
    (step : u.step? call = some (v,said)) : answers said = [] ∧
      ∃ origin, v.batch = some ⟨origin,.awaitingPolicy request (waitingIds v.files)⟩ := by
  cases starts with
  | start waits =>
    have begun := beginCases u .start
    rw [Option.some.inj step] at begun
    cases begun with
    | failed said quiet silent blocked =>
      rcases blocked with busy | nothing | ⟨fault,unmade⟩
      · exact absurd free busy
      · simp [nothing,waitingIds] at waits
      · simp [made] at unmade
    | idle free settled => exact absurd settled waits
    | asked free waits made' =>
      cases made.symm.trans made'
      exact ⟨rfl,_,rfl⟩
  | @choose disk paths single new =>
    have chosen := chooseCases listed disk paths
    rw [Option.some.inj step] at chosen
    cases chosen with
    | listed notices ids multiple => simp [single] at multiple
    | seen notices single nothing => exact absurd nothing new
    | failed said quiet silent single new blocked =>
      rcases blocked with busy | ⟨fault,unmade⟩
      · exact absurd free busy
      · simp [made] at unmade
    | asked notices single free made' new =>
      cases made.symm.trans made'
      exact ⟨by rw [answersAppend,answersNotices]; rfl,_,rfl⟩

theorem startsOpens (sound : Sound u) (free : u.batch = none) (starts : Starts u call)
    {request : Http.Request} (made : u.config.policyRequest = .ok request)
    (step : u.step? call = some (v,said)) : Opens request v said := by
  have call := idleCall (idleIff.mpr free) step
  obtain ⟨unanswered,origin,begun⟩ := startsAwaits sound.toListed free starts made step
  have asks := callAsks call step
  rw [awaitedNone free,List.nil_append] at asks
  exact ⟨by simp [← asks,awaited,begun],(sound.called call step).quiet,unanswered,⟨origin,begun⟩,
    fun course => course.asks (stepSound sound step)⟩

theorem beginUnmade (free : u.batch = none) (waits : waitingIds u.files ≠ []) (origin : Origin)
    {fault : Http.Fault} (unmade : u.config.policyRequest = .error fault) :
    u.begin origin = (u.takeBack origin,[.policyFailed (Config.transportFailure fault),
      .answer (.failed (.policyFailed (Config.transportFailure fault)))]) := by
  have nonempty := waitingSome waits
  simp only [waitingIds] at waits
  simp only [begin,isUploading,free,Option.isSome_none,Bool.false_eq_true,if_false,if_neg nonempty,
    if_neg waits,unmade,policyFailedEq,unbatched free]

theorem beginMade (free : u.batch = none) (waits : waitingIds u.files ≠ []) (origin : Origin)
    {request : Http.Request} (made : u.config.policyRequest = .ok request) :
    u.begin origin = ({ u with
      batch := some ⟨origin,.awaitingPolicy request (waitingIds u.files)⟩ },
        [.requestPolicy request]) := by
  have nonempty := waitingSome waits
  simp only [waitingIds] at waits ⊢
  simp only [begin,isUploading,free,Option.isSome_none,Bool.false_eq_true,if_false,if_neg nonempty,
    if_neg waits,made]

theorem startsFails (listed : Listed u) (free : u.batch = none) (starts : Starts u call)
    {fault : Http.Fault} (unmade : u.config.policyRequest = .error fault)
    (step : u.step? call = some (v,said)) : Fails u (Config.transportFailure fault) v said := by
  cases starts with
  | start waits =>
    simp only [step?,beginUnmade free waits .start unmade,Option.some.injEq,Prod.mk.injEq] at step
    obtain ⟨rfl,rfl⟩ := step
    exact ⟨rfl,⟨rfl,rfl,rfl⟩,rfl,by simp [takeBack,isUploading,free],rfl⟩
  | @choose disk paths single new =>
    have waits : waitingIds (u.submit disk paths).files ≠ [] := by
      rw [waitingSubmission]
      simp [submission,stageFromIds,new]
    simp only [step?,chooseSingle u disk paths single,if_neg new,
      beginUnmade (u := u.submit disk paths) free waits _ unmade,submitTakeBack listed,
      Option.some.injEq,Prod.mk.injEq] at step
    obtain ⟨rfl,rfl⟩ := step
    refine ⟨?_,(quietNotices _).append ⟨rfl,rfl,rfl⟩,?_,by simp [refused,isUploading,free],rfl⟩
    · rw [requestsAppend,requestsNotices]
      rfl
    · rw [answersAppend,answersNotices]
      rfl

end Start

theorem policyDenied {a : Uploader} (sound : Sound a) {origin request waiting reply now failure}
    (awaiting : a.batch = some ⟨origin,.awaitingPolicy request waiting⟩)
    (denied : a.config.policyFrom request reply now = .error failure) (supply : Supply) :
    ∃ w last, a.step? (.policyAnswered reply now supply) = some (w,last) ∧ Quiet last ∧
      requests last = [] ∧ answers last = [.failed (.policyFailed failure)] ∧
      w.isUploading = false ∧ ∀ f ∈ w.files, f.id ∈ waiting → f.status = .waiting := by
  have step : a.step? (.policyAnswered reply now supply) = some (a.policyFailed origin failure) := by
    simp only [step?,policyAnswered,awaiting,denied]
  rw [policyFailedEq] at step
  refine ⟨_,_,step,⟨rfl,rfl,rfl⟩,rfl,rfl,?_,?_⟩
  · simp [isUploading,(takeBackRest _ origin).1]
  · intro f mem asked
    have old := (takeBackFiles { a with batch := none } origin).subset mem
    exact (sound.waits awaiting).still f old asked

inductive Late : Answer → Prop where
  | denied (failure : PolicyFailure) : Late (.failed (.policyFailed failure))
  | reported (origin : Origin) (objects : List UploadedObject) : Late (succeed origin objects)

theorem answeredLate {u : Uploader} {e : Event} {result : Result} (answered : Answered u e result)
    {answer : Answer} (told : answer ∈ answers result.2) : Late answer := by
  obtain ⟨origin,phase,under,comes⟩ := answerComes answered
  cases comes with
  | reading jobs under =>
    rw [answersLoads] at told
    cases told
  | posting job request under => cases told
  | reported objects free =>
    cases List.mem_singleton.mp told
    exact .reported origin objects
  | denied failure free =>
    cases List.mem_singleton.mp told
    exact .denied failure

theorem refusedAtOnce {u v : Uploader} {e : Event} {said : List Effect}
    (next : u.step? e = some (v,said)) {error : UploadError}
    (other : ∀ failure, error ≠ .policyFailed failure) (told : .failed error ∈ answers said) :
    e.isCall = true := by
  cases call : e.isCall with
  | true => rfl
  | false =>
    have late := answeredLate (answerCases call next) told
    generalize answer : Answer.failed error = it at late
    cases late with
    | denied failure => exact absurd (by simpa using answer) (other failure)
    | reported origin objects => cases origin <;> cases answer

theorem answeredAsks {u v : Uploader} {e : Event} {said : List Effect} (sound : Sound u)
    (call : e.isCall = true) (next : u.step? e = some (v,said)) (told : answers said ≠ []) :
    requests said = [] ∧ Quiet said := by
  have called := sound.called call next
  rcases called.batch with ⟨same,-⟩ | ⟨-,silent,-⟩
  · have asks := callAsks call next
    rw [awaitedSame same] at asks
    exact ⟨by simpa using asks,called.quiet⟩
  · exact absurd silent told

theorem deniedBatch {u v a : Uploader} {call : Event} {asked said : List Effect} {calls : List Event}
    {origin request waiting reply now failure} (sound : Sound u) (free : u.batch = none)
    (step : u.step? call = some (v,asked)) (wait : Course v calls said a)
    (awaiting : a.batch = some ⟨origin,.awaitingPolicy request waiting⟩)
    (denied : a.config.policyFrom request reply now = .error failure) (supply : Supply) :
    ∃ w last, a.step? (.policyAnswered reply now supply) = some (w,last) ∧
      requests (asked ++ said ++ last) = [request] ∧ Quiet (asked ++ said ++ last) ∧
      answers last = [.failed (.policyFailed failure)] ∧ w.isUploading = false ∧
      ∀ f ∈ w.files, f.id ∈ waitingIds v.files → f.status = .waiting := by
  have isCall := idleCall (idleIff.mpr free) step
  have called := sound.called isCall step
  have later := stepSound sound step
  obtain ⟨begun,silent⟩ := wait.awaiting later awaiting
  have one := callAsks isCall step
  rw [awaitedNone free,List.nil_append] at one
  have batch : waiting = waitingIds v.files := by
    rcases called.batch with ⟨same,-⟩ | ⟨-,-,_,_,begun'⟩
    · simp [same,free] at begun
    · cases begun.symm.trans begun'
      rfl
  obtain ⟨w,last,answered,quiet,unasked,told,ended,still⟩ :=
    policyDenied (wait.sound later) awaiting denied supply
  refine ⟨w,last,answered,?_,(called.quiet.append silent).append quiet,told,ended,batch ▸ still⟩
  rw [requestsAppend,requestsAppend,wait.asks later,unasked,← one]
  simp [awaited,begun]

theorem beginSettled {u : Uploader} (free : u.batch = none) (nonempty : u.files ≠ [])
    (settled : waitingIds u.files = []) (origin : Origin) :
    u.begin origin = (u,[.notice "no files need uploading",.answer (succeed origin [])]) := by
  simp only [waitingIds] at settled
  simp only [begin,isUploading,free,Option.isSome_none,Bool.false_eq_true,if_false,if_neg nonempty,
    settled,if_true]

end SignedUpload.Uploader

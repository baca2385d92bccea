import SignedUpload.Proofs.Options
import SignedUpload.Proofs.Requests
import Mathlib.Data.List.Induction

/-! No file is posted without a policy of its own batch: the accepted answer to the one request of the
batch opens it, and every form that the batch posts carries that policy. -/
namespace SignedUpload.Uploader

inductive Asked (start : Uploader) : List Event → Uploader → Http.Request → Prop where
  | intro {past before done call v asked origin request waiting calls said a}
      (run : start.run? past = some (before,done)) (idle : before.isUploading = false)
      (began : before.step? call = some (v,asked)) (one : requests asked = [request])
      (waits : v.batch = some ⟨origin,.awaitingPolicy request waiting⟩)
      (wait : Course v calls said a)
      (still : a.batch = some ⟨origin,.awaitingPolicy request waiting⟩) :
      Asked start (past ++ call :: calls) a request

/-- The batch was opened by a policy that came as the answer to its own request. -/
inductive Granted (start : Uploader) : List Event → Uploader → Policy → Prop where
  | intro {past a request reply now supply policy b opening inside more u}
      (asked : Asked start past a request)
      (accepted : a.config.policyFrom request reply now = .ok policy)
      (opened : a.step? (.policyAnswered reply now supply) = some (b,opening))
      (course : Course b inside more u) (busy : u.isUploading = true) :
      Granted start (past ++ .policyAnswered reply now supply :: inside) u policy

inductive Standing (start : Uploader) (events : List Event) (u : Uploader) : Prop where
  | idle (free : u.batch = none)
  | asked {request} (asked : Asked start events u request)
  | granted {policy origin t} (granted : Granted start events u policy)
      (under : u.batch = some ⟨origin,.transferring t⟩) (signed : t.policy = policy)

section Standing
variable {start u v : Uploader} {events : List Event} {effects said : List Effect} {e : Event}

theorem Asked.awaiting {request : Http.Request} (asked : Asked start events u request) :
    ∃ origin waiting, u.batch = some ⟨origin,.awaitingPolicy request waiting⟩ := by
  obtain ⟨_,_,_,_,_,_,still⟩ := asked
  exact ⟨_,_,still⟩

theorem Asked.call {request : Http.Request} (asked : Asked start events u request)
    (next : u.step? e = some (v,said)) (same : v.batch = u.batch) :
    Asked start (events ++ [e]) v request := by
  obtain ⟨run,idle,began,one,waits,wait,still⟩ := asked
  rw [List.append_assoc]
  exact .intro run idle began one waits (.step wait (by simp [isUploading,still]) next)
    (same.trans still)

theorem Granted.step {policy : Policy} (granted : Granted start events u policy)
    (next : u.step? e = some (v,said)) (busy : v.isUploading = true) :
    Granted start (events ++ [e]) v policy := by
  obtain ⟨asked,accepted,opened,course,before⟩ := granted
  rw [List.append_assoc]
  exact .intro asked accepted opened (.step course before next) busy

theorem advanceStanding {origin : Origin} {t : Transfer}
    (opens : (u.advance origin t).1.isUploading = true →
      Granted start events (u.advance origin t).1 t.policy) :
    Standing start events (u.advance origin t).1 := by
  rcases advanceCases u origin t with ⟨-,finished⟩ | ⟨-,going⟩
  · rw [finished,reportEq]
    exact .idle u.settledRest.1
  · rw [going] at opens ⊢
    exact .granted (opens rfl) rfl rfl

theorem askedStep {request : Http.Request} (sound : Sound u)
    (asked : Asked start events u request) (next : u.step? e = some (v,said)) :
    Standing start (events ++ [e]) v := by
  obtain ⟨origin,waiting,awaiting⟩ := asked.awaiting
  cases call : e.isCall with
  | true =>
    exact .asked (asked.call next
      ((sound.called call next).keeps (by simp [isUploading,awaiting])))
  | false =>
    have answered := answerCases call next
    generalize result : (v,said) = r at answered
    cases answered with
    | denied awaiting' denied =>
      rw [policyFailedEq] at result
      cases result
      exact .idle (takeBackRest _ _).1
    | granted awaiting' granted given =>
      cases awaiting.symm.trans awaiting'
      obtain rfl : v = _ := congrArg Prod.fst result
      exact advanceStanding fun busy => .intro asked granted next .refl busy
    | unsent under flight broken => cases awaiting.symm.trans under
    | posted under flight sent => cases awaiting.symm.trans under
    | replied under flight => cases awaiting.symm.trans under

theorem grantedStep {policy : Policy} {origin : Origin} {t : Transfer} (sound : Sound u)
    (granted : Granted start events u policy) (under : u.batch = some ⟨origin,.transferring t⟩)
    (signed : t.policy = policy) (next : u.step? e = some (v,said)) :
    Standing start (events ++ [e]) v := by
  have busy : u.isUploading = true := by simp [isUploading,under]
  cases call : e.isCall with
  | true =>
    have same := (sound.called call next).keeps busy
    exact .granted (granted.step next (by simp [isUploading,same,under])) (same.trans under) signed
  | false =>
    subst signed
    have answered := answerCases call next
    generalize result : (v,said) = r at answered
    cases answered with
    | denied awaiting _ => cases under.symm.trans awaiting
    | granted awaiting _ _ => cases under.symm.trans awaiting
    | unsent under' flight broken =>
      cases under.symm.trans under'
      rw [resolveEq] at result
      obtain rfl : v = _ := congrArg Prod.fst result
      exact advanceStanding fun busy => granted.step next busy
    | posted under' flight sent =>
      cases under.symm.trans under'
      cases result
      exact .granted (granted.step next rfl) rfl rfl
    | replied under' flight =>
      cases under.symm.trans under'
      rw [resolveEq] at result
      obtain rfl : v = _ := congrArg Prod.fst result
      exact advanceStanding fun busy => granted.step next busy

theorem standingStep (sound : Sound u) (run : start.run? events = some (u,effects))
    (standing : Standing start events u) (next : u.step? e = some (v,said)) :
    Standing start (events ++ [e]) v := by
  cases standing with
  | idle free =>
    have idle := idleIff.mpr free
    have call := idleCall idle next
    rcases (sound.called call next).batch with ⟨same,-⟩ | ⟨-,-,origin,request,begun⟩
    · exact .idle (same.trans free)
    · have asks := callAsks call next
      rw [awaitedNone free,List.nil_append] at asks
      have one : requests said = [request] := by simp [← asks,awaited,begun]
      exact .asked (.intro run idle next one begun .refl begun)
  | asked asked => exact askedStep sound asked next
  | granted granted under signed => exact grantedStep sound granted under signed next

theorem runStanding (sound : Sound start) (free : start.batch = none)
    (run : start.run? events = some (u,effects)) : Standing start events u := by
  -- from the end of the run, so that each batch is met with all that has led to it
  induction events using List.reverseRecOn generalizing u effects with
  | nil =>
    obtain ⟨rfl,-⟩ := runNil.mp run
    exact .idle free
  | append_singleton events e ih =>
    obtain ⟨w,before,said,earlier,next,-⟩ := runSnoc.mp run
    exact standingStep (runSound sound earlier) earlier (ih earlier) next

end Standing

theorem answerPosts {u : Uploader} {e : Event} {result : Result} (answered : Answered u e result)
    {job : Job} {request : Http.Request} (sent : (job,request) ∈ posts result.2) :
    ∃ origin t position contents, u.batch = some ⟨origin,.transferring t⟩ ∧
      flight? t position = some ⟨job,.reading⟩ ∧
      posting u.config t.policy job contents = .ok request := by
  cases answered with
  | denied awaiting denied =>
    rw [policyFailedEq] at sent
    cases sent
  | granted awaiting granted given => simp [advancePosts] at sent
  | unsent under flight broken => simp [resolveEq,advancePosts] at sent
  | posted under flight made =>
    cases List.mem_singleton.mp sent
    exact ⟨_,_,_,_,under,flight,made⟩
  | replied under flight => simp [resolveEq,advancePosts] at sent

theorem stepPosted {u v : Uploader} {e : Event} {said : List Effect} (sound : Sound u)
    (next : u.step? e = some (v,said)) {job : Job} {request : Http.Request}
    (sent : (job,request) ∈ posts said) :
    ∃ policy contents, posting u.config policy job contents = .ok request := by
  cases call : e.isCall with
  | true => simp [(sound.called call next).quiet.posts] at sent
  | false =>
    obtain ⟨-,t,-,contents,-,-,made⟩ := answerPosts (answerCases call next) sent
    exact ⟨t.policy,contents,made⟩

theorem runPosted {u w : Uploader} {events : List Event} {effects : List Effect} (sound : Sound u)
    (run : u.run? events = some (w,effects)) {job : Job} {request : Http.Request}
    (sent : (job,request) ∈ posts effects) :
    ∃ policy contents, posting u.config policy job contents = .ok request := by
  obtain ⟨v,e,x,said,soundV,config,next,told⟩ := sound.source run (postsIff.mp sent)
  exact config ▸ stepPosted soundV next (postsIff.mpr told)

theorem Standing.posts {start u v : Uploader} {events : List Event} {e : Event} {said : List Effect}
    (standing : Standing start events u) (sound : Sound u) (checked : u.config.Checked)
    (next : u.step? e = some (v,said)) {job : Job} {request : Http.Request}
    (sent : (job,request) ∈ posts said) :
    ∃ policy, Granted start events u policy ∧ SignedBy policy request := by
  cases call : e.isCall with
  | true => simp [(sound.called call next).quiet.posts] at sent
  | false =>
    obtain ⟨origin,t,position,contents,under,-,made⟩ := answerPosts (answerCases call next) sent
    cases standing with
    | idle free => simp [free] at under
    | asked asked =>
      obtain ⟨_,_,awaiting⟩ := asked.awaiting
      simp [awaiting] at under
    | granted granted under' signed =>
      cases under'.symm.trans under
      rw [signed] at made
      exact ⟨_,granted,postingSigned checked made⟩

structure Gated (start : Uploader) (events : List Event) (u : Uploader) : Prop where
  posted : ∀ {e v said job request}, u.step? e = some (v,said) → (job,request) ∈ posts said →
    ∃ policy, Granted start events u policy ∧ SignedBy policy request
  asked : ∀ {call request}, u.isUploading = false → Starts u call →
    u.config.policyRequest = .ok request →
      ∃ v said, u.step? call = some (v,said) ∧ Opens request v said
  unasked : ∀ {call fault}, u.isUploading = false → Starts u call →
    u.config.policyRequest = .error fault →
      ∃ v said, u.step? call = some (v,said) ∧ Fails u (Config.transportFailure fault) v said
  atOnce : ∀ {call v said}, call.isCall = true → u.step? call = some (v,said) → answers said ≠ [] →
    requests said = [] ∧ Quiet said
  refused : ∀ {e v said}, u.step? e = some (v,said) →
    .failed .batchInProgress ∈ answers said ∨ .failed .noFilesSelected ∈ answers said →
      e.isCall = true
  nothing : u.isUploading = false → u.files ≠ [] → waitingIds u.files = [] →
    u.step? .start = some (u,[.notice "no files need uploading",.answer (.uploaded [])])
  denied : ∀ {call v asked calls said a origin request waiting reply now failure},
    u.isUploading = false → u.step? call = some (v,asked) → Course v calls said a →
    a.batch = some ⟨origin,.awaitingPolicy request waiting⟩ →
    a.config.policyFrom request reply now = .error failure → ∀ supply,
      ∃ w last, a.step? (.policyAnswered reply now supply) = some (w,last) ∧
        requests (asked ++ said ++ last) = [request] ∧ Quiet (asked ++ said ++ last) ∧
        answers last = [.failed (.policyFailed failure)] ∧ w.isUploading = false ∧
        ∀ f ∈ w.files, f.id ∈ waitingIds v.files → f.status = .waiting

theorem policyGates {config : Config} {start u : Uploader} {events : List Event}
    {effects : List Effect} (ready : render config = .ok start)
    (run : start.run? events = some (u,effects)) : Gated start events u := by
  have fresh : start.batch = none ∧ start.config = config := by
    obtain ⟨kind,rfl⟩ := renderedFresh ready
    exact ⟨rfl,rfl⟩
  have sound := runSound (renderedSound ready) run
  have standing := runStanding (renderedSound ready) fresh.1 run
  have same := (runLater (renderedSound ready) run).config.trans fresh.2
  have checked : u.config.Checked := same ▸ renderedChecked ready
  have free : u.isUploading = false → u.batch = none := by simp [isUploading]
  refine ⟨?posted,?asked,?unasked,?atOnce,?refused,?nothing,?denied⟩
  case posted => exact fun next sent => standing.posts sound checked next sent
  case asked =>
    intro call request idle starts made
    obtain ⟨v,said,step⟩ := startsRuns starts
    exact ⟨v,said,step,startsOpens sound (free idle) starts made step⟩
  case unasked =>
    intro call fault idle starts unmade
    obtain ⟨v,said,step⟩ := startsRuns starts
    exact ⟨v,said,step,startsFails sound.toListed (free idle) starts unmade step⟩
  case atOnce => exact fun call step told => answeredAsks sound call step told
  case refused =>
    rintro e v said next (told | told)
    · exact refusedAtOnce next (by simp) told
    · exact refusedAtOnce next (by simp) told
  case nothing =>
    intro idle nonempty settled
    exact congrArg some (beginSettled (free idle) nonempty settled .start)
  case denied =>
    intro call v asked calls said a origin request waiting reply now failure idle step wait awaiting
      denied
    exact deniedBatch sound (free idle) step wait awaiting denied

theorem sendingGated : render (sampleConfig true) = .ok (sample true) ∧
    (sample true).run? sending =
      some (((sample true).after sending).1,((sample true).after sending).2) ∧
    Gated (sample true) sending ((sample true).after sending).1 ∧
    (posts (((sample true).after sending).1.next (.fileRead 0 (.ok []))).2).length = 1 :=
  ⟨sampleRendered true,sendingRuns,policyGates (sampleRendered true) sendingRuns,by decide +kernel⟩

def unsendable : Config := { sampleConfig true with policyUrl := "ftp://policy" }

theorem someStartAsksNothing : ¬ ∀ (start u v : Uploader) (events : List Event)
    (effects said : List Effect), render unsendable = .ok start →
      start.run? events = some (u,effects) → u.isUploading = false → waitingIds u.files ≠ [] →
      u.step? .start = some (v,said) → (requests said).length = 1 := by
  intro always
  have ready : render unsendable = .ok ⟨unsendable,.file,[],[],0,false,none⟩ := rfl
  have one := always _ _ _ [.choose sampleDisk [[97]]] _ _ ready (runAfter (by decide +kernel))
    (by decide +kernel) (by decide +kernel) (stepNext (by decide +kernel))
  revert one
  decide +kernel

end SignedUpload.Uploader

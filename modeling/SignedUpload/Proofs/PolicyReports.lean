import SignedUpload.Proofs.Modes
import SignedUpload.Proofs.Utf8

/-! How it is told that no policy could be had. A refused answer is told with its status, its whole text
and the reason; an exchange that broke has only a reason. The listener hears of it once, and the caller
has the same failure. -/
namespace SignedUpload

namespace Config

def fetch (config : Config) (reply : Http.Reply) (now : Instant) : Except PolicyFailure Policy :=
  match config.policyRequest with
  | .error fault => .error (transportFailure fault)
  | .ok request => config.policyFrom request reply now

inductive Breaks (config : Config) (reply : Http.Reply) : Http.Fault → Prop where
  | unmade {fault} (unmade : config.policyRequest = .error fault) : Breaks config reply fault
  | unsent {request} (made : config.policyRequest = .ok request) (lost : reply = .broken) :
      Breaks config reply (.unsent request.url.text)
  | cut {request status} (made : config.policyRequest = .ok request) (cut : reply = .cut status) :
      Breaks config reply .cutShort

structure Arrives (config : Config) (reply : Http.Reply) (status : Nat) (bytes : Bytes) : Prop where
  made : ∃ request, config.policyRequest = .ok request
  whole : reply = .whole status bytes

inductive Fetched (config : Config) (reply : Http.Reply) (now : Instant) :
    Except PolicyFailure Policy → Prop where
  | granted {status bytes policy} (arrives : config.Arrives reply status bytes)
      (accepted : config.accept status (Utf8.decodeLossy bytes) now = .ok policy) :
      Fetched config reply now (.ok policy)
  | refused {status bytes error} (arrives : config.Arrives reply status bytes)
      (refused : config.accept status (Utf8.decodeLossy bytes) now = .error error) :
      Fetched config reply now (.error ⟨some status,Utf8.decodeLossy bytes,error.message⟩)
  | broken {fault} (breaks : config.Breaks reply fault) :
      Fetched config reply now (.error ⟨none,"",(PolicyError.transport fault).message⟩)

section Fetch
variable {config : Config} {reply : Http.Reply} {now : Instant}

theorem fetchGranted {status : Nat} {bytes : Bytes} {policy : Policy}
    (arrives : config.Arrives reply status bytes)
    (accepted : config.accept status (Utf8.decodeLossy bytes) now = .ok policy) :
    config.fetch reply now = .ok policy := by
  obtain ⟨⟨request,made⟩,rfl⟩ := arrives
  simp only [fetch,made,policyFrom,accepted]

theorem fetchRefused {status : Nat} {bytes : Bytes} {error : PolicyError}
    (arrives : config.Arrives reply status bytes)
    (refused : config.accept status (Utf8.decodeLossy bytes) now = .error error) :
    config.fetch reply now = .error ⟨some status,Utf8.decodeLossy bytes,error.message⟩ := by
  obtain ⟨⟨request,made⟩,rfl⟩ := arrives
  simp only [fetch,made,policyFrom,refused]

theorem fetchBroken {fault : Http.Fault} (breaks : config.Breaks reply fault) :
    config.fetch reply now = .error (transportFailure fault) := by
  cases breaks with
  | unmade unmade => simp only [fetch,unmade]
  | unsent made lost => simp only [fetch,made,lost,policyFrom]
  | cut made cut => simp only [fetch,made,cut,policyFrom]

theorem fetchGoes (config : Config) (reply : Http.Reply) (now : Instant) :
    config.Fetched reply now (config.fetch reply now) := by
  cases made : config.policyRequest with
  | error fault =>
    rw [fetchBroken (.unmade made)]
    exact .broken (.unmade made)
  | ok request =>
    cases reply with
    | broken =>
      rw [fetchBroken (.unsent made rfl)]
      exact .broken (.unsent made rfl)
    | cut status =>
      rw [fetchBroken (.cut made rfl)]
      exact .broken (.cut made rfl)
    | whole status bytes =>
      have arrives : config.Arrives (.whole status bytes) status bytes := ⟨⟨request,made⟩,rfl⟩
      cases verdict : config.accept status (Utf8.decodeLossy bytes) now with
      | ok policy =>
        rw [fetchGranted arrives verdict]
        exact .granted arrives verdict
      | error e =>
        rw [fetchRefused arrives verdict]
        exact .refused arrives verdict

theorem fetchIff {result : Except PolicyFailure Policy} :
    config.fetch reply now = result ↔ config.Fetched reply now result := by
  constructor
  · rintro rfl
    exact fetchGoes config reply now
  · intro fetched
    cases fetched with
    | granted arrives accepted => exact fetchGranted arrives accepted
    | refused arrives refused => exact fetchRefused arrives refused
    | broken breaks => exact fetchBroken breaks

theorem fetchVerbatim {request : Http.Request} (made : config.policyRequest = .ok request)
    {status : Nat} {text : String} {error : PolicyError}
    (refused : config.accept status text now = .error error) :
    config.fetch (.whole status (Utf8.encode text)) now =
      .error ⟨some status,text,error.message⟩ := by
  have arrives : config.Arrives (.whole status (Utf8.encode text)) status (Utf8.encode text) :=
    ⟨⟨request,made⟩,rfl⟩
  rw [fetchRefused arrives (by rwa [Utf8.lossyEncode]),Utf8.lossyEncode]

end Fetch
end Config

namespace Uploader

structure Tells (u : Uploader) (said : List Effect) : Prop where
  alike : denials said = (answers said).filterMap denial
  busy : u.isUploading = true → denials said = []

theorem callTells {u v : Uploader} {e : Event} {said : List Effect} (call : e.isCall = true)
    (step : u.step? e = some (v,said)) : Tells u said := by
  have spoke := callSpeaks call step
  cases spoke with
  | hid shown hidden empty same => exact ⟨rfl,fun _ => rfl⟩
  | @told _ answer messages plain same stays =>
    have own : (answers [.answer answer]).filterMap denial = [] := List.filterMap_cons_none plain
    refine ⟨?_,fun _ => by rw [denialsAppend,denialsNotices]; rfl⟩
    rw [denialsAppend,denialsNotices,answersAppend,answersNotices,List.nil_append,List.nil_append,
      own]
    rfl
  | denied messages failure free same stays =>
    refine ⟨?_,fun busy => by simp [isUploading,free] at busy⟩
    rw [denialsAppend,denialsNotices,answersAppend,answersNotices]
    rfl
  | asked messages free made begins awaits stays =>
    refine ⟨?_,fun busy => by simp [isUploading,free] at busy⟩
    rw [denialsAppend,denialsNotices,answersAppend,answersNotices]
    rfl

theorem stepAlike {u v : Uploader} {e : Event} {said : List Effect} (step : u.step? e = some (v,said)) :
    denials said = (answers said).filterMap denial := by
  cases call : e.isCall with
  | true => exact (callTells call step).alike
  | false => exact (answerWithin (answerCases call step)).denials

theorem runAlike {u w : Uploader} {events : List Event} {effects : List Effect}
    (run : u.run? events = some (w,effects)) : denials effects = (answers effects).filterMap denial := by
  induction events generalizing u effects with
  | nil =>
    obtain ⟨-,rfl⟩ := runNil.mp run
    rfl
  | cons e rest ih =>
    obtain ⟨v,said,more,next,later,rfl⟩ := runCons.mp run
    rw [denialsAppend,answersAppend,List.filterMap_append,stepAlike next,ih later]

theorem advanceUndenied (u : Uploader) (origin : Origin) (t : Transfer) :
    denials (u.advance origin t).2 = [] := by
  rw [(advanceComes u origin t).within.denials]
  rcases advanceAnswers u origin t with silent | ⟨objects,one⟩
  · rw [silent]
    rfl
  · rw [one]
    cases origin <;> rfl

def Event.isPolicy : Event → Bool
  | .policyAnswered .. => true
  | _ => false

theorem Course.waits {v a : Uploader} {calls : List Event} {said : List Effect} (sound : Sound v)
    (course : Course v calls said a) (unanswered : ∀ e ∈ calls, e.isPolicy = false)
    {origin request waiting} (awaiting : v.batch = some ⟨origin,.awaitingPolicy request waiting⟩) :
    a.batch = some ⟨origin,.awaitingPolicy request waiting⟩ ∧ a.config = v.config ∧
      denials said = [] := by
  induction course with
  | refl => exact ⟨awaiting,rfl,rfl⟩
  | @step a b calls said e more earlier busy next ih =>
    obtain ⟨under,config,silent⟩ := ih fun e mem => unanswered e (List.mem_append_left _ mem)
    cases call : e.isCall with
    | true =>
      have called := (earlier.sound sound).called call next
      refine ⟨called.keeps busy ▸ under,called.config.trans config,?_⟩
      rw [denialsAppend,silent,(callTells call next).busy busy]
      rfl
    | false =>
      have other := unanswered e (List.mem_append_right _ List.mem_cons_self)
      have answer := answerCases call next
      generalize (b,more) = result at answer
      cases answer with
      | denied _ _ => cases other
      | granted _ _ _ => cases other
      | unsent under' _ _ => cases under'.symm.trans under
      | posted under' _ _ => cases under'.symm.trans under
      | replied under' _ => cases under'.symm.trans under

inductive Denied (u : Uploader) (call : Event) (reply : Http.Reply) (now : Instant)
    (failure : PolicyFailure) : Prop where
  | atOnce {v said} (step : u.step? call = some (v,said)) (unasked : requests said = [])
      (told : denials said = [failure]) (answered : answers said = [.failed (.policyFailed failure)])
  | later {request v asked} (step : u.step? call = some (v,asked)) (asks : requests asked = [request])
      (ends : ∀ {calls said a}, Course v calls said a → (∀ e ∈ calls, e.isPolicy = false) →
        ∀ supply, ∃ w last, a.step? (.policyAnswered reply now supply) = some (w,last) ∧
          denials (asked ++ said ++ last) = [failure] ∧
          answers last = [.failed (.policyFailed failure)])

section Start
variable {u v : Uploader} {call : Event} {asked : List Effect}

theorem startedUndenied (sound : Sound u) (free : u.batch = none) (starts : Starts u call)
    {request : Http.Request} (made : u.config.policyRequest = .ok request)
    (step : u.step? call = some (v,asked)) {a : Uploader} {calls : List Event} {said : List Effect}
    (course : Course v calls said a) (unanswered : ∀ e ∈ calls, e.isPolicy = false) :
    (∃ origin waiting, a.batch = some ⟨origin,.awaitingPolicy request waiting⟩) ∧
      a.config = u.config ∧ denials (asked ++ said) = [] := by
  have opens := startsOpens sound free starts made step
  obtain ⟨origin,begun⟩ := opens.awaits
  obtain ⟨awaiting,config,silent⟩ := course.waits (stepSound sound step) unanswered begun
  refine ⟨⟨_,_,awaiting⟩,config.trans (stepLater sound step).config,?_⟩
  rw [denialsAppend,silent,stepAlike step,opens.unanswered]
  rfl

theorem startDenied (sound : Sound u) (free : u.batch = none) (starts : Starts u call)
    {reply : Http.Reply} {now : Instant} {failure : PolicyFailure}
    (fetched : u.config.fetch reply now = .error failure) : Denied u call reply now failure := by
  obtain ⟨v,asked,step⟩ := startsRuns starts
  cases made : u.config.policyRequest with
  | error fault =>
    rw [Config.fetchBroken (.unmade made)] at fetched
    cases fetched
    have fails := startsFails sound.toListed free starts made step
    refine .atOnce step fails.unasked ?_ fails.answered
    rw [stepAlike step,fails.answered]
    rfl
  | ok request =>
    simp only [Config.fetch,made] at fetched
    refine .later step (startsOpens sound free starts made step).asked ?_
    intro calls said a course unanswered supply
    obtain ⟨⟨origin,waiting,awaiting⟩,config,silent⟩ :=
      startedUndenied sound free starts made step course unanswered
    obtain ⟨w,last,answered,-,-,told,-⟩ :=
      policyDenied (course.sound (stepSound sound step)) awaiting (config ▸ fetched) supply
    refine ⟨w,last,answered,?_,told⟩
    rw [denialsAppend,silent,stepAlike answered,told]
    rfl

theorem startGranted (sound : Sound u) (free : u.batch = none) (starts : Starts u call)
    {reply : Http.Reply} {now : Instant} {policy : Policy}
    (fetched : u.config.fetch reply now = .ok policy) (step : u.step? call = some (v,asked))
    {a w : Uploader} {calls : List Event} {said last : List Effect} (course : Course v calls said a)
    (unanswered : ∀ e ∈ calls, e.isPolicy = false) {supply : Supply}
    (answered : a.step? (.policyAnswered reply now supply) = some (w,last)) :
    denials (asked ++ said ++ last) = [] := by
  cases made : u.config.policyRequest with
  | error fault =>
    rw [Config.fetchBroken (.unmade made)] at fetched
    cases fetched
  | ok request =>
    simp only [Config.fetch,made] at fetched
    obtain ⟨⟨origin,waiting,awaiting⟩,config,silent⟩ :=
      startedUndenied sound free starts made step course unanswered
    rw [denialsAppend,silent,List.nil_append]
    have answer := answerCases rfl answered
    generalize result : (w,last) = r at answer
    cases answer with
    | denied awaiting' denied =>
      cases awaiting.symm.trans awaiting'
      rw [config,fetched] at denied
      cases denied
    | granted awaiting' granted given =>
      rw [show last = _ from congrArg Prod.snd result]
      exact advanceUndenied _ _ _

end Start

structure Faithful (config : Config) (u : Uploader) (effects : List Effect) : Prop where
  fetched : ∀ reply now result, config.fetch reply now = result ↔ config.Fetched reply now result
  verbatim : ∀ {request status text error now}, config.policyRequest = .ok request →
    config.accept status text now = .error error →
      config.fetch (.whole status (Utf8.encode text)) now = .error ⟨some status,text,error.message⟩
  paired : denials effects = (answers effects).filterMap denial
  denied : u.isUploading = false → ∀ {call}, Starts u call → ∀ {reply now failure},
    config.fetch reply now = .error failure → Denied u call reply now failure
  granted : u.isUploading = false → ∀ {call}, Starts u call → ∀ {reply now policy},
    config.fetch reply now = .ok policy → ∀ {v asked}, u.step? call = some (v,asked) →
      ∀ {calls said a}, Course v calls said a → (∀ e ∈ calls, e.isPolicy = false) →
        ∀ {supply w last}, a.step? (.policyAnswered reply now supply) = some (w,last) →
          denials (asked ++ said ++ last) = []

theorem policyReports {config : Config} {start u : Uploader} {events : List Event}
    {effects : List Effect} (ready : render config = .ok start)
    (run : start.run? events = some (u,effects)) : Faithful config u effects := by
  have sound := runSound (renderedSound ready) run
  have same : u.config = config := by
    rw [(runLater (renderedSound ready) run).config]
    obtain ⟨kind,rfl⟩ := renderedFresh ready
    rfl
  subst same
  exact {
    fetched := fun _ _ _ => Config.fetchIff
    verbatim := fun made refused => Config.fetchVerbatim made refused
    paired := runAlike run
    denied := fun idle _ starts _ _ _ failed => startDenied sound (idleIff.mp idle) starts failed
    granted := fun idle _ starts _ _ _ given _ _ step _ _ _ course unanswered _ _ _ answered =>
      startGranted sound (idleIff.mp idle) starts given step course unanswered answered }

def refusing : List Event :=
  [.choose sampleDisk [[97],[98]],.start,.policyAnswered .broken ⟨0,0⟩ sampleSupply]

def refusedTwo : Result := (sample true).after refusing

theorem badGatewayReported : render (sampleConfig true) = .ok (sample true) ∧
    (sample true).run? refusing = some (refusedTwo.1,refusedTwo.2) ∧
    Faithful (sampleConfig true) refusedTwo.1 refusedTwo.2 ∧
    Denied refusedTwo.1 .start (.whole 502 (Utf8.encode "bad gateway")) ⟨0,0⟩
      ⟨some 502,"bad gateway","Policy endpoint answered with status 502"⟩ := by
  have run : (sample true).run? refusing = some (refusedTwo.1,refusedTwo.2) :=
    runAfter (by decide +kernel)
  have faithful := policyReports (sampleRendered true) run
  have waits : waitingIds refusedTwo.1.files ≠ [] := by decide +kernel
  exact ⟨sampleRendered true,run,faithful,
    faithful.denied (by decide +kernel) (.start waits) (by decide +kernel)⟩

end Uploader
end SignedUpload

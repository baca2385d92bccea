import SignedUpload.Proofs.Confluence
import SignedUpload.Proofs.Options
import SignedUpload.Proofs.Requests
import SignedUpload.Proofs.Selections

/-! The two modes of an uploader. A choice in single mode, and a choice followed by a start in multiple
mode, put the same files on their way and take the same answers; they differ in whom they answer to and
in what they keep of the list once the batch is over. -/
namespace SignedUpload.Uploader

theorem relMap {α β γ δ : Type} {before : α → β → Prop} {after : γ → δ → Prop} (f : α → γ) (g : β → δ)
    (carries : ∀ {x y}, before x y → after (f x) (g y)) {a : Option α} {b : Option β}
    (rel : Option.Rel before a b) : Option.Rel after (a.map f) (b.map g) := by
  cases rel with
  | none => exact .none
  | some held => exact .some (carries held)

def twin (u : Uploader) : Uploader :=
  { u with
    config := { u.config with multiple := true }
    snapshot := []
    dialogOpen := true
    batch := u.batch.map fun batch => ⟨.start,batch.phase⟩ }

structure Untold (effects : List Effect) : Prop where
  answers : answers effects = []
  reports : reports effects = []

theorem Untold.append {xs ys : List Effect} (left : Untold xs) (right : Untold ys) :
    Untold (xs ++ ys) := by
  constructor <;> simp [left.answers,right.answers,left.reports,right.reports]

inductive Paired (staged : List FileId) : Result → Result → Prop where
  | going {u said phase} (under : u.batch = some ⟨.choice staged,phase⟩) (untold : Untold said) :
      Paired staged (u,said) (u.twin,said)
  | reported {u v said} (objects : List UploadedObject) (idle : u.isUploading = false)
      (idle' : v.isUploading = false) (last : u.lastId = v.lastId) (untold : Untold said) :
      Paired staged (u,said ++ [.allUploaded objects,.answer (.staged staged)])
        (v,said ++ [.allUploaded objects,.answer (.uploaded objects)])
  | denied {u v said} (failure : PolicyFailure) (idle : u.isUploading = false)
      (idle' : v.isUploading = false) (last : u.lastId = v.lastId) (untold : Untold said) :
      Paired staged (u,said ++ [.policyFailed failure,.answer (.failed (.policyFailed failure))])
        (v,said ++ [.policyFailed failure,.answer (.failed (.policyFailed failure))])

section Steps
variable {u : Uploader} {staged : List FileId}

theorem Paired.after {said : List Effect} (untold : Untold said) {r s : Result}
    (paired : Paired staged r s) : Paired staged (r.1,said ++ r.2) (s.1,said ++ s.2) := by
  cases paired with
  | going under more => exact .going under (untold.append more)
  | reported objects idle idle' last more =>
    simp only [← List.append_assoc]
    exact .reported objects idle idle' last (untold.append more)
  | denied failure idle idle' last more =>
    simp only [← List.append_assoc]
    exact .denied failure idle idle' last (untold.append more)

theorem advancePaired (u : Uploader) (staged : List FileId) (t : Transfer) :
    Paired staged (u.advance (.choice staged) t) (u.twin.advance .start t) := by
  rcases advanceCases u (.choice staged) t with ⟨empty,finished⟩ | ⟨nonempty,going⟩
  · rcases advanceCases u.twin .start t with ⟨-,finished'⟩ | ⟨nonempty,-⟩
    · rw [finished,finished',reportEq,reportEq]
      have last : u.settled.lastId = u.twin.settled.lastId := by
        rw [u.settledRest.2.1,u.twin.settledRest.2.1]
        rfl
      exact @Paired.reported staged _ _ [] _ (by simp [isUploading,u.settledRest.1])
        (by simp [isUploading,u.twin.settledRest.1]) last ⟨rfl,rfl⟩
    · exact absurd empty nonempty
  · rcases advanceCases u.twin .start t with ⟨empty,-⟩ | ⟨-,going'⟩
    · exact absurd empty nonempty
    · rw [going,going']
      exact .going rfl ⟨answersLoads _,reportsLoads _⟩

theorem resolvePaired (u : Uploader) (staged : List FileId) (t : Transfer) (job : Job)
    (outcome : Except UploadError Unit) :
    Paired staged (u.resolve (.choice staged) t job outcome) (u.twin.resolve .start t job outcome) := by
  rw [resolveEq,resolveEq]
  exact advancePaired _ staged _

theorem deniedIdle (u : Uploader) (origin : Origin) :
    (({ u with batch := none } : Uploader).takeBack origin).isUploading = false := by
  rw [isUploading,(takeBackRest _ origin).1]
  rfl

theorem answerPaired {phase : Phase} (under : u.batch = some ⟨.choice staged,phase⟩) {e : Event}
    (answer : e.isCall = false) : Option.Rel (Paired staged) (u.step? e) (u.twin.step? e) := by
  have under' : u.twin.batch = some ⟨.start,phase⟩ := by simp [twin,under]
  cases e with
  | policyAnswered reply now supply =>
    simp only [step?,policyAnswered,under,under']
    cases phase with
    | transferring t => exact .none
    | awaitingPolicy request waiting =>
      have same : u.twin.config.policyFrom request reply now =
          u.config.policyFrom request reply now := rfl
      simp only [same]
      cases u.config.policyFrom request reply now with
      | error failure =>
        simp only [policyFailedEq]
        exact .some (@Paired.denied staged _ _ [] failure (deniedIdle u _) (deniedIdle u.twin _) rfl
          ⟨rfl,rfl⟩)
      | ok policy =>
        have keys : dispatch (.fresh u.twin.config.prefixPath) supply 0 u.twin.files waiting =
            dispatch (.fresh u.config.prefixPath) supply 0 u.files waiting := rfl
        simp only [keys]
        cases dispatch (.fresh u.config.prefixPath) supply 0 u.files waiting with
        | none => exact .none
        | some given => exact .some (advancePaired { u with files := given.2 } staged _)
  | fileRead position contents =>
    simp only [step?,fileRead,under,under']
    cases phase with
    | awaitingPolicy request waiting => exact .none
    | transferring t =>
      simp only
      cases flight? t position with
      | none => exact .none
      | some flight =>
        obtain ⟨job,stage⟩ := flight
        cases stage with
        | posting request => exact .none
        | reading =>
          cases contents with
          | error fault => exact .some (resolvePaired u staged t job _)
          | ok data =>
            have form : u.twin.config.storageRequest job.key t.policy ⟨job.name,job.contentType,data⟩ =
                u.config.storageRequest job.key t.policy ⟨job.name,job.contentType,data⟩ := rfl
            simp only [form]
            cases u.config.storageRequest job.key t.policy ⟨job.name,job.contentType,data⟩ with
            | error fault => exact .some (resolvePaired u staged t job _)
            | ok request => exact .some (.going rfl ⟨rfl,rfl⟩)
  | postAnswered position reply =>
    simp only [step?,postAnswered,under,under']
    cases phase with
    | awaitingPolicy request waiting => exact .none
    | transferring t =>
      simp only
      cases flight? t position with
      | none => exact .none
      | some flight =>
        obtain ⟨job,stage⟩ := flight
        cases stage with
        | reading => exact .none
        | posting request => exact .some (resolvePaired u staged t job _)
  | openDialog => cases answer
  | closeDialog => cases answer
  | choose disk paths => cases answer
  | remove id => cases answer
  | retry id => cases answer
  | start => cases answer

theorem idleStops {u : Uploader} (idle : u.isUploading = false) {e : Event} {rest : List Event}
    (answer : ∀ x ∈ e :: rest, x.isCall = false) : u.run? (e :: rest) = none := by
  cases ran : u.run? (e :: rest) with
  | none => rfl
  | some r =>
    have stopped := idleRun ran answer (idleIff.mp idle)
    cases stopped.1

theorem Paired.run {r s : Result} (paired : Paired staged r s) {events : List Event}
    (answer : ∀ e ∈ events, e.isCall = false) :
    Option.Rel (Paired staged) ((r.1.run? events).map fun x => (x.1,r.2 ++ x.2))
      ((s.1.run? events).map fun x => (x.1,s.2 ++ x.2)) := by
  induction events generalizing r s with
  | nil =>
    simp only [run?,Option.map_some,List.append_nil]
    exact .some paired
  | cons e rest ih =>
    have later : ∀ e ∈ rest, e.isCall = false := fun e mem => answer e (List.mem_cons_of_mem _ mem)
    cases paired with
    | @going u said phase under untold =>
      have step := answerPaired under (answer e List.mem_cons_self)
      simp only [run?]
      generalize u.step? e = one at step
      generalize u.twin.step? e = other at step
      cases step with
      | none => exact .none
      | some paired =>
        have both := ih (paired.after untold) later
        simpa only [Option.map_map,Function.comp_def,List.append_assoc] using both
    | reported objects idle idle' last untold =>
      rw [idleStops idle answer,idleStops idle' answer]
      exact .none
    | denied failure idle idle' last untold =>
      rw [idleStops idle answer,idleStops idle' answer]
      exact .none

end Steps

theorem chooseMultiple (u : Uploader) (disk : Disk) (paths : List Path)
    (multiple : u.config.multiple = true) : u.choose disk paths =
      ({ u with
          dialogOpen := true
          files := u.files ++ stageFrom (u.lastId + 1) (u.picked disk paths)
          lastId := u.lastId + (u.picked disk paths).length },
        (Selection.of u.filter disk paths).notices.map .notice ++
          [.answer (.staged (List.range' (u.lastId + 1) (u.picked disk paths).length))]) := by
  simp only [choose,if_pos multiple,stage,stageFromLength,stageFromIds]
  rfl

def unused (config : Config) (kind : FileKind) (multiple : Bool) : Uploader :=
  ⟨{ config with multiple := multiple },kind,[],[],0,false,none⟩

section Start
variable (config : Config) (kind : FileKind) (disk : Disk) (paths : List Path)

theorem unusedRendered {config : Config} (valid : config.validate = .ok ()) : ∃ kind,
    ∀ multiple, render { config with multiple := multiple } = .ok (unused config kind multiple) := by
  obtain ⟨kind,known⟩ := (Config.validated valid).kind
  refine ⟨kind,fun multiple => ?_⟩
  have valid' : ({ config with multiple := multiple } : Config).validate = .ok () := by
    simpa only [Config.validate,Config.checkHost,Config.checkExtraFields,Config.fileKind] using valid
  have known' : ({ config with multiple := multiple } : Config).fileKind = .ok kind := by
    simpa only [Config.fileKind] using known
  simp only [render,valid',known',unused]

def pickedIds : List FileId :=
  List.range' 1 ((unused config kind false).picked disk paths).length

def pickedNotices : List Effect :=
  (Selection.of (unused config kind false).filter disk paths).notices.map .notice

variable {config kind disk paths}

theorem unusedUnseen : (unused config kind false).unseen disk paths =
    (unused config kind false).picked disk paths :=
  List.filter_eq_self.mpr fun _ _ => rfl

theorem unusedSubmission : ((unused config kind false).submission disk paths).map (·.id) =
    pickedIds config kind disk paths := by
  rw [submission,stageFromIds,unusedUnseen]
  rfl

def unusedStaged (config : Config) (kind : FileKind) (disk : Disk) (paths : List Path) : Uploader :=
  { unused config kind true with
    dialogOpen := true
    files := ((unused config kind false).submit disk paths).files
    lastId := ((unused config kind false).submit disk paths).lastId }

theorem unusedChoice : (unused config kind true).choose disk paths =
    (unusedStaged config kind disk paths,pickedNotices config kind disk paths ++
      [.answer (.staged (pickedIds config kind disk paths))]) := by
  have same : (unused config kind true).picked disk paths =
      (unused config kind false).picked disk paths := rfl
  rw [chooseMultiple _ _ _ rfl]
  simp only [unusedStaged,submit,submission,unusedUnseen,stageFromLength,same]
  rfl

theorem modesStart (nonempty : (unused config kind false).picked disk paths ≠ []) : ∃ r s,
    (unused config kind false).step? (.choose disk paths) =
      some (r.1,pickedNotices config kind disk paths ++ r.2) ∧
    (unusedStaged config kind disk paths).step? .start = some s ∧
    Paired (pickedIds config kind disk paths) r s := by
  have waits : waitingIds ((unused config kind false).submit disk paths).files ≠ [] := by
    rw [waitingSubmission,unusedSubmission]
    exact List.append_ne_nil_of_right_ne_nil _ (by simpa [pickedIds] using nonempty)
  have alone : (unused config kind false).step? (.choose disk paths) =
      some ((((unused config kind false).submit disk paths).begin
          (.choice (pickedIds config kind disk paths))).1,
        pickedNotices config kind disk paths ++ (((unused config kind false).submit disk paths).begin
          (.choice (pickedIds config kind disk paths))).2) := by
    rw [step?,chooseSingle _ _ _ rfl,unusedUnseen,if_neg nonempty,unusedSubmission]
    rfl
  refine ⟨_,_,alone,rfl,?_⟩
  cases made : config.policyRequest with
  | error fault =>
    rw [beginUnmade (u := (unused config kind false).submit disk paths) rfl waits _ made,
      beginUnmade (u := unusedStaged config kind disk paths) rfl waits _ made]
    exact @Paired.denied _ _ _ [] _ rfl rfl rfl ⟨rfl,rfl⟩
  | ok request =>
    rw [beginMade (u := (unused config kind false).submit disk paths) rfl waits _ made,
      beginMade (u := unusedStaged config kind disk paths) rfl waits _ made]
    exact .going rfl ⟨rfl,rfl⟩

end Start

def heard (effects : List Effect) : List Effect :=
  effects.filter fun | .answer _ => false | _ => true

inductive SameEnd (ids : List FileId) (r s : Result) : Prop where
  | going (phase : Phase) (under : r.1.batch = some ⟨.choice ids,phase⟩)
      (under' : s.1.batch = some ⟨.start,phase⟩) (files : r.1.files = s.1.files)
      (alone : answers r.2 = []) (both : answers s.2 = [.staged ids])
  | failed (error : UploadError) (idle : r.1.isUploading = false) (idle' : s.1.isUploading = false)
      (alone : answers r.2 = [.failed error]) (both : answers s.2 = [.staged ids,.failed error])
  | succeeded (objects : List UploadedObject) (idle : r.1.isUploading = false)
      (idle' : s.1.isUploading = false) (reported : reports r.2 = [objects])
      (alone : answers r.2 = [.staged ids]) (both : answers s.2 = [.staged ids,.uploaded objects])

structure SameUpload (ids : List FileId) (r s : Result) : Prop where
  heard : heard r.2 = heard s.2
  last : r.1.lastId = s.1.lastId
  ended : SameEnd ids r s

theorem Paired.same {ids : List FileId} {r s : Result} (paired : Paired ids r s)
    (notices : List String) : SameUpload ids (r.1,notices.map .notice ++ r.2)
      (s.1,notices.map .notice ++ [.answer (.staged ids)] ++ s.2) := by
  have mute := answersNotices notices
  cases paired with
  | going under untold =>
    refine ⟨by simp [Uploader.heard],rfl,.going _ under ?_ rfl ?_ ?_⟩
    · simp [twin,under]
    · simp only [answersAppend,mute,untold.answers,List.nil_append]
    · simp only [answersAppend,mute,untold.answers]
      rfl
  | reported objects idle idle' last untold =>
    refine ⟨by simp [Uploader.heard],last,.succeeded objects idle idle' ?_ ?_ ?_⟩
    · simp only [reportsAppend,(quietNotices notices).reports,untold.reports]
      rfl
    · simp only [answersAppend,mute,untold.answers]
      rfl
    · simp only [answersAppend,mute,untold.answers]
      rfl
  | denied failure idle idle' last untold =>
    refine ⟨by simp [Uploader.heard],last,.failed (.policyFailed failure) idle idle' ?_ ?_⟩
    · simp only [answersAppend,mute,untold.answers]
      rfl
    · simp only [answersAppend,mute,untold.answers]
      rfl

theorem modesRun {config : Config} {kind : FileKind} {disk : Disk} {paths : List Path}
    (nonempty : (unused config kind false).picked disk paths ≠ []) {events : List Event}
    (answer : ∀ e ∈ events, e.isCall = false) :
    Option.Rel (SameUpload (pickedIds config kind disk paths))
      ((unused config kind false).run? (.choose disk paths :: events))
      ((unused config kind true).run? (.choose disk paths :: .start :: events)) := by
  obtain ⟨r,s,alone,started,paired⟩ := modesStart nonempty
  have chosen : (unused config kind true).step? (.choose disk paths) =
      some (unusedStaged config kind disk paths,pickedNotices config kind disk paths ++
        [.answer (.staged (pickedIds config kind disk paths))]) := congrArg some unusedChoice
  have runs := relMap (fun x : Result => (x.1,pickedNotices config kind disk paths ++ x.2))
    (fun y : Result => (y.1,pickedNotices config kind disk paths ++
      [.answer (.staged (pickedIds config kind disk paths))] ++ y.2))
    (fun pair => pair.same _) (paired.run answer)
  simpa only [run?,alone,chosen,started,Option.map_map,Function.comp_def,List.append_assoc,
    pickedNotices] using runs

theorem heardParts {β : Type} {part : Effect → Option β}
    (deaf : ∀ answer, part (.answer answer) = none) {xs ys : List Effect} (same : heard xs = heard ys) :
    xs.filterMap part = ys.filterMap part := by
  have own : ∀ effects, (heard effects).filterMap part = effects.filterMap part := by
    intro effects
    rw [heard,List.filterMap_filter]
    apply List.filterMap_congr
    intro effect _
    cases effect with
    | answer answer => simp [deaf]
    | _ => rfl
  rw [← own xs,same,own]

structure Within (effects : List Effect) : Prop where
  notices : notices effects = []
  requests : requests effects = []
  denials : denials effects = (answers effects).filterMap denial

theorem Within.append {xs ys : List Effect} (left : Within xs) (right : Within ys) :
    Within (xs ++ ys) where
  notices := by rw [noticesAppend,left.notices,right.notices,List.append_nil]
  requests := by rw [requestsAppend,left.requests,right.requests,List.append_nil]
  denials := by
    rw [denialsAppend,answersAppend,List.filterMap_append,left.denials,right.denials]

theorem Comes.within {origin : Origin} {result : Result} (comes : Comes origin result) :
    Within result.2 := by
  cases comes with
  | reading jobs under =>
    refine ⟨noticesLoads jobs,requestsLoads jobs,?_⟩
    rw [denialsLoads,answersLoads]
    rfl
  | posting job request under => exact ⟨rfl,rfl,rfl⟩
  | reported objects free => cases origin <;> exact ⟨rfl,rfl,rfl⟩
  | denied failure free => exact ⟨rfl,rfl,rfl⟩

theorem answerWithin {u : Uploader} {e : Event} {result : Result} (answered : Answered u e result) :
    Within result.2 := by
  obtain ⟨origin,phase,under,comes⟩ := answerComes answered
  exact comes.within

theorem runWithin {u w : Uploader} {events : List Event} {effects : List Effect}
    (answer : ∀ e ∈ events, e.isCall = false) (run : u.run? events = some (w,effects)) :
    Within effects := by
  induction events generalizing u effects with
  | nil =>
    obtain ⟨-,rfl⟩ := runNil.mp run
    exact ⟨rfl,rfl,rfl⟩
  | cons e rest ih =>
    obtain ⟨v,said,more,next,later,rfl⟩ := runCons.mp run
    exact (answerWithin (answerCases (answer e List.mem_cons_self) next)).append
      (ih (fun e mem => answer e (List.mem_cons_of_mem _ mem)) later)

structure SameOutcome (ids : List FileId) (r s : Result) : Prop where
  notices : notices r.2 = notices s.2
  requests : requests r.2 = requests s.2
  posts : (posts r.2).Perm (posts s.2)
  reports : reports r.2 = reports s.2
  denials : denials r.2 = denials s.2
  last : r.1.lastId = s.1.lastId
  ended : SameEnd ids r s

theorem SameUpload.outcome {ids : List FileId} {r s : Result} (same : SameUpload ids r s) :
    SameOutcome ids r s where
  notices := heardParts (fun _ => rfl) same.heard
  requests := heardParts (fun _ => rfl) same.heard
  posts := .of_eq (heardParts (fun _ => rfl) same.heard)
  reports := heardParts (fun _ => rfl) same.heard
  denials := heardParts (fun _ => rfl) same.heard
  last := same.last
  ended := same.ended

section Orders
variable {u w₁ w₂ : Uploader} {call : Event} {reply : Http.Reply} {now : Instant} {supply : Supply}
  {contents : Nat → Except DiskFault Bytes} {replies : Nat → Http.Reply} {events₁ events₂ : List Event}
  {effects₁ effects₂ : List Effect} (reachable : Reachable u)
  (run₁ : u.run? (call :: .policyAnswered reply now supply :: events₁) = some (w₁,effects₁))
  (run₂ : u.run? (call :: .policyAnswered reply now supply :: events₂) = some (w₂,effects₂))
  (follows₁ : ∀ e ∈ events₁, Follows contents replies e)
  (follows₂ : ∀ e ∈ events₂, Follows contents replies e)
  (finished₁ : w₁.isUploading = false) (finished₂ : w₂.isUploading = false)
include reachable run₁ run₂ follows₁ follows₂ finished₁ finished₂

theorem ordersHeard : answers effects₁ = answers effects₂ ∧ notices effects₁ = notices effects₂ ∧
    requests effects₁ = requests effects₂ ∧ (posts effects₁).Perm (posts effects₂) ∧
    reports effects₁ = reports effects₂ ∧ denials effects₁ = denials effects₂ ∧
    w₁.lastId = w₂.lastId := by
  obtain ⟨v,asked,more₁,called,later₁,rfl⟩ := runCons.mp run₁
  obtain ⟨v',asked',more₂,called',later₂,rfl⟩ := runCons.mp run₂
  rw [called] at called'
  cases called'
  have sound := stepSound (reachableSound reachable) called
  have own₁ : (v.withLimit v.config.maxConcurrency).run? _ = some (w₁,more₁) := later₁
  have own₂ : (v.withLimit v.config.maxConcurrency).run? _ = some (w₂,more₂) := later₂
  obtain ⟨told,reported,posted,w,rfl,rfl⟩ :=
    batchesAgree follows₁ follows₂ sound own₁ own₂ finished₁ finished₂
  have within₁ := runWithin (List.forall_mem_cons.mpr ⟨rfl,followsAnswer follows₁⟩) later₁
  have within₂ := runWithin (List.forall_mem_cons.mpr ⟨rfl,followsAnswer follows₂⟩) later₂
  refine ⟨?_,?_,?_,?_,?_,?_,rfl⟩
  · rw [answersAppend,answersAppend,told]
  · rw [noticesAppend,noticesAppend,within₁.notices,within₂.notices]
  · rw [requestsAppend,requestsAppend,within₁.requests,within₂.requests]
  · rw [postsAppend,postsAppend]
    exact posted.append_left _
  · rw [reportsAppend,reportsAppend,reported]
  · rw [denialsAppend,denialsAppend,within₁.denials,within₂.denials,told]

end Orders

theorem SameEnd.swap {ids : List FileId} {r r' s : Result} (ended : SameEnd ids r s)
    (finished : s.1.isUploading = false) (idle : r'.1.isUploading = false)
    (told : answers r'.2 = answers r.2) (reported : reports r'.2 = reports r.2) :
    SameEnd ids r' s := by
  cases ended with
  | going phase under under' files alone both => simp [isUploading,under'] at finished
  | failed error _ idle' alone both => exact .failed error idle idle' (told.trans alone) both
  | succeeded objects _ idle' one alone both =>
    exact .succeeded objects idle idle' (reported.trans one) (told.trans alone) both

theorem SameEnd.finishes {ids : List FileId} {r s : Result} (ended : SameEnd ids r s)
    (finished : s.1.isUploading = false) : r.1.isUploading = false := by
  cases ended with
  | going phase under under' files alone both => simp [isUploading,under'] at finished
  | failed error idle _ _ _ => exact idle
  | succeeded objects idle _ _ _ _ => exact idle

section Modes
variable {config : Config} {kind : FileKind} {disk : Disk} {paths : List Path} {reply : Http.Reply}
  {now : Instant} {supply : Supply} {contents : Nat → Except DiskFault Bytes}
  {replies : Nat → Http.Reply} {events₁ events₂ : List Event} {r s : Result}

theorem modesOutcome (reachable : Reachable (unused config kind false))
    (nonempty : (unused config kind false).picked disk paths ≠ [])
    (run₁ : (unused config kind false).run?
      (.choose disk paths :: .policyAnswered reply now supply :: events₁) = some r)
    (run₂ : (unused config kind true).run?
      (.choose disk paths :: .start :: .policyAnswered reply now supply :: events₂) = some s)
    (follows₁ : ∀ e ∈ events₁, Follows contents replies e)
    (follows₂ : ∀ e ∈ events₂, Follows contents replies e)
    (finished₁ : r.1.isUploading = false) (finished₂ : s.1.isUploading = false) :
    SameOutcome (pickedIds config kind disk paths) r s := by
  have rel := modesRun nonempty (List.forall_mem_cons.mpr
    ⟨(rfl : (Event.policyAnswered reply now supply).isCall = false),followsAnswer follows₂⟩)
  rw [run₂] at rel
  generalize ran : (unused config kind false).run? _ = alone at rel
  cases rel with
  | @some r' _ same =>
    have idle := same.ended.finishes finished₂
    obtain ⟨told,noticed,asked,posted,reported,denied,last⟩ :=
      ordersHeard reachable run₁ ran follows₁ follows₂ finished₁ idle
    have outcome := same.outcome
    exact {
      notices := noticed.trans outcome.notices
      requests := asked.trans outcome.requests
      posts := posted.trans outcome.posts
      reports := reported.trans outcome.reports
      denials := denied.trans outcome.denials
      last := last.trans outcome.last
      ended := same.ended.swap finished₂ finished₁ told reported }

/-- A choice of files that can be taken comes to the same in both modes: step by step when the answers
come in one order, and in its outcome in whatever order they come. -/
theorem modesAgree (valid : config.validate = .ok ()) : ∃ kind,
    (∀ multiple, render { config with multiple := multiple } = .ok (unused config kind multiple)) ∧
    ∀ disk paths, acceptedBy (unused config kind false).filter disk paths ≠ [] →
      (∀ events, (∀ e ∈ events, e.isCall = false) →
        Option.Rel (SameUpload (pickedIds config kind disk paths))
          ((unused config kind false).run? (.choose disk paths :: events))
          ((unused config kind true).run? (.choose disk paths :: .start :: events))) ∧
      ∀ {reply now supply contents replies events₁ events₂ r s},
        (unused config kind false).run?
          (.choose disk paths :: .policyAnswered reply now supply :: events₁) = some r →
        (unused config kind true).run?
          (.choose disk paths :: .start :: .policyAnswered reply now supply :: events₂) = some s →
        (∀ e ∈ events₁, Follows contents replies e) → (∀ e ∈ events₂, Follows contents replies e) →
        r.1.isUploading = false → s.1.isUploading = false →
          SameOutcome (pickedIds config kind disk paths) r s := by
  obtain ⟨kind,ready⟩ := unusedRendered valid
  refine ⟨kind,ready,fun disk paths accepted => ?_⟩
  have nonempty : (unused config kind false).picked disk paths ≠ [] := by
    intro nothing
    have ordered := pickedOrder (unused config kind false) disk paths
    rw [pickedPaths,nothing] at ordered
    obtain ⟨path,rest,given⟩ := List.exists_cons_of_ne_nil accepted
    have mem : path ∈ (acceptedBy (unused config kind false).filter disk paths).eraseDups :=
      List.mem_eraseDups.mpr (given ▸ List.mem_cons_self)
    rw [← ordered] at mem
    cases mem
  exact ⟨fun events answer => modesRun nonempty answer,
    fun run₁ run₂ follows₁ follows₂ finished₁ finished₂ =>
      modesOutcome (.rendered (ready false)) nonempty run₁ run₂ follows₁ follows₂ finished₁ finished₂⟩

end Modes

-- Two files in both modes, the second one refused: one by one when chosen in single mode, and
-- crosswise after the start.
def aloneRun : Result :=
  (sample false).after (.choose sampleDisk [[97],[98]] :: sampleAccepted :: oneByOne)

def startedRun : Result :=
  (sample true).after (.choose sampleDisk [[97],[98]] :: .start :: sampleAccepted :: crosswise)

theorem refusedInBoth : (sampleConfig true).validate = .ok () ∧
    acceptedBy (sample false).filter sampleDisk [[97],[98]] ≠ [] ∧
    (sample false).run? (.choose sampleDisk [[97],[98]] :: sampleAccepted :: oneByOne) =
      some aloneRun ∧
    (sample true).run? (.choose sampleDisk [[97],[98]] :: .start :: sampleAccepted :: crosswise) =
      some startedRun ∧
    SameOutcome [1,2] aloneRun startedRun := by
  have valid : (sampleConfig true).validate = .ok () := by decide +kernel
  have accepted : acceptedBy (sample false).filter sampleDisk [[97],[98]] ≠ [] := by
    decide +kernel
  have alone : (sample false).run? (.choose sampleDisk [[97],[98]] :: sampleAccepted :: oneByOne) =
      some aloneRun := runAfter (by decide +kernel)
  have started : (sample true).run?
      (.choose sampleDisk [[97],[98]] :: .start :: sampleAccepted :: crosswise) = some startedRun :=
    runAfter (by decide +kernel)
  have follows₁ : ∀ e ∈ oneByOne, Follows empty firstOnly e := by simp [oneByOne,Follows]
  have follows₂ : ∀ e ∈ crosswise, Follows empty firstOnly e := by simp [crosswise,Follows]
  have finished₁ : aloneRun.1.isUploading = false := by decide +kernel
  have finished₂ : startedRun.1.isUploading = false := by decide +kernel
  obtain ⟨kind,ready,agree⟩ := modesAgree valid
  have file : kind = .file := by
    have same := (ready false).symm.trans (sampleRendered false)
    cases same
    rfl
  subst file
  exact ⟨valid,accepted,alone,started,
    (agree sampleDisk [[97],[98]] accepted).2 alone started follows₁ follows₂ finished₁ finished₂⟩

end SignedUpload.Uploader

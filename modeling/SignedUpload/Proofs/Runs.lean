import SignedUpload.Uploader.Run

/-! Runs, the states they reach, and the stretches of a run that lie within one batch. -/
namespace SignedUpload.Uploader

theorem runCons {u w : Uploader} {e : Event} {rest : List Event} {effects : List Effect} :
    u.run? (e :: rest) = some (w,effects) ↔
      ∃ v said more, u.step? e = some (v,said) ∧ v.run? rest = some (w,more) ∧
        effects = said ++ more := by
  simp only [run?]
  cases next : u.step? e with
  | none => simp
  | some r =>
    obtain ⟨v,said⟩ := r
    simp only [Option.map_eq_some_iff,Prod.exists,Prod.mk.injEq,Option.some.injEq]
    constructor
    · rintro ⟨w',more,later,rfl,rfl⟩
      exact ⟨v,said,more,⟨rfl,rfl⟩,later,rfl⟩
    · rintro ⟨v',said',more,⟨rfl,rfl⟩,later,rfl⟩
      exact ⟨w,more,later,rfl,rfl⟩

theorem runNil {u w : Uploader} {effects : List Effect} :
    u.run? [] = some (w,effects) ↔ w = u ∧ effects = [] := by
  simp [run?,eq_comm]

theorem runAppend {u w : Uploader} {first second : List Event} {effects : List Effect} :
    u.run? (first ++ second) = some (w,effects) ↔
      ∃ v said more, u.run? first = some (v,said) ∧ v.run? second = some (w,more) ∧
        effects = said ++ more := by
  induction first generalizing u effects with
  | nil =>
    constructor
    · intro run
      exact ⟨u,[],effects,rfl,run,rfl⟩
    · rintro ⟨v,said,more,here,later,rfl⟩
      obtain ⟨rfl,rfl⟩ := runNil.mp here
      exact later
  | cons e rest ih =>
    rw [List.cons_append,runCons]
    constructor
    · rintro ⟨v,said,more,next,both,rfl⟩
      obtain ⟨w',more',last,here,later,rfl⟩ := ih.mp both
      exact ⟨w',said ++ more',last,runCons.mpr ⟨v,said,more',next,here,rfl⟩,later,
        (List.append_assoc ..).symm⟩
    · rintro ⟨w',both,last,here,later,rfl⟩
      obtain ⟨v,said,more,next,remaining,rfl⟩ := runCons.mp here
      exact ⟨v,said,more ++ last,next,ih.mpr ⟨w',more,last,remaining,later,rfl⟩,
        List.append_assoc ..⟩

theorem runSnoc {u w : Uploader} {events : List Event} {e : Event} {effects : List Effect} :
    u.run? (events ++ [e]) = some (w,effects) ↔
      ∃ v said more, u.run? events = some (v,said) ∧ v.step? e = some (w,more) ∧
        effects = said ++ more := by
  have one : ∀ {v : Uploader} {more : List Effect},
      v.run? [e] = some (w,more) ↔ v.step? e = some (w,more) := by
    intro v more
    rw [runCons]
    constructor
    · rintro ⟨w',said,rest,next,done,rfl⟩
      obtain ⟨rfl,rfl⟩ := runNil.mp done
      rwa [List.append_nil]
    · intro next
      exact ⟨w,more,[],next,rfl,(List.append_nil _).symm⟩
  rw [runAppend]
  simp only [one]

theorem runSource {u w : Uploader} {events : List Event} {effects : List Effect} {effect : Effect}
    (run : u.run? events = some (w,effects)) (told : effect ∈ effects) :
    ∃ past v done e x said, u.run? past = some (v,done) ∧ v.step? e = some (x,said) ∧
      effect ∈ said := by
  induction events generalizing u effects with
  | nil =>
    obtain ⟨rfl,rfl⟩ := runNil.mp run
    cases told
  | cons e rest ih =>
    obtain ⟨v,said,more,next,later,rfl⟩ := runCons.mp run
    rcases List.mem_append.mp told with first | others
    · exact ⟨[],u,[],e,v,said,rfl,next,first⟩
    · obtain ⟨past,v',done,e',x,said',run',next',told'⟩ := ih later others
      exact ⟨e :: past,v',said ++ done,e',x,said',
        runCons.mpr ⟨v,said,done,next,run',rfl⟩,next',told'⟩

inductive Reachable : Uploader → Prop where
  | rendered {config u} (ready : render config = .ok u) : Reachable u
  | step {u v e effects} (earlier : Reachable u) (next : u.step? e = some (v,effects)) : Reachable v

theorem Reachable.run {u v : Uploader} {events : List Event} {effects : List Effect}
    (reachable : Reachable u) (run : u.run? events = some (v,effects)) : Reachable v := by
  induction events generalizing u effects with
  | nil =>
    obtain ⟨rfl,-⟩ := runNil.mp run
    exact reachable
  | cons e rest ih =>
    obtain ⟨w,said,more,next,later,-⟩ := runCons.mp run
    exact ih (.step reachable next) later

/-- A run that is within a batch before each of its events. -/
inductive Course (u : Uploader) : List Event → List Effect → Uploader → Prop where
  | refl : Course u [] [] u
  | step {v w events effects e said} (earlier : Course u events effects v)
      (busy : v.isUploading = true) (next : v.step? e = some (w,said)) :
      Course u (events ++ [e]) (effects ++ said) w

theorem Course.reachable {u w : Uploader} {events : List Event} {effects : List Effect}
    (course : Course u events effects w) (reachable : Reachable u) : Reachable w := by
  induction course with
  | refl => exact reachable
  | step _ _ next ih => exact .step ih next

theorem Course.cons {u v w : Uploader} {e : Event} {events : List Event} {said effects : List Effect}
    (busy : u.isUploading = true) (next : u.step? e = some (v,said))
    (course : Course v events effects w) : Course u (e :: events) (said ++ effects) w := by
  induction course with
  | refl => simpa using Course.step .refl busy next
  | step _ busy' next' ih =>
    rw [← List.append_assoc]
    exact .step ih busy' next'

def next (u : Uploader) (e : Event) : Result := (u.step? e).getD (u,[])

theorem stepNext {u : Uploader} {e : Event} (ran : (u.step? e).isSome = true) :
    u.step? e = some ((u.next e).1,(u.next e).2) := by
  obtain ⟨result,eq⟩ := Option.isSome_iff_exists.mp ran
  simp [next,eq]

def after (u : Uploader) (events : List Event) : Result := (u.run? events).getD (u,[])

theorem runAfter {u : Uploader} {events : List Event} (ran : (u.run? events).isSome = true) :
    u.run? events = some ((u.after events).1,(u.after events).2) := by
  obtain ⟨result,eq⟩ := Option.isSome_iff_exists.mp ran
  simp [after,eq]

def sampleConfig (multiple : Bool) : Config :=
  { Config.standard with
    endpoint := some "http://store"
    policyUrl := "http://policy"
    responseFields := ⟨"d","p","a","s","e"⟩
    multiple := multiple }

def sample (multiple : Bool) : Uploader := ⟨sampleConfig multiple,.file,[],[],0,false,none⟩

theorem sampleRendered (multiple : Bool) : render (sampleConfig multiple) = .ok (sample multiple) := by
  cases multiple <;> rfl

def sampleDisk : Disk := fun path => .regular ⟨path,0,[]⟩

def offered : Uploader := ((sample true).next (.choose sampleDisk [[97],[98]])).1

theorem offeredReachable : Reachable offered :=
  .step (.rendered (sampleRendered true)) (stepNext (by decide +kernel))

theorem offeredIdle : offered.isUploading = false := by
  decide +kernel

def samplePolicy : Http.Reply := .whole 200
  (Utf8.encode "\x7b\"d\":\x7b\"p\":\"P\",\"a\":\"A\",\"s\":\"S\"\x7d\x7d")

def sampleSupply : Supply := ⟨[5,5,5],[⟨0,by decide⟩,⟨1,by decide⟩,⟨2,by decide⟩]⟩

def sampleAccepted : Event := .policyAnswered samplePolicy ⟨0,0⟩ sampleSupply

def sending : List Event := [.choose sampleDisk [[97],[98]],.start,sampleAccepted]

theorem sendingRuns : (sample true).run? sending =
    some (((sample true).after sending).1,((sample true).after sending).2) :=
  runAfter (by decide +kernel)

end SignedUpload.Uploader

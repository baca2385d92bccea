import SignedUpload.Proofs.Answers

/-! What the events of a batch make of its jobs. The outcome of a job depends on what was read and
answered at its place only, and the objects of a batch are those of its jobs in their order. -/
namespace SignedUpload.Uploader

def readsAt (position : Nat) (events : List Event) : List (Except DiskFault Bytes) :=
  events.filterMap fun
    | .fileRead p contents => if p = position then some contents else none
    | _ => none

def repliesAt (position : Nat) (events : List Event) : List Http.Reply :=
  events.filterMap fun
    | .postAnswered p reply => if p = position then some reply else none
    | _ => none

@[simp] theorem readsAtAppend (position : Nat) (xs ys : List Event) :
    readsAt position (xs ++ ys) = readsAt position xs ++ readsAt position ys :=
  List.filterMap_append

@[simp] theorem repliesAtAppend (position : Nat) (xs ys : List Event) :
    repliesAt position (xs ++ ys) = repliesAt position xs ++ repliesAt position ys :=
  List.filterMap_append

theorem readHere (events : List Event) (position : Nat) (contents : Except DiskFault Bytes) :
    readsAt position (events ++ [.fileRead position contents]) =
        readsAt position events ++ [contents] ∧
      repliesAt position (events ++ [.fileRead position contents]) = repliesAt position events := by
  rw [readsAtAppend,repliesAtAppend]
  simp [readsAt,repliesAt]

theorem replyHere (events : List Event) (position : Nat) (reply : Http.Reply) :
    repliesAt position (events ++ [.postAnswered position reply]) =
        repliesAt position events ++ [reply] ∧
      readsAt position (events ++ [.postAnswered position reply]) = readsAt position events := by
  rw [readsAtAppend,repliesAtAppend]
  simp [readsAt,repliesAt]

def Concerns (position : Nat) : Event → Prop
  | .fileRead p _ => p = position
  | .postAnswered p _ => p = position
  | _ => False

structure Alike (position : Nat) (events later : List Event) : Prop where
  reads : readsAt position later = readsAt position events
  replies : repliesAt position later = repliesAt position events

theorem unconcerned {position : Nat} {e : Event} (other : ¬ Concerns position e)
    (events : List Event) : Alike position events (events ++ [e]) := by
  cases e with
  | fileRead p contents =>
    have apart : p ≠ position := other
    constructor <;> simp [readsAt,repliesAt,apart]
  | postAnswered p reply =>
    have apart : p ≠ position := other
    constructor <;> simp [readsAt,repliesAt,apart]
  | _ => constructor <;> simp [readsAt,repliesAt]

theorem concernsOne {p q : Nat} {e : Event} (left : Concerns p e) (right : Concerns q e) : p = q := by
  cases e with
  | fileRead _ _ => exact left.symm.trans right
  | postAnswered _ _ => exact left.symm.trans right
  | _ => cases left

theorem callUnconcerned {e : Event} (call : e.isCall = true) (position : Nat) :
    ¬ Concerns position e := by
  cases e <;> simp [Event.isCall,Concerns] at call ⊢

section Jobs
variable (config : Config) (policy : Policy) (events : List Event)

def requestOf (job : Job) : Option Http.Request :=
  match readsAt job.position events with
  | [] => none
  | contents :: _ => (posting config policy job contents).toOption

def outcomeOf (job : Job) : Option (Except UploadError Unit) :=
  match readsAt job.position events with
  | [] => none
  | contents :: _ => match posting config policy job contents with
    | .error error => some (.error error)
    | .ok request => (repliesAt job.position events).head?.map (Config.stored request)

def sentOf (job : Job) : Option (Job × Http.Request) :=
  (requestOf config policy events job).map fun request => (job,request)

def entryOf (job : Job) : Option (Nat × UploadedObject) :=
  match outcomeOf config policy events job with
  | some (.ok _) => some (job.position,uploaded config job)
  | _ => none

def objectsOf (jobs : List Job) : List UploadedObject :=
  (jobs.filterMap (entryOf config policy events)).map (·.2)

theorem entryPosition {config policy events} {job : Job} {entry : Nat × UploadedObject}
    (stored : entryOf config policy events job = some entry) : entry.1 = job.position := by
  unfold entryOf at stored
  split at stored
  · cases stored
    rfl
  · cases stored

section Alike
variable {config policy events} {later : List Event} {job : Job}

theorem Alike.outcome (alike : Alike job.position events later) :
    outcomeOf config policy later job = outcomeOf config policy events job := by
  simp only [outcomeOf,alike.reads,alike.replies]

theorem Alike.sent (alike : Alike job.position events later) :
    sentOf config policy later job = sentOf config policy events job := by
  simp only [sentOf,requestOf,alike.reads]

theorem Alike.entry (alike : Alike job.position events later) :
    entryOf config policy later job = entryOf config policy events job := by
  simp only [entryOf,alike.outcome]

end Alike

end Jobs

theorem filterMapGains {β : Type} {jobs : List Job} {before after : Job → Option β} {job : Job}
    {x : β} (distinct : jobs.Nodup) (mem : job ∈ jobs)
    (others : ∀ j ∈ jobs, j ≠ job → after j = before j) (lacking : before job = none)
    (gained : after job = some x) :
    (jobs.filterMap after).Perm (x :: jobs.filterMap before) := by
  induction jobs with
  | nil => cases mem
  | cons head tail ih =>
    obtain ⟨absent,rest⟩ := List.nodup_cons.mp distinct
    by_cases first : head = job
    · subst head
      have same : tail.filterMap after = tail.filterMap before :=
        List.filterMap_congr fun j later =>
          others j (List.mem_cons_of_mem _ later) fun eq => absent (eq ▸ later)
      rw [List.filterMap_cons_some gained,List.filterMap_cons_none lacking,same]
    · have later : job ∈ tail := (List.mem_cons.mp mem).resolve_left (Ne.symm first)
      have gains := ih rest later fun j mem' => others j (List.mem_cons_of_mem _ mem')
      rw [List.filterMap_cons,List.filterMap_cons,others head List.mem_cons_self first]
      cases before head with
      | none => exact gains
      | some y => exact (gains.cons y).trans (.swap x y _)

theorem filterMapOwn {β : Type} {jobs : List Job} {entry : Job → Option β} {job : Job}
    {its : β → Bool} (distinct : jobs.Nodup) (mem : job ∈ jobs)
    (own : ∀ j x, entry j = some x → (its x = true ↔ j = job)) :
    (jobs.filterMap entry).filter its = (entry job).toList := by
  induction jobs with
  | nil => cases mem
  | cons head tail ih =>
    obtain ⟨absent,rest⟩ := List.nodup_cons.mp distinct
    by_cases first : head = job
    · subst head
      have others : (tail.filterMap entry).filter its = [] := by
        refine List.filter_eq_nil_iff.mpr ?_
        intro x hx mine
        obtain ⟨j,later,eq⟩ := List.mem_filterMap.mp hx
        exact absent ((own j x eq).mp mine ▸ later)
      rw [List.filterMap_cons]
      cases eq : entry job with
      | none => exact others
      | some x => simp [(own job x eq).mpr rfl,others]
    · have later := ih rest ((List.mem_cons.mp mem).resolve_left (Ne.symm first))
      rw [List.filterMap_cons]
      cases eq : entry head with
      | none => exact later
      | some x =>
        have other : its x = false := by simpa using mt (own head x eq).mp first
        simp [other,later]

end SignedUpload.Uploader

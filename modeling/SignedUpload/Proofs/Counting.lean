import Mathlib.Data.List.Perm.Basic
import Mathlib.Data.List.Nodup
import SignedUpload.Tally

/-! The count of a batch from its start to its end. What is expected and not stored is what is still to
come, so the results are given out by the first question after the last outcome, and by no other: a
question asks for the results, an outcome is a file that was stored or has failed. -/
namespace SignedUpload.Tally

theorem takeWaits {t : Tally} (more : t.succeeded ≠ t.expected) : t.takeIfComplete = (none,t) := by
  simp [takeIfComplete,more]

theorem takeSpent {t : Tally} (spent : t.reported = true) : t.takeIfComplete = (none,t) := by
  simp [takeIfComplete,spent]

theorem takeComplete {t : Tally} (fresh : t.reported = false) (all : t.succeeded = t.expected) :
    t.takeIfComplete = (some (inOrder t.results),{ t with reported := true, results := [] }) := by
  simp [takeIfComplete,fresh,all]

theorem takeCounts (t : Tally) : t.takeIfComplete.2.expected = t.expected ∧
    t.takeIfComplete.2.succeeded = t.succeeded ∧ t.takeIfComplete.2.failed = t.failed := by
  unfold takeIfComplete
  split <;> exact ⟨rfl,rfl,rfl⟩

theorem takeSpends {t : Tally} (all : t.succeeded = t.expected) :
    t.takeIfComplete.2.reported = true := by
  cases spent : t.reported with
  | true => rw [takeSpent spent,spent]
  | false => rw [takeComplete spent all]

def Ordered (entries : List (Nat × UploadedObject)) (objects : List UploadedObject) : Prop :=
  ∃ sorted : List (Nat × UploadedObject), sorted.Perm entries ∧ sorted.Pairwise (·.1 < ·.1) ∧
    objects = sorted.map (·.2)

section Order
variable {results entries : List (Nat × UploadedObject)}

theorem Ordered.unique {objects others : List UploadedObject} (left : Ordered entries objects)
    (right : Ordered entries others) : objects = others := by
  obtain ⟨xs,xsPerm,xsRise,rfl⟩ := left
  obtain ⟨ys,ysPerm,ysRise,rfl⟩ := right
  have same : xs = ys := by
    refine List.Perm.eq_of_pairwise ?_ xsRise ysRise (xsPerm.trans ysPerm.symm)
    intro a b _ _ below above
    exact absurd below (Nat.lt_asymm above)
  rw [same]

theorem inOrderOrdered (distinct : (entries.map (·.1)).Nodup) : Ordered entries (inOrder entries) := by
  have perm := List.mergeSort_perm entries fun a b => a.1 ≤ b.1
  have sorted := @List.pairwise_mergeSort _ (fun a b : Nat × UploadedObject => a.1 ≤ b.1)
    (by intro a b c; simpa using Nat.le_trans) (by intro a b; simpa using Nat.le_total _ _) entries
  have apart := List.pairwise_map.mp ((perm.map (·.1)).nodup_iff.mpr distinct)
  refine ⟨_,perm,(sorted.and apart).imp ?_,rfl⟩
  rintro a b ⟨below,other⟩
  exact Nat.lt_of_le_of_ne (by simpa using below) other

theorem inOrderPerm (perm : results.Perm entries) (rising : entries.Pairwise (·.1 < ·.1)) :
    inOrder results = entries.map (·.2) := by
  have distinct : (entries.map (·.1)).Nodup := List.pairwise_map.mpr (rising.imp Nat.ne_of_lt)
  have ordered := inOrderOrdered ((perm.map (·.1)).nodup_iff.mpr distinct)
  exact ordered.unique ⟨entries,perm.symm,rising,rfl⟩

end Order

inductive Act where
  | stored (position : Nat) (object : UploadedObject)
  | failed
  | ask
  deriving DecidableEq, Repr

def Act.isOutcome : Act → Bool
  | .ask => false
  | _ => true

def Act.stored? : Act → Option (Nat × UploadedObject)
  | .stored position object => some (position,object)
  | _ => none

def outcomes (acts : List Act) : Nat := acts.countP (·.isOutcome)

def storedIn (acts : List Act) : List (Nat × UploadedObject) := acts.filterMap (·.stored?)

def act (t : Tally) : Act → Tally
  | .stored position object => t.recordSuccess position object
  | .failed => t.recordFailure
  | .ask => t.takeIfComplete.2

def after (t : Tally) (acts : List Act) : Tally := acts.foldl act t

@[simp] theorem afterAppend (t : Tally) (xs ys : List Act) :
    t.after (xs ++ ys) = (t.after xs).after ys :=
  List.foldl_append

@[simp] theorem outcomesAppend (xs ys : List Act) :
    outcomes (xs ++ ys) = outcomes xs + outcomes ys :=
  List.countP_append

@[simp] theorem outcomesAsk (rest : List Act) : outcomes (.ask :: rest) = outcomes rest :=
  List.countP_cons_of_neg (by decide)

theorem outcomesMore {a : Act} (outcome : a.isOutcome = true) (rest : List Act) :
    outcomes (a :: rest) = outcomes rest + 1 :=
  List.countP_cons_of_pos outcome

@[simp] theorem storedAppend (xs ys : List Act) :
    storedIn (xs ++ ys) = storedIn xs ++ storedIn ys :=
  List.filterMap_append

theorem storedNone {acts : List Act} (ended : outcomes acts = 0) : storedIn acts = [] := by
  refine List.filterMap_eq_nil_iff.mpr fun a mem => ?_
  have asks := List.countP_eq_zero.mp ended a mem
  cases a with
  | ask => rfl
  | stored _ _ => exact absurd rfl asks
  | failed => exact absurd rfl asks

structure Due (n left : Nat) (t : Tally) : Prop where
  whole : t.expected + t.failed = n
  count : t.expected = t.succeeded + left

theorem startDue (n : Nat) : Due n n (start n) :=
  ⟨rfl,(Nat.zero_add n).symm⟩

theorem Due.lowered {n left : Nat} {t : Tally} (due : Due n (left + 1) t) :
    t.recordFailure.expected + 1 = t.expected := by
  -- The file that fails is among those still to come, so what is expected is not zero.
  have count := due.count
  simp only [recordFailure]
  omega

theorem Due.act {n : Nat} {t : Tally} {a : Act} {rest : List Act}
    (due : Due n (outcomes (a :: rest)) t) : Due n (outcomes rest) (t.act a) := by
  obtain ⟨whole,count⟩ := due
  cases a with
  | stored position object =>
    rw [outcomesMore rfl] at count
    refine ⟨whole,?_⟩
    simp only [Tally.act,recordSuccess]
    omega
  | failed =>
    rw [outcomesMore rfl] at count
    constructor <;> simp only [Tally.act,recordFailure] <;> omega
  | ask =>
    rw [outcomesAsk] at count
    obtain ⟨expected,succeeded,failed⟩ := takeCounts t
    exact ⟨by rw [Tally.act,expected,failed,whole],by rw [Tally.act,expected,succeeded,count]⟩

theorem Due.after {n : Nat} {t : Tally} {acts rest : List Act}
    (due : Due n (outcomes (acts ++ rest)) t) : Due n (outcomes rest) (t.after acts) := by
  induction acts generalizing t with
  | nil => exact due
  | cons a acts ih => exact ih due.act

structure Holds (past : List Act) (t : Tally) : Prop where
  fresh : t.reported = false
  results : t.results = storedIn past

theorem startHolds (n : Nat) : Holds [] (start n) :=
  ⟨rfl,rfl⟩

theorem Holds.act {n left : Nat} {past : List Act} {t : Tally} (holds : Holds past t)
    (due : Due n (left + 1) t) (a : Act) : Holds (past ++ [a]) (t.act a) := by
  obtain ⟨fresh,results⟩ := holds
  cases a with
  | stored position object =>
    exact ⟨fresh,by simp [Tally.act,recordSuccess,results,storedIn,Act.stored?]⟩
  | failed => exact ⟨fresh,by simp [Tally.act,recordFailure,results,storedIn,Act.stored?]⟩
  | ask =>
    have more : t.succeeded ≠ t.expected := by
      have count := due.count
      omega
    rw [Tally.act,takeWaits more]
    exact ⟨fresh,by simp [results,storedIn,Act.stored?]⟩

theorem Holds.after {n : Nat} {past acts rest : List Act} {t : Tally} (holds : Holds past t)
    (due : Due n (outcomes (acts ++ rest)) t) (more : 0 < outcomes rest) :
    Holds (past ++ acts) (t.after acts) := by
  induction acts generalizing past t with
  | nil =>
    rw [List.append_nil]
    exact holds
  | cons a acts ih =>
    obtain ⟨left,count⟩ : ∃ left, outcomes (a :: acts ++ rest) = left + 1 :=
      Nat.exists_eq_add_one.mpr (by rw [outcomesAppend]; omega)
    have next := ih (holds.act (count ▸ due) a) due.act
    rwa [List.append_assoc] at next

theorem spentAct {t : Tally} (spent : t.reported = true) (a : Act) : (t.act a).reported = true := by
  cases a with
  | stored _ _ => exact spent
  | failed => exact spent
  | ask => rw [act,takeSpent spent,spent]

theorem spentAfter {t : Tally} (spent : t.reported = true) (acts : List Act) :
    (t.after acts).reported = true := by
  induction acts generalizing t with
  | nil => exact spent
  | cons a acts ih => exact ih (spentAct spent a)

/-- What a count of so many files comes to: at every point of it, and at every question. -/
structure GivenOnce (n : Nat) (acts : List Act) : Prop where
  due : ∀ {before rest}, acts = before ++ rest → Due n (outcomes rest) ((start n).after before)
  lowered : ∀ {before rest}, acts = before ++ .failed :: rest →
    ((start n).after before).recordFailure.expected + 1 = ((start n).after before).expected
  early : ∀ {before rest}, acts = before ++ .ask :: rest → 0 < outcomes rest →
    ((start n).after before).takeIfComplete.1 = none
  first : ∀ {before last rest}, acts = before ++ last :: .ask :: rest → last.isOutcome = true →
    outcomes rest = 0 → ∃ objects, Ordered (storedIn acts) objects ∧
      ((start n).after (before ++ [last])).takeIfComplete.1 = some objects
  later : ∀ {before between rest}, acts = before ++ .ask :: between ++ .ask :: rest →
    outcomes (between ++ rest) = 0 →
    ((start n).after (before ++ .ask :: between)).takeIfComplete.1 = none

section Course
variable {n : Nat} {acts before rest : List Act} (all : outcomes acts = n)
include all

theorem dueAt (split : acts = before ++ rest) : Due n (outcomes rest) ((start n).after before) := by
  subst all split
  exact (startDue _).after

theorem holdsAt (split : acts = before ++ rest) (more : 0 < outcomes rest) :
    Holds before ((start n).after before) := by
  subst all split
  exact (startHolds _).after (startDue _) more

theorem loweredAt (split : acts = before ++ .failed :: rest) :
    ((start n).after before).recordFailure.expected + 1 = ((start n).after before).expected := by
  have due := dueAt all split
  rw [outcomesMore rfl] at due
  exact due.lowered

theorem waitsAt (split : acts = before ++ .ask :: rest) (more : 0 < outcomes rest) :
    ((start n).after before).takeIfComplete.1 = none := by
  have count := (dueAt all split).count
  rw [outcomesAsk] at count
  rw [takeWaits (by omega)]

theorem completeAt (split : acts = before ++ .ask :: rest) (ended : outcomes rest = 0) :
    ((start n).after before).succeeded = ((start n).after before).expected := by
  have count := (dueAt all split).count
  rw [outcomesAsk,ended] at count
  exact count.symm

theorem givenAt {last : Act} (split : acts = before ++ last :: .ask :: rest)
    (outcome : last.isOutcome = true) (ended : outcomes rest = 0) :
    ((start n).after (before ++ [last])).takeIfComplete.1 = some (inOrder (storedIn acts)) := by
  have one : outcomes (last :: .ask :: rest) = 0 + 1 := by
    rw [outcomesMore outcome,outcomesAsk,ended]
  have joined : acts = (before ++ [last]) ++ .ask :: rest := by simpa using split
  -- No question before the last outcome was answered, so that outcome is added to all the others.
  have holds : Holds (before ++ [last]) ((start n).after (before ++ [last])) := by
    rw [afterAppend]
    exact (holdsAt all split (by omega)).act (one ▸ dueAt all split) last
  have silent : storedIn (.ask :: rest) = [] := storedNone ((outcomesAsk rest).trans ended)
  have whole : storedIn acts = storedIn (before ++ [last]) := by
    rw [joined,storedAppend _ (.ask :: rest),silent,List.append_nil]
  rw [takeComplete holds.fresh (completeAt all joined ended),holds.results,whole]

theorem spentAt {between : List Act} (split : acts = before ++ .ask :: between ++ .ask :: rest)
    (ended : outcomes (between ++ rest) = 0) :
    ((start n).after (before ++ .ask :: between)).takeIfComplete.1 = none := by
  have joined : acts = before ++ .ask :: (between ++ .ask :: rest) := by simpa using split
  have complete := completeAt all joined (by simpa using ended)
  have spent : ((start n).after (before ++ .ask :: between)).reported = true := by
    rw [afterAppend]
    exact spentAfter (takeSpends complete) between
  rw [takeSpent spent]

end Course

theorem resultsOnce {n : Nat} {acts : List Act} (all : outcomes acts = n)
    (distinct : ((storedIn acts).map (·.1)).Nodup) : GivenOnce n acts where
  due := dueAt all
  lowered := loweredAt all
  early := waitsAt all
  first := fun split outcome ended => ⟨_,inOrderOrdered distinct,givenAt all split outcome ended⟩
  later := spentAt all

def mixedActs : List Act :=
  [.ask,.stored 2 ⟨"c","text/plain","u/c"⟩,.ask,.failed,.ask,.stored 0 ⟨"a","text/plain","u/a"⟩,.ask,.ask]

theorem mixedOnce : outcomes mixedActs = 3 ∧ ((storedIn mixedActs).map (·.1)).Nodup ∧
    GivenOnce 3 mixedActs ∧ ((start 3).after (mixedActs.take 6)).takeIfComplete.1 =
      some [⟨"a","text/plain","u/a"⟩,⟨"c","text/plain","u/c"⟩] := by
  have all : outcomes mixedActs = 3 := by decide
  have distinct : ((storedIn mixedActs).map (·.1)).Nodup := by decide
  have once := resultsOnce all distinct
  obtain ⟨objects,ordered,given⟩ :=
    once.first (show mixedActs = mixedActs.take 5 ++ mixedActs[5] :: .ask :: [.ask] from rfl) rfl rfl
  have placed : Ordered (storedIn mixedActs) [⟨"a","text/plain","u/a"⟩,⟨"c","text/plain","u/c"⟩] :=
    ⟨[(0,⟨"a","text/plain","u/a"⟩),(2,⟨"c","text/plain","u/c"⟩)],.swap _ _ _,by simp,rfl⟩
  exact ⟨all,distinct,once,given.trans (congrArg some (ordered.unique placed))⟩

end SignedUpload.Tally

import SignedUpload.Proofs.DecimalText
import SignedUpload.Proofs.Keys
import Mathlib.Data.Fintype.Card
import Mathlib.Data.Finset.Card

/-! The format of keys, and how many of them are left. The milliseconds, the five digits and the name are
read back from a key, digits and dashes in the name or not, so each call that ended takes one suffix from
the calls of its own millisecond and name and none from any other. -/
namespace SignedUpload

open Decimal (intText padded isDigit ofDigits signedInteger Integral)

namespace Decimal

theorem paddedRead (width n : Nat) : ofDigits (padded width n).toList = n := by
  rw [padded,String.toList_ofList,ofDigitsAfterZeros,ofDigitsShown]

theorem Integral.read {s rest : List Char} {n : Int} (integral : Integral s n)
    (ends : ∀ d more, rest = d :: more → isDigit d = false) :
    signedInteger (Literal.splitSign (s ++ rest)).1
        (ofDigits ((Literal.splitSign (s ++ rest)).2.takeWhile isDigit)) = n ∧
      (Literal.splitSign (s ++ rest)).2.dropWhile isDigit = rest := by
  obtain ⟨sign,nonempty,all⟩ := integral
  rename_i a ds negative
  have unsigned : ∀ c more, ds ++ rest = c :: more → c ≠ '-' ∧ c ≠ '+' := by
    intro c more first
    obtain ⟨d,others,rfl⟩ := List.exists_cons_of_ne_nil nonempty
    cases first
    exact digitUnsigned (List.all_eq_true.mp all _ List.mem_cons_self)
  -- so the sign ends before the digits, and they end before the rest
  obtain ⟨taken,left⟩ := digitsTake all ends
  rw [List.append_assoc,sign.split unsigned]
  exact ⟨by simp only [taken],left⟩

end Decimal

def keyParts (leading key : String) : Int × Nat × String :=
  let signed := Decimal.Literal.splitSign (key.toList.drop leading.toList.length)
  let behind := (signed.2.dropWhile isDigit).drop 1
  (signedInteger signed.1 (ofDigits (signed.2.takeWhile isDigit)),ofDigits (behind.take 5),
    String.ofList ((behind.drop 5).drop 1))

theorem keyShown (leading : String) (millis : Int) (suffix : Suffix) (name : String) :
    (objectKey leading millis suffix name).toList = leading.toList ++ ((intText millis).toList ++
      '-' :: ((padded 5 suffix.val).toList ++ '-' :: name.toList)) := by
  simp [objectKey]

theorem keyRead (leading : String) (millis : Int) (suffix : Suffix) (name : String) :
    keyParts leading (objectKey leading millis suffix name) = (millis,suffix.val,name) := by
  have five : (padded 5 suffix.val).toList.length = 5 :=
    Decimal.paddedLength (by decide) suffix.isLt
  have dash : ∀ d more, '-' :: ((padded 5 suffix.val).toList ++ '-' :: name.toList) = d :: more →
      isDigit d = false := by
    rintro d more ⟨⟩
    rfl
  obtain ⟨read,left⟩ := (Decimal.intTextIntegral millis).read dash
  simp only [keyParts,keyShown,List.drop_left,read,left,List.drop_one,List.tail_cons]
  rw [List.take_left' five,List.drop_left' five,List.tail_cons,Decimal.paddedRead,
    String.ofList_toList]

theorem keyInjective (leading : String) : Function.Injective fun parts : Int × Suffix × String =>
    objectKey leading parts.1 parts.2.1 parts.2.2 := by
  rintro ⟨millis,suffix,name⟩ ⟨millis',suffix',name'⟩ same
  have read := congrArg (keyParts leading) same
  simp only [keyRead,Prod.mk.injEq,Fin.val_inj] at read
  obtain ⟨rfl,rfl,rfl⟩ := read
  rfl

theorem keySame {leading : String} {millis millis' : Int} {suffix suffix' : Suffix}
    {name name' : String} : objectKey leading millis suffix name =
      objectKey leading millis' suffix' name' ↔ millis = millis' ∧ suffix = suffix' ∧ name = name' := by
  constructor
  · intro same
    simpa using @keyInjective leading (millis,suffix,name) (millis',suffix',name') same
  · rintro ⟨rfl,rfl,rfl⟩
    rfl

structure Call where
  millis : Int
  name : String
  key : String

def asked (calls : List Call) (millis : Int) (name : String) : Nat :=
  calls.countP fun call => call.millis = millis ∧ call.name = name

namespace KeyIssuer

inductive Called (leading : String) : KeyIssuer → List Call → Prop where
  | fresh : Called leading (.fresh leading) []
  | call {issuer calls millis name draws key later rest} (before : Called leading issuer calls)
      (drawn : issuer.next? millis name draws = some (key,later,rest)) :
      Called leading later (⟨millis,name,key⟩ :: calls)

def free (issuer : KeyIssuer) (millis : Int) (name : String) : Finset Suffix :=
  Finset.univ.filter fun suffix => (issuer.next? millis name [suffix]).isSome

section Free
variable {issuer later : KeyIssuer} {millis : Int} {name key : String} {draws rest : List Suffix}

theorem freeIff {suffix : Suffix} : suffix ∈ issuer.free millis name ↔
    objectKey issuer.leading millis suffix name ∉ issuer.issued := by
  simp [free,next?]

theorem nextSome : (issuer.next? millis name draws).isSome ↔
    ∃ suffix ∈ draws, suffix ∈ issuer.free millis name := by
  induction draws with
  | nil => simp [next?]
  | cons suffix draws ih =>
    simp only [next?,List.exists_mem_cons_iff,freeIff]
    split
    · rename_i old
      rw [ih]
      simp [old,freeIff]
    · rename_i new
      simp [new]

theorem freeAfter {suffix : Suffix} : suffix ∈
    free { issuer with issued := key :: issuer.issued } millis name ↔
      objectKey issuer.leading millis suffix name ≠ key ∧ suffix ∈ issuer.free millis name := by
  simp only [freeIff,List.mem_cons,not_or,ne_eq]

theorem nextFree (drawn : issuer.next? millis name draws = some (key,later,rest)) (millis' : Int)
    (name' : String) :
    (later.free millis' name').card + (if millis = millis' ∧ name = name' then 1 else 0) =
      (issuer.free millis' name').card := by
  obtain ⟨new,rfl,suffix,-,rfl⟩ := nextNew drawn
  split
  · rename_i same
    obtain ⟨rfl,rfl⟩ := same
    have one : free { issuer with issued := objectKey issuer.leading millis suffix name ::
        issuer.issued } millis name = (issuer.free millis name).erase suffix := by
      ext s
      simp [freeAfter,keySame]
    rw [one,Finset.card_erase_add_one (freeIff.mpr new)]
  · rename_i other
    have fewer : free { issuer with issued := objectKey issuer.leading millis suffix name ::
        issuer.issued } millis' name' = issuer.free millis' name' := by
      ext s
      rw [freeAfter,ne_eq,keySame]
      exact and_iff_right fun same => other ⟨same.1.symm,same.2.2.symm⟩
    rw [fewer,Nat.add_zero]

end Free

section Called
variable {leading : String} {issuer : KeyIssuer} {calls : List Call}

theorem Called.remembered (called : Called leading issuer calls) :
    issuer.issued = calls.map (·.key) ∧ (calls.map (·.key)).Nodup := by
  induction called with
  | fresh => exact ⟨rfl,List.nodup_nil⟩
  | call _ drawn ih =>
    obtain ⟨new,rfl,-⟩ := nextNew drawn
    rw [ih.1] at new
    exact ⟨congrArg _ ih.1,List.nodup_cons.mpr ⟨new,ih.2⟩⟩

theorem Called.left (called : Called leading issuer calls) (millis : Int) (name : String) :
    (issuer.free millis name).card + asked calls millis name = 100000 := by
  induction called with
  | fresh =>
    have all : (KeyIssuer.fresh leading).free millis name = Finset.univ :=
      Finset.eq_univ_iff_forall.mpr fun _ => freeIff.mpr List.not_mem_nil
    rw [all,Finset.card_univ,Fintype.card_fin]
    rfl
  | call _ drawn ih =>
    have step := nextFree drawn millis name
    simp only [asked,List.countP_cons,decide_eq_true_eq] at ih ⊢
    omega

theorem Called.ends (called : Called leading issuer calls) (millis : Int) (name : String) :
    (∃ draws, (issuer.next? millis name draws).isSome) ↔ asked calls millis name < 100000 := by
  have left := called.left millis name
  have drawable : (∃ draws, (issuer.next? millis name draws).isSome) ↔
      (issuer.free millis name).Nonempty := by
    simp only [nextSome]
    constructor
    · rintro ⟨draws,suffix,-,free⟩
      exact ⟨suffix,free⟩
    · rintro ⟨suffix,free⟩
      exact ⟨[suffix],suffix,List.mem_singleton_self _,free⟩
  rw [drawable,← Finset.card_pos]
  omega

end Called

/-- The parts of a key are read back from it. After any calls, a millisecond and a name have as many free
suffixes left as there are without the calls for both, a next call can end exactly when one is left, and
its key is new. -/
theorem keysUnambiguous (leading : String) :
    (∀ millis suffix name,
      keyParts leading (objectKey leading millis suffix name) = (millis,suffix.val,name)) ∧
    (Function.Injective fun parts : Int × Suffix × String =>
      objectKey leading parts.1 parts.2.1 parts.2.2) ∧
    ∀ {issuer calls}, Called leading issuer calls →
      (∀ millis name, (issuer.free millis name).card + asked calls millis name = 100000 ∧
        ((∃ draws, (issuer.next? millis name draws).isSome) ↔ asked calls millis name < 100000)) ∧
      (∀ {millis name draws key later rest},
        issuer.next? millis name draws = some (key,later,rest) → ∀ call ∈ calls, key ≠ call.key) ∧
      (calls.map (·.key)).Nodup ∧ issuer.issued.toFinset.card = calls.length := by
  refine ⟨keyRead leading,keyInjective leading,fun called => ?_⟩
  obtain ⟨remembered,distinct⟩ := called.remembered
  refine ⟨fun millis name => ⟨called.left millis name,called.ends millis name⟩,?_,distinct,?_⟩
  · rintro millis name draws key later rest drawn call mem rfl
    have new := (nextNew drawn).1
    rw [remembered] at new
    exact new (List.mem_map_of_mem mem)
  · rw [remembered,List.toFinset_card_of_nodup distinct,List.length_map]

theorem redrawnFree :
    (free ⟨"up/",["up/-5-00008-1-2","up/-5-00007-1-2"]⟩ (-5) "1-2").card + 2 = 100000 ∧
    (free ⟨"up/",["up/-5-00008-1-2","up/-5-00007-1-2"]⟩ (-5) "2").card = 100000 := by
  have first : (fresh "up/").next? (-5) "1-2" [7] =
    some ("up/-5-00007-1-2",⟨"up/",["up/-5-00007-1-2"]⟩,[]) := by decide +kernel
  have second : next? ⟨"up/",["up/-5-00007-1-2"]⟩ (-5) "1-2" [7,8] =
    some ("up/-5-00008-1-2",⟨"up/",["up/-5-00008-1-2","up/-5-00007-1-2"]⟩,[]) := by decide +kernel
  obtain ⟨left,-⟩ := (keysUnambiguous "up/").2.2 (.call (.call .fresh first) second)
  have two : asked [⟨-5,"1-2","up/-5-00008-1-2"⟩,⟨-5,"1-2","up/-5-00007-1-2"⟩] (-5) "1-2" = 2 := by
    decide
  have unasked : asked [⟨-5,"1-2","up/-5-00008-1-2"⟩,⟨-5,"1-2","up/-5-00007-1-2"⟩] (-5) "2" = 0 := by
    decide
  have all := (left (-5) "2").1
  rw [unasked,Nat.add_zero] at all
  exact ⟨two ▸ (left (-5) "1-2").1,all⟩

end KeyIssuer
end SignedUpload

import SignedUpload.Proofs.Acceptance
import SignedUpload.Proofs.LooseEquality

/-! Policies that have expired. A moment that a response names is looked at when it is a whole number
of seconds that a date is written for, and then the policy is refused. Any other moment, however
long past, counts as no expiry. -/
namespace SignedUpload

open Json (Value)
open Decimal (Integral Binary64)

/-- A moment, in seconds, that is not after a point of time. A leap second has more nanoseconds than
another, and still ends before the next second. -/
structure Instant.Reached (now : Instant) (t : ℚ) : Prop where
  fine : t ≤ now.seconds + now.nanos / 10 ^ 9
  coarse : t < now.seconds + 1

theorem Instant.Reached.whole {now : Instant} {n : Int} (reached : now.Reached n) :
    ¬now.Before ⟨n,0⟩ := by
  have least : n < now.seconds + 1 := by exact_mod_cast reached.coarse
  simp only [Before]
  omega

theorem Instant.ofSecondsFar {n : Int}
    (far : ¬(-(Decimal.signedBound : Int) ≤ n ∧ n < Decimal.signedBound)) : ofSeconds? n = none := by
  refine if_neg fun dated => far ?_
  simp only [firstSecond,lastSecond,Decimal.signedBound] at *
  omega

namespace Json.Value

inductive Names : Value → ℚ → Prop where
  | integer {n : Int} : Names (.number (.integer n)) n
  | real {x : Binary64} {q} (value : x.value? = some q) : Names (.number (.real x)) q
  | text {s} {n : Int} (integral : Integral (Text.trimChars s.toList) n) : Names (.string s) n

def Dated (v : Value) : Prop :=
  ∃ n, v.Whole n ∧ Instant.firstSecond ≤ n ∧ n ≤ Instant.lastSecond

end Json.Value

theorem wholeExpiry {v : Value} {n : Int} (whole : v.Whole n) :
    expiry? v = Instant.ofSeconds? n := by
  cases whole with
  | number =>
    simp only [expiry?,Json.Number.signed?]
    split
    · rfl
    · rename_i far
      exact (Instant.ofSecondsFar fun near => far near.2).symm
  | text integral =>
    simp only [expiry?,Decimal.signedRead integral (by decide : 0 < Decimal.signedBound)]
    split
    · rfl
    · rename_i far
      exact (Instant.ofSecondsFar far).symm

theorem wholeDated {v : Value} {n : Int} (whole : v.Whole n) :
    v.Dated ∧ expiry? v = some ⟨n,0⟩ ∨ ¬v.Dated ∧ expiry? v = none := by
  by_cases dated : Instant.firstSecond ≤ n ∧ n ≤ Instant.lastSecond
  · exact .inl ⟨⟨n,whole,dated⟩,(wholeExpiry whole).trans (if_pos dated)⟩
  · have unread : expiry? v = none := (wholeExpiry whole).trans (if_neg dated)
    refine .inr ⟨?_,unread⟩
    rintro ⟨m,other,dated'⟩
    have read := (wholeExpiry other).trans (if_pos dated')
    rw [unread] at read
    cases read

theorem datedExpiry {v : Value} {t : ℚ} (names : v.Names t) :
    v.Dated ∧ (∃ n : Int, t = n ∧ expiry? v = some ⟨n,0⟩) ∨ ¬v.Dated ∧ expiry? v = none := by
  cases names with
  | @integer n => exact (wholeDated .number).imp_left fun h => ⟨h.1,n,rfl,h.2⟩
  | real =>
    refine .inr ⟨?_,rfl⟩
    rintro ⟨n,whole,-⟩
    cases whole
  | @text s n integral => exact (wholeDated (.text integral)).imp_left fun h => ⟨h.1,n,rfl,h.2⟩

section Answered
variable {config : Config} {body : String} {data v : Value} {t : ℚ} {now : Instant}

theorem pastPasses (named : config.responseFields.expire ≠ "") (holds : config.Holds body data)
    (member : data.get? config.responseFields.expire = some v) (names : v.Names t)
    (reached : now.Reached t) (status : Nat) :
    Acceptance.Passes config status body now .expiry ↔ ¬v.Dated := by
  have expires : config.responseFields.expiryField data = expiry? v := by
    rw [ResponseFields.expiryField,if_neg named,member,Option.bind_some]
  rcases datedExpiry names with ⟨dated,n,rfl,date⟩ | ⟨undated,unread⟩
  · refine iff_of_false ?_ (not_not.mpr dated)
    rintro ⟨data',holds',lasts⟩
    obtain rfl := holds.unique holds'
    exact reached.whole (lasts _ (expires.trans date))
  · refine iff_of_true ⟨data,holds,?_⟩ undated
    intro t found
    rw [expires,unread] at found
    cases found

/-- A policy whose moment was reached is accepted just when the moment is not dated and everything
else about the answer passes. -/
theorem expiredAccepted (named : config.responseFields.expire ≠ "") (holds : config.Holds body data)
    (member : data.get? config.responseFields.expire = some v) (names : v.Names t)
    (reached : now.Reached t) (status : Nat) :
    (∃ policy, config.accept status body now = .ok policy) ↔
      ¬v.Dated ∧ ∀ check ≠ .expiry, Acceptance.Passes config status body now check := by
  rw [Acceptance.acceptedPasses,← pastPasses named holds member names reached status]
  constructor
  · intro passes
    exact ⟨passes _,fun check _ => passes check⟩
  · rintro ⟨last,others⟩ check
    by_cases same : check = .expiry
    · exact same ▸ last
    · exact others check same

end Answered

def stamped (moment : String) : String :=
  "\x7b\"data\":\x7b\"accessid\":\"AK\",\"signature\":\"SIG\",\"policy\":\"POL\",\"expire\":" ++
    moment ++ "\x7d\x7d"

def moment? (body : String) : Option Json.Number := do
  let response ← (Json.parse body).toOption
  let data ← response.get? "data"
  match ← data.get? "expire" with
  | .number n => some n
  | _ => none

theorem momentHeld {body : String} {n : Json.Number} (found : moment? body = some n) :
    ∃ data, Config.standard.Holds body data ∧
      data.get? Config.standard.responseFields.expire = some (.number n) := by
  simp only [moment?,bind,Option.bind_eq_some_iff] at found
  obtain ⟨response,parsed,data,inResponse,v,inData,number⟩ := found
  have object : ∀ {v w : Value} {name}, v.get? name = some w → v.isObject = true := by
    intro v w name member
    cases v <;> first | rfl | cases member
  have answers : Answers body response := by
    refine ⟨?_,object inResponse⟩
    cases same : Json.parse body <;> rw [same] at parsed <;> cases parsed
    rfl
  refine ⟨data,⟨response,answers,.member (by decide) inResponse (object inData)⟩,?_⟩
  cases v <;> cases number
  exact inData

theorem momentReached : Instant.Reached ⟨1700000000,0⟩ (1600000000 : Int) :=
  ⟨by norm_num,by norm_num⟩

theorem pastDateRefused :
    Config.standard.responseFields.expire ≠ "" ∧
    (∃ data, Config.standard.Holds (stamped "1600000000") data ∧
      data.get? Config.standard.responseFields.expire = some (.number (.integer 1600000000))) ∧
    Value.Names (.number (.integer 1600000000)) (1600000000 : Int) ∧
    Instant.Reached ⟨1700000000,0⟩ (1600000000 : Int) ∧
    ¬∃ policy, Config.standard.accept 200 (stamped "1600000000") ⟨1700000000,0⟩ = .ok policy := by
  have named : Config.standard.responseFields.expire ≠ "" := by decide
  have names : Value.Names (.number (.integer 1600000000)) (1600000000 : Int) := .integer
  have dated : Value.Dated (.number (.integer 1600000000)) :=
    ⟨1600000000,.number,by decide,by decide⟩
  have read : moment? (stamped "1600000000") = some (.integer 1600000000) := by decide +kernel
  have held := momentHeld read
  refine ⟨named,held,names,momentReached,fun accepted => ?_⟩
  obtain ⟨data,holds,member⟩ := held
  exact ((expiredAccepted named holds member names momentReached 200).mp accepted).1 dated

theorem pastRealAccepted : ¬∀ (config : Config) (status : Nat) (body : String) (now : Instant)
    (data v : Value) (t : ℚ), config.responseFields.expire ≠ "" → config.Holds body data →
    data.get? config.responseFields.expire = some v → v.Names t → now.Reached t →
    ∀ policy, config.accept status body now ≠ .ok policy := by
  intro refuses
  have names : Value.Names (.number (.real (.finite false 6710886400000000 (-22))))
      (1600000000 : Int) := .real (by norm_num [Binary64.value?,Binary64.signed])
  have read : moment? (stamped "1600000000.0") =
      some (.real (.finite false 6710886400000000 (-22))) := by decide +kernel
  obtain ⟨data,holds,member⟩ := momentHeld read
  exact refuses Config.standard 200 (stamped "1600000000.0") ⟨1700000000,0⟩ data _ _ (by decide)
    holds member names momentReached ⟨"AK","SIG","POL",none⟩ (by decide +kernel)

end SignedUpload

import SignedUpload.Policy.Response

/-! When an answer gives a policy. Every check says on its own what it asks of the answer. The checks
stand in one order, and the first of them that fails gives the error. -/
namespace SignedUpload

open Json (Value)

def Instant.Before (a b : Instant) : Prop :=
  a.seconds < b.seconds ∨ a.seconds = b.seconds ∧ a.nanos < b.nanos

theorem Instant.notAfterIff (a b : Instant) : a.notAfter b = true ↔ ¬b.Before a := by
  simp only [notAfter,Before,Bool.or_eq_true,Bool.and_eq_true,decide_eq_true_eq,beq_iff_eq]
  omega

def Policy.current (policy : Policy) (now : Instant) : Except PolicyError Policy :=
  match policy.expiresAt with
  | some t => if policy.isExpired now then .error (.expired t) else .ok policy
  | none => .ok policy

namespace Policy

theorem expiredIff {policy : Policy} {now t : Instant} (expires : policy.expiresAt = some t) :
    policy.isExpired now = true ↔ ¬now.Before t := by
  rw [isExpired,expires]
  exact t.notAfterIff now

theorem currentBefore {policy : Policy} {now : Instant}
    (lasts : ∀ t, policy.expiresAt = some t → now.Before t) : policy.current now = .ok policy := by
  unfold current
  split
  · rename_i t expires
    exact if_neg fun late => (expiredIff expires).mp late (lasts t expires)
  · rfl

theorem currentAfter {policy : Policy} {now t : Instant} (expires : policy.expiresAt = some t)
    (late : ¬now.Before t) : policy.current now = .error (.expired t) := by
  simp only [current,expires]
  exact if_pos ((expiredIff expires).mpr late)

end Policy

def Answers (body : String) (response : Value) : Prop :=
  Json.parse body = .ok response ∧ response.isObject = true

theorem Answers.unique {body : String} {a b : Value} (first : Answers body a)
    (second : Answers body b) : a = b := Except.ok.inj (first.1.symm.trans second.1)

theorem answersRead {body : String} {response : Value} (answers : Answers body response) :
    Config.responseObject body = .ok response := by
  rw [Config.responseObject,answers.1]
  exact if_pos answers.2

theorem answersMissing {body : String} (unread : ¬∃ response, Answers body response) :
    Config.responseObject body = .error .notJson := by
  unfold Config.responseObject
  split
  · rename_i response parsed
    exact if_neg fun object => unread ⟨response,parsed,object⟩
  · rfl

def TextIn (data : Value) (name text : String) : Prop :=
  data.get? name = some (.string text) ∧ text ≠ ""

theorem TextIn.unique {data : Value} {name a b : String} (first : TextIn data name a)
    (second : TextIn data name b) : a = b :=
  Value.string.inj (Option.some.inj (first.1.symm.trans second.1))

namespace ResponseFields

theorem textRead {data : Value} {name text : String} (found : TextIn data name text) :
    textField data name = .ok text := by
  rw [textField,found.1,Option.bind_some,Value.text?,Option.filter_some,if_pos (by simp [found.2])]

theorem textMissing {data : Value} {name : String} (unfound : ¬∃ text, TextIn data name text) :
    textField data name = .error (.missingField name) := by
  unfold textField
  split
  · rename_i text found
    refine absurd ⟨text,?_⟩ unfound
    simp only [Option.filter_eq_some_iff,Option.bind_eq_some_iff,decide_eq_true_eq] at found
    obtain ⟨⟨value,member,string⟩,filled⟩ := found
    cases value <;> cases string
    exact ⟨member,filled⟩
  · rfl

variable (fields : ResponseFields)

inductive DataIn (response : Value) : Value → Prop where
  | root (unnamed : fields.data = "") : DataIn response response
  | member {data} (named : fields.data ≠ "") (found : response.get? fields.data = some data)
      (object : data.isObject = true) : DataIn response data

structure PolicyIn (data : Value) (policy : Policy) : Prop where
  accessId : TextIn data fields.accessId policy.accessId
  signature : TextIn data fields.signature policy.signature
  document : TextIn data fields.policy policy.document
  expiresAt : policy.expiresAt = fields.expiryField data

variable {fields}

theorem DataIn.unique {response a b : Value} (first : fields.DataIn response a)
    (second : fields.DataIn response b) : a = b := by
  cases first with
  | root unnamed => cases second with
    | root => rfl
    | member named => exact absurd unnamed named
  | member named found => cases second with
    | root unnamed => exact absurd unnamed named
    | member _ found' => exact Option.some.inj (found.symm.trans found')

theorem dataRead {response data : Value} (found : fields.DataIn response data) :
    fields.dataObject response = .ok data := by
  cases found with
  | root unnamed => exact if_pos unnamed
  | member named found object =>
    rw [dataObject,if_neg named,found,Option.filter_some,if_pos object]

theorem dataMissing {response : Value} (unfound : ¬∃ data, fields.DataIn response data) :
    fields.dataObject response = .error (.missingField fields.data) := by
  have named : fields.data ≠ "" := fun unnamed => unfound ⟨response,.root unnamed⟩
  rw [dataObject,if_neg named]
  split
  · rename_i data found
    obtain ⟨member,object⟩ := Option.filter_eq_some_iff.mp found
    exact absurd ⟨data,.member named member object⟩ unfound
  · rfl

theorem PolicyIn.unique {data : Value} {p q : Policy} (first : fields.PolicyIn data p)
    (second : fields.PolicyIn data q) : p = q := by
  cases p
  cases q
  have accessId := first.accessId.unique second.accessId
  have signature := first.signature.unique second.signature
  have document := first.document.unique second.document
  have expiresAt := first.expiresAt.trans second.expiresAt.symm
  exact (Policy.mk.injEq ..).mpr ⟨accessId,signature,document,expiresAt⟩

end ResponseFields

namespace Config
variable (config : Config)

def code (response : Value) : Value := (response.get? config.codeField).getD .null

def Coded (response : Value) : Prop :=
  config.codeField ≠ "" → statusMatches (config.code response) config.codeStatus = true

def Holds (body : String) (data : Value) : Prop :=
  ∃ response, Answers body response ∧ config.responseFields.DataIn response data

def Carries (body : String) (policy : Policy) : Prop :=
  ∃ data, config.Holds body data ∧ config.responseFields.PolicyIn data policy

variable {config}

theorem codeRead {response : Value} (coded : config.Coded response) :
    config.checkCode response = .ok () := by
  unfold checkCode
  split
  · rfl
  · rename_i named
    exact if_pos (coded named)

theorem codeRefused {response : Value} (other : ¬config.Coded response) :
    config.checkCode response =
      .error (.rejected config.codeField config.codeStatus (looseText (config.code response))) := by
  obtain ⟨named,other⟩ := Classical.not_imp.mp other
  rw [checkCode,if_neg named]
  exact if_neg other

theorem Holds.unique {body : String} {a b : Value} (first : config.Holds body a)
    (second : config.Holds body b) : a = b := by
  obtain ⟨response,answers,data⟩ := first
  obtain ⟨response',answers',data'⟩ := second
  obtain rfl := answers.unique answers'
  exact data.unique data'

theorem Carries.unique {body : String} {p q : Policy} (first : config.Carries body p)
    (second : config.Carries body q) : p = q := by
  obtain ⟨data,holds,policy⟩ := first
  obtain ⟨data',holds',policy'⟩ := second
  obtain rfl := holds.unique holds'
  exact policy.unique policy'

end Config

namespace Acceptance

inductive Check where
  | status
  | object
  | code
  | data
  | accessId
  | signature
  | policy
  | expiry

namespace Check

def place : Check → Nat
  | status => 0
  | object => 1
  | code => 2
  | data => 3
  | accessId => 4
  | signature => 5
  | policy => 6
  | expiry => 7

theorem placeInjective {a b : Check} (same : a.place = b.place) : a = b := by
  cases a <;> cases b <;> first | rfl | cases same

end Check

section Verdicts
variable (config : Config) (status : Nat) (body : String) (now : Instant)

def HoldsText (name : String) : Prop :=
  ∃ data, config.Holds body data ∧ ∃ text, TextIn data name text

def Passes : Check → Prop
  | .status => 200 ≤ status ∧ status < 300
  | .object => ∃ response, Answers body response
  | .code => ∃ response, Answers body response ∧ config.Coded response
  | .data => ∃ data, config.Holds body data
  | .accessId => HoldsText config body config.responseFields.accessId
  | .signature => HoldsText config body config.responseFields.signature
  | .policy => HoldsText config body config.responseFields.policy
  | .expiry => ∃ data, config.Holds body data ∧
    ∀ t, config.responseFields.expiryField data = some t → now.Before t

inductive Reports : Check → PolicyError → Prop where
  | status : Reports .status (.status status)
  | object : Reports .object .notJson
  | code {response} (answers : Answers body response) :
      Reports .code (.rejected config.codeField config.codeStatus (looseText (config.code response)))
  | data : Reports .data (.missingField config.responseFields.data)
  | accessId : Reports .accessId (.missingField config.responseFields.accessId)
  | signature : Reports .signature (.missingField config.responseFields.signature)
  | policy : Reports .policy (.missingField config.responseFields.policy)
  | expiry {data t} (holds : config.Holds body data)
      (expires : config.responseFields.expiryField data = some t) : Reports .expiry (.expired t)

/-- What an answer comes to: the policy that it carries when every check passes, and otherwise the
error of the first check that fails. -/
inductive Verdict : Except PolicyError Policy → Prop where
  | accepted {policy} (passed : ∀ check, Passes config status body now check)
      (carries : config.Carries body policy) : Verdict (.ok policy)
  | refused {check error}
      (earlier : ∀ other : Check, other.place < check.place → Passes config status body now other)
      (failed : ¬Passes config status body now check)
      (reports : Reports config status body check error) : Verdict (.error error)

variable {config status body now}

theorem Reports.unique {check : Check} {a b : PolicyError}
    (first : Reports config status body check a) (second : Reports config status body check b) :
    a = b := by
  cases first with
  | code answers =>
    cases second with
    | code answers' => rw [answers.unique answers']
  | expiry holds expires =>
    cases second with
    | expiry holds' expires' =>
      obtain rfl := holds.unique holds'
      rw [Option.some.inj (expires.symm.trans expires')]
  | _ => cases second; rfl

theorem Verdict.unique {a b : Except PolicyError Policy}
    (first : Verdict config status body now a) (second : Verdict config status body now b) :
    a = b := by
  cases first with
  | accepted passed carries =>
    cases second with
    | accepted _ carries' => rw [carries.unique carries']
    | refused _ failed => exact absurd (passed _) failed
  | @refused check _ earlier failed reports =>
    cases second with
    | accepted passed => exact absurd (passed _) failed
    | @refused check' _ earlier' failed' reports' =>
      -- Of two checks that fail first, neither comes before the other.
      rcases Nat.lt_trichotomy check.place check'.place with less | same | more
      · exact absurd (earlier' _ less) failed
      · obtain rfl := Check.placeInjective same
        rw [reports.unique reports']
      · exact absurd (earlier _ more) failed'

def Sofar (config : Config) (status : Nat) (body : String) (now : Instant) (place : Nat) : Prop :=
  ∀ other : Check, other.place < place → Passes config status body now other

theorem Sofar.next {check : Check} (sofar : Sofar config status body now check.place)
    (passes : Passes config status body now check) :
    Sofar config status body now (check.place + 1) := by
  intro other less
  rcases Nat.lt_succ_iff_lt_or_eq.mp less with earlier | same
  · exact sofar other earlier
  · obtain rfl := Check.placeInjective same
    exact passes

def undated (config : Config) (body : String) : Except PolicyError Policy := do
  let response ← Config.responseObject body
  config.checkCode response
  config.responseFields.read response

theorem acceptRefused (bad : ¬(200 ≤ status ∧ status < 300)) :
    config.accept status body now = .error (.status status) := by
  have outside : status < 200 ∨ 300 ≤ status := by omega
  rw [Config.accept,if_pos outside]
  rfl

theorem acceptUndated (good : 200 ≤ status ∧ status < 300) :
    config.accept status body now = undated config body >>= fun policy => policy.current now := by
  have inside : ¬(status < 200 ∨ 300 ≤ status) := by omega
  rw [Config.accept,if_neg inside]
  simp only [undated,bind_assoc]
  rfl

theorem stage {α : Type} (check : Check) {first : Except PolicyError α}
    {rest : α → Except PolicyError Policy} (sofar : Sofar config status body now check.place)
    (passed : Passes config status body now check →
      Sofar config status body now (check.place + 1) →
      ∃ a, first = .ok a ∧ Verdict config status body now (rest a))
    (failed : ¬Passes config status body now check →
      ∃ error, first = .error error ∧ Reports config status body check error) :
    Verdict config status body now (first >>= rest) := by
  by_cases passes : Passes config status body now check
  · obtain ⟨a,read,verdict⟩ := passed passes (sofar.next passes)
    rw [read]
    exact verdict
  · obtain ⟨error,read,reports⟩ := failed passes
    rw [read]
    exact .refused sofar passes reports

theorem textStage (check : Check) {data : Value} {name : String}
    {rest : String → Except PolicyError Policy} (holds : config.Holds body data)
    (looks : Passes config status body now check = HoldsText config body name)
    (reports : Reports config status body check (.missingField name))
    (sofar : Sofar config status body now check.place)
    (passed : ∀ text, TextIn data name text → Sofar config status body now (check.place + 1) →
      Verdict config status body now (rest text)) :
    Verdict config status body now (ResponseFields.textField data name >>= rest) := by
  refine stage check sofar ?_ ?_
  · rw [looks]
    rintro ⟨data',holds',text,found⟩ sofar
    obtain rfl := holds.unique holds'
    exact ⟨text,ResponseFields.textRead found,passed text found sofar⟩
  · rw [looks]
    intro missing
    exact ⟨_,ResponseFields.textMissing fun ⟨text,found⟩ => missing ⟨data,holds,text,found⟩,reports⟩

theorem dateVerdict {data : Value} {policy : Policy} (holds : config.Holds body data)
    (found : config.responseFields.PolicyIn data policy)
    (sofar : Sofar config status body now (Check.place .expiry)) :
    Verdict config status body now (policy.current now) := by
  by_cases lasts : ∀ t, config.responseFields.expiryField data = some t → now.Before t
  · have passed := sofar.next ⟨data,holds,lasts⟩
    rw [Policy.currentBefore (found.expiresAt ▸ lasts)]
    exact .accepted (fun check => passed check (by cases check <;> decide)) ⟨data,holds,found⟩
  · have failed : ¬Passes config status body now .expiry := by
      rintro ⟨data',holds',lasts'⟩
      exact lasts (holds.unique holds' ▸ lasts')
    simp only [Classical.not_forall] at lasts
    obtain ⟨t,expires,late⟩ := lasts
    rw [Policy.currentAfter (found.expiresAt.trans expires) late]
    exact .refused sofar failed (.expiry holds expires)

theorem acceptVerdict : Verdict config status body now (config.accept status body now) := by
  have sofar : Sofar config status body now (Check.place .status) :=
    fun _ less => absurd less (Nat.not_lt_zero _)
  by_cases good : 200 ≤ status ∧ status < 300
  case neg =>
    have refused : config.accept status body now = .error (.status status) :=
      if_pos (by omega)
    exact refused ▸ .refused sofar good .status
  rw [acceptUndated good]
  -- From here on each stage hands what it has found to the next one.
  replace sofar := sofar.next good
  simp only [undated,ResponseFields.read,bind_assoc]
  refine stage .object sofar ?_ fun missing => ⟨_,answersMissing missing,.object⟩
  rintro ⟨response,answers⟩ sofar
  refine ⟨response,answersRead answers,?_⟩
  refine stage .code sofar ?_ ?_
  case refine_2 =>
    intro other
    exact ⟨_,Config.codeRefused fun coded => other ⟨response,answers,coded⟩,.code answers⟩
  rintro ⟨response',answers',coded⟩ sofar
  obtain rfl := answers.unique answers'
  refine ⟨(),Config.codeRead coded,?_⟩
  refine stage .data sofar ?_ ?_
  case refine_2 =>
    intro missing
    exact ⟨_,ResponseFields.dataMissing fun ⟨data,found⟩ => missing ⟨data,response,answers,found⟩,.data⟩
  rintro ⟨data,holds⟩ sofar
  obtain ⟨response',answers',found⟩ := holds
  obtain rfl := answers.unique answers'
  refine ⟨data,ResponseFields.dataRead found,?_⟩
  have holds : config.Holds body data := ⟨response,answers,found⟩
  refine textStage .accessId holds rfl .accessId sofar fun accessId inAccess sofar => ?_
  refine textStage .signature holds rfl .signature sofar fun signature inSign sofar => ?_
  refine textStage .policy holds rfl .policy sofar fun document inPolicy sofar => ?_
  exact dateVerdict holds ⟨inAccess,inSign,inPolicy,rfl⟩ sofar

theorem acceptedPasses : (∃ policy, config.accept status body now = .ok policy) ↔
    ∀ check, Passes config status body now check := by
  have verdict : Verdict config status body now (config.accept status body now) := acceptVerdict
  generalize config.accept status body now = result at verdict
  cases verdict with
  | accepted passed => exact iff_of_true ⟨_,rfl⟩ passed
  | refused _ failed =>
    refine iff_of_false ?_ fun passed => failed (passed _)
    rintro ⟨_,same⟩
    cases same

inductive Timed : Except PolicyError Policy → Except PolicyError Policy → Prop where
  | same {result} : Timed result result
  | expired {policy t} (expires : policy.expiresAt = some t) :
      Timed (.ok policy) (.error (.expired t))
  | unexpired {policy t} (expires : policy.expiresAt = some t) :
      Timed (.error (.expired t)) (.ok policy)

theorem currentTimed (policy : Policy) (now later : Instant) :
    Timed (policy.current now) (policy.current later) := by
  cases expires : policy.expiresAt with
  | none =>
    have lasts : ∀ now, policy.current now = .ok policy := fun now =>
      Policy.currentBefore (by simp [expires])
    rw [lasts,lasts]
    exact .same
  | some t =>
    have lasts : ∀ {now : Instant}, now.Before t → policy.current now = .ok policy := fun before =>
      Policy.currentBefore (by simpa [expires] using before)
    have ends : ∀ {now : Instant}, ¬now.Before t → policy.current now = .error (.expired t) :=
      Policy.currentAfter expires
    by_cases first : now.Before t <;> by_cases second : later.Before t
    · rw [lasts first,lasts second]
      exact .same
    · rw [lasts first,ends second]
      exact .expired expires
    · rw [ends first,lasts second]
      exact .unexpired expires
    · rw [ends first,ends second]
      exact .same

theorem acceptTimed (config : Config) (status : Nat) (body : String) (now later : Instant) :
    Timed (config.accept status body now) (config.accept status body later) := by
  by_cases good : 200 ≤ status ∧ status < 300
  case neg =>
    rw [acceptRefused good,acceptRefused good]
    exact .same
  rw [acceptUndated good,acceptUndated good]
  cases undated config body with
  | error _ => exact .same
  | ok policy => exact currentTimed policy now later

theorem acceptExact (config : Config) (status : Nat) (body : String) :
    (∀ now result, config.accept status body now = result ↔
      Verdict config status body now result) ∧
    ∀ now later, Timed (config.accept status body now) (config.accept status body later) := by
  refine ⟨fun now result => ⟨?_,acceptVerdict.unique⟩,acceptTimed config status body⟩
  rintro rfl
  exact acceptVerdict

end Verdicts

end Acceptance
end SignedUpload

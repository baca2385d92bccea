import SignedUpload.Proofs.Acceptance

/-! Answers without the code that the options ask for. Such a code counts as null, and null is written
as a word: options that expect this very word are met by it, and all others refuse the answer, whatever
else it holds. -/
namespace SignedUpload

open Json (Value)

theorem nullUnread : Decimal.binary64? "null" = none := by
  decide +kernel

theorem nullMatches (expected : String) :
    statusMatches .null expected = true ↔ Text.trim expected = "null" := by
  have word : looseText .null = "null" := rfl
  have apart : sameNumber "null" (Text.trim expected) = false := by
    simp only [sameNumber,nullUnread]
  simp only [statusMatches,word,apart,Bool.or_false,beq_iff_eq]
  exact eq_comm

namespace Config

def uncoded (config : Config) : Config := { config with codeField := "" }

section Codeless
variable {config : Config} {status : Nat} {body : String} {now : Instant} {response : Value}

theorem codeNull (absent : response.get? config.codeField = none) :
    config.code response = .null := by
  rw [code,absent]
  rfl

theorem codeLacking (named : config.codeField ≠ "")
    (absent : response.get? config.codeField = none) :
    config.Coded response ↔ Text.trim config.codeStatus = "null" := by
  unfold Coded
  rw [codeNull absent,nullMatches]
  exact ⟨fun coded => coded named,fun word _ => word⟩

theorem undatedRefused (answers : Answers body response) (other : ¬config.Coded response) :
    Acceptance.undated config body = .error (.rejected config.codeField config.codeStatus
      (looseText (config.code response))) := by
  unfold Acceptance.undated
  rw [answersRead answers]
  exact congrArg (· >>= fun _ => config.responseFields.read response) (codeRefused other)

theorem undatedCoded (answers : Answers body response) (coded : config.Coded response) :
    Acceptance.undated config body = config.responseFields.read response := by
  unfold Acceptance.undated
  rw [answersRead answers]
  exact congrArg (· >>= fun _ => config.responseFields.read response) (codeRead coded)

end Codeless

def Lacks (config : Config) (body : String) : Prop :=
  ∃ response, Answers body response ∧ response.get? config.codeField = none

structure Codeless (config : Config) (status : Nat) (body : String) (now : Instant) : Prop where
  refused : Text.trim config.codeStatus ≠ "null" → config.accept status body now =
    .error (if 200 ≤ status ∧ status < 300 then
      .rejected config.codeField config.codeStatus "null" else .status status)
  passed : Text.trim config.codeStatus = "null" →
    config.accept status body now = config.uncoded.accept status body now

theorem codelessAnswer {config : Config} {body : String} (named : config.codeField ≠ "")
    (lacks : config.Lacks body) (status : Nat) (now : Instant) :
    Codeless config status body now := by
  obtain ⟨response,answers,absent⟩ := lacks
  have coded := codeLacking named absent
  by_cases good : 200 ≤ status ∧ status < 300
  case neg =>
    constructor
    · intro _
      rw [if_neg good,Acceptance.acceptRefused good]
    · intro _
      rw [Acceptance.acceptRefused good,Acceptance.acceptRefused good]
  constructor
  · intro other
    rw [if_pos good,Acceptance.acceptUndated good,undatedRefused answers (mt coded.mp other),
      codeNull absent]
    rfl
  · intro word
    have free : config.uncoded.Coded response := fun named => absurd rfl named
    rw [Acceptance.acceptUndated good,Acceptance.acceptUndated good,
      undatedCoded answers (coded.mpr word),undatedCoded answers free]
    rfl

def asking (expected : String) : Config :=
  { standard with responseFields := ⟨"","p","a","s",""⟩,codeField := "code",codeStatus := expected }

def codelessBody : String := "\x7b\"p\":\"P\",\"a\":\"A\",\"s\":\"S\"\x7d"

theorem lacksFound {config : Config} {body : String}
    (found : (Json.parse body).toOption.any
      (fun v => v.isObject && (v.get? config.codeField).isNone) = true) : config.Lacks body := by
  cases parsed : Json.parse body with
  | error fault =>
    rw [parsed] at found
    cases found
  | ok response =>
    rw [parsed] at found
    obtain ⟨object,absent⟩ := Bool.and_eq_true_iff.mp found
    exact ⟨response,⟨parsed,object⟩,Option.isNone_iff_eq_none.mp absent⟩

theorem zeroMissing : (asking "0").codeField ≠ "" ∧ (asking "0").Lacks codelessBody ∧
    (asking "0").accept 200 codelessBody ⟨0,0⟩ = .error (.rejected "code" "0" "null") := by
  have named : (asking "0").codeField ≠ "" := by decide
  have lacks : (asking "0").Lacks codelessBody := lacksFound (by decide +kernel)
  have other : Text.trim (asking "0").codeStatus ≠ "null" := by decide +kernel
  exact ⟨named,lacks,(codelessAnswer named lacks 200 ⟨0,0⟩).refused other⟩

theorem nullExpectedPasses : ¬∀ {config : Config} {body : String} (status : Nat) (now : Instant),
    config.codeField ≠ "" → config.Lacks body →
      ∃ error, config.accept status body now = .error error := by
  intro refuses
  have lacks : (asking "null").Lacks codelessBody := lacksFound (by decide +kernel)
  obtain ⟨error,refused⟩ := refuses 200 ⟨0,0⟩ (by decide) lacks
  have passes : ((asking "null").accept 200 codelessBody ⟨0,0⟩).isOk = true := by
    decide +kernel
  rw [refused] at passes
  cases passes

end Config
end SignedUpload

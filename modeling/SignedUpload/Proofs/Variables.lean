import SignedUpload.Proofs.JsonAccepted
import SignedUpload.Proofs.Loaders
import SignedUpload.Proofs.Spellings
import SignedUpload.Proofs.Utf8
import Mathlib.Data.List.Nodup
import Mathlib.Logic.Function.Basic

/-! The variables of the environment, one for each option. An option depends on its own variable alone. A
value that stands for nothing of the option's kind counts as unset, and every other is taken as it
stands. -/
namespace SignedUpload.Config

open Json

inductive Variable where
  | text (o : TextOption)
  | name (o : NameOption)
  | map (o : MapOption)
  | number (o : NumberOption)
  | multiple
  deriving DecidableEq

inductive Held where
  | text (v : Option String)
  | map (m : TextMap)
  | number (n : Nat)
  | flag (b : Bool)

namespace Variable

def envKey : Variable → String
  | text o => o.envKey
  | name o => o.envKey
  | map o => o.envKey
  | number o => o.envKey
  | multiple => "OSS_MULTIPLE"

def get (c : Config) : Variable → Held
  | text o => .text (o.get c)
  | name o => .text (some (o.get c.responseFields))
  | map o => .map (o.get c)
  | number o => .number (o.get c)
  | multiple => .flag c.multiple

theorem optionsExt {c d : Config} (same : ∀ v : Variable, v.get c = v.get d) : c = d := by
  refine configExt ?_ ?_ ?_ ?_ ?_
  · exact fun o => Held.text.inj (same (text o))
  · exact fun o => Option.some.inj (Held.text.inj (same (name o)))
  · exact fun o => Held.map.inj (same (map o))
  · exact fun o => Held.number.inj (same (number o))
  · exact Held.flag.inj (same multiple)

inductive Idle : Variable → Bytes → Prop where
  | garbled {v raw} (garbled : ∀ s, Utf8.encode s ≠ raw) : Idle v raw
  | blank {v s} (blank : Text.blank s = true) (filled : v ≠ name .data ∧ v ≠ name .expire) :
      Idle v (Utf8.encode s)
  | map {o s} (other : ∀ m rest, SpellsMap m s.toList rest → ¬Gap rest []) :
      Idle (map o) (Utf8.encode s)
  | number {o s} (other : ∀ n < Decimal.unsignedBound, ¬Decimal.Unsigned s.toList n) :
      Idle (number o) (Utf8.encode s)

inductive Takes : Variable → Bytes → Held → Prop where
  | text {o s} (shown : Text.blank s = false) : Takes (text o) (Utf8.encode s) (.text (some s))
  | name {o s} (shown : Text.blank s = false ∨ o = .data ∨ o = .expire) :
      Takes (name o) (Utf8.encode s) (.text (some s))
  | map {o s m rest} (spells : SpellsMap m s.toList rest) (gap : Gap rest []) :
      Takes (map o) (Utf8.encode s) (.map m)
  | number {o s n} (integral : Decimal.Unsigned s.toList n) (fits : n < Decimal.unsignedBound) :
      Takes (number o) (Utf8.encode s) (.number n)
  | flag {s} : Takes multiple (Utf8.encode s) (.flag (Text.lower s == "true" || s == "1"))

end Variable

section Readings
variable {env : Environment} {name : String} {raw : Bytes} {s : String}

theorem encodedText :
    Environment.text? (Function.update env name (some (Utf8.encode s))) name = some s := by
  simp [Environment.text?,Utf8.decodeIff]

theorem garbledText (garbled : ∀ s, Utf8.encode s ≠ raw) :
    Environment.text? (Function.update env name (some raw)) name = none := by
  cases read : Utf8.decode? raw with
  | none => simp [Environment.text?,read]
  | some s => exact absurd (Utf8.decodeIff.mp read) (garbled s)

theorem unsetText : Environment.text? (Function.update env name none) name = none := by
  simp [Environment.text?]

theorem blankOption (set : env.text? name = some s) (blank : Text.blank s = true) :
    env.option? name = none := by
  simp [Environment.option?,set,blank]

theorem optionOf (set : env.text? name = some s) {v : String} (taken : env.option? name = some v) :
    v = s := by
  rw [Environment.option?,set] at taken
  exact (Option.some.inj (Option.filter_eq_some_iff.mp taken).1).symm

theorem otherMap (set : env.text? name = some s)
    (other : ∀ m rest, SpellsMap m s.toList rest → ¬Gap rest []) : env.map name = ∅ := by
  unfold Environment.map
  split
  · rfl
  · rename_i taken
    obtain rfl := optionOf set taken
    split
    · rename_i read
      obtain ⟨rest,spells,gap⟩ := mapIff.mp read
      exact absurd gap (other _ rest spells)
    · rfl

theorem otherNumber (set : env.text? name = some s)
    (other : ∀ n < Decimal.unsignedBound, ¬Decimal.Unsigned s.toList n) (fallback : Nat) :
    env.number name fallback = fallback := by
  have unread : (env.option? name).bind
      (fun v => Decimal.unsigned? Decimal.unsignedBound v.toList) = none := by
    refine Option.bind_eq_none_iff.mpr fun v taken => ?_
    obtain rfl := optionOf set taken
    refine Option.eq_none_iff_forall_ne_some.mpr fun n read => ?_
    obtain ⟨integral,fits⟩ := Decimal.unsignedIff.mp read
    exact other n fits integral
  rw [Environment.number,unread,Option.getD_none]

end Readings

namespace Variable

def all : List Variable := [text .scheme,text .bucket,text .region,text .providerHost,text .endpoint,
  text .fileType,text .fileExts,text .policyUrl,text .policyMethod,map .policyData,map .policyHeaders,
  name .data,name .policy,name .accessId,name .signature,name .expire,text .codeField,text .codeStatus,
  text .prefixPath,text .dialogTitle,multiple,map .extraFields,number .maxConcurrency,
  number .timeoutSecs]

theorem allListed (v : Variable) : v ∈ all := by
  cases v with
  | multiple => decide
  | text o => cases o <;> decide
  | name o => cases o <;> decide
  | map o => cases o <;> decide
  | number o => cases o <;> decide

theorem envKeyInjective {v w : Variable} (same : v.envKey = w.envKey) : v = w := by
  have distinct : (all.map envKey).Nodup := by decide +kernel
  exact List.inj_on_of_nodup_map distinct (allListed v) (allListed w) same

section Get
variable {env env' : Environment} {v : Variable} {raw : Bytes} {held : Held}

-- The names of the data and of the expiry and the flag look at the text also where it is blank.
theorem getAlike (option : env'.option? v.envKey = env.option? v.envKey)
    (text : v = name .data ∨ v = name .expire ∨ v = multiple →
      env'.text? v.envKey = env.text? v.envKey) :
    v.get (ofEnvironment env') = v.get (ofEnvironment env) := by
  cases v with
  | text o =>
    simp only [envKey] at option
    simp only [get,textTaken,option]
  | name o =>
    simp only [envKey,name.injEq,reduceCtorEq,or_false] at option text
    simp only [get,nameTaken]
    split
    case isTrue blanks => rw [text blanks]
    case isFalse => rw [option]
  | map o =>
    simp only [envKey] at option
    simp only [get,mapTaken,Environment.map,option]
  | number o =>
    simp only [envKey] at option
    simp only [get,numberTaken,Environment.number,option]
  | multiple =>
    simp only [envKey,or_true,true_implies] at text
    simp only [get,ofEnvironment,Environment.flag,text]

theorem getText (same : env'.text? v.envKey = env.text? v.envKey) :
    v.get (ofEnvironment env') = v.get (ofEnvironment env) :=
  getAlike (by rw [Environment.option?,same,Environment.option?]) fun _ => same

theorem getBlank {s : String} (filled : v ≠ name .data ∧ v ≠ name .expire)
    (set : env'.text? v.envKey = some s) (blank : Text.blank s = true)
    (unset : env.text? v.envKey = none) :
    v.get (ofEnvironment env') = v.get (ofEnvironment env) := by
  by_cases flag : v = multiple
  case pos =>
    subst flag
    simp only [envKey] at set unset
    have word : Text.lower s ≠ "true" ∧ s ≠ "true" := Text.blankWord blank (by decide)
    have digit : Text.lower s ≠ "1" ∧ s ≠ "1" := Text.blankWord blank (by decide)
    simp [get,ofEnvironment,Environment.flag,set,unset,word.1,digit.2,standard]
  case neg =>
    refine getAlike ?_ ?_
    · rw [blankOption set blank,noOption unset]
    · rintro (data | expire | multiple)
      · exact absurd data filled.1
      · exact absurd expire filled.2
      · exact absurd multiple flag

theorem getIdle (idle : Idle v raw) :
    v.get (ofEnvironment (Function.update env v.envKey (some raw))) =
      v.get (ofEnvironment (Function.update env v.envKey none)) := by
  cases idle with
  | garbled garbled => exact getText ((garbledText garbled).trans unsetText.symm)
  | blank blank filled => exact getBlank filled encodedText blank unsetText
  | map other =>
    simp only [get,mapTaken,envKey,otherMap encodedText other,noMap (noOption unsetText)]
  | number other =>
    simp only [get,numberTaken,envKey,otherNumber encodedText other,noNumber (noOption unsetText)]

theorem getTaken (takes : Takes v raw held) :
    v.get (ofEnvironment (Function.update env v.envKey (some raw))) = held := by
  cases takes with
  | text shown => simp only [get,textTaken,envKey,shownOption encodedText shown,Option.some_or]
  | @name o s shown =>
    simp only [get,nameTaken,envKey,encodedText]
    split
    · rfl
    case isFalse other =>
      rw [shownOption encodedText (shown.resolve_right other)]
      rfl
  | map spells gap => simp only [get,mapTaken,envKey,mapFilled encodedText spells gap]
  | number integral fits =>
    simp only [get,numberTaken,envKey,numberFilled encodedText integral fits]
  | flag => simp only [get,ofEnvironment,Environment.flag,envKey,encodedText]

theorem idleOrTaken (v : Variable) (raw : Bytes) : Idle v raw ∨ ∃ held, Takes v raw held := by
  by_cases spelled : ∃ s, Utf8.encode s = raw
  case neg => exact .inl (.garbled (not_exists.mp spelled))
  obtain ⟨s,rfl⟩ := spelled
  cases v with
  | text o =>
    cases blank : Text.blank s with
    | true => exact .inl (.blank blank (by simp))
    | false => exact .inr ⟨_,.text blank⟩
  | name o =>
    by_cases shown : Text.blank s = false ∨ o = .data ∨ o = .expire
    · exact .inr ⟨_,.name shown⟩
    · simp only [not_or,Bool.not_eq_false] at shown
      exact .inl (.blank shown.1 (by simpa using shown.2))
  | map o =>
    by_cases spells : ∃ m rest, SpellsMap m s.toList rest ∧ Gap rest []
    · obtain ⟨m,rest,spells,gap⟩ := spells
      exact .inr ⟨_,.map spells gap⟩
    · exact .inl (.map fun m rest its gap => spells ⟨m,rest,its,gap⟩)
  | number o =>
    by_cases integral : ∃ n < Decimal.unsignedBound, Decimal.Unsigned s.toList n
    · obtain ⟨n,fits,integral⟩ := integral
      exact .inr ⟨_,.number integral fits⟩
    · exact .inl (.number fun n fits its => integral ⟨n,fits,its⟩)
  | multiple => exact .inr ⟨_,.flag⟩

end Get

structure Independent (env : Environment) (v : Variable) : Prop where
  own : ∀ {env' : Environment}, (∀ name ≠ v.envKey, env' name = env name) →
    ∀ other ≠ v, other.get (ofEnvironment env') = other.get (ofEnvironment env)
  idle : ∀ {raw}, Idle v raw → ofEnvironment (Function.update env v.envKey (some raw)) =
    ofEnvironment (Function.update env v.envKey none)
  taken : ∀ {raw held}, Takes v raw held →
    v.get (ofEnvironment (Function.update env v.envKey (some raw))) = held
  every : ∀ raw, Idle v raw ∨ ∃ held, Takes v raw held

theorem getApart {env env' : Environment} {v : Variable}
    (same : ∀ name ≠ v.envKey, env' name = env name) {other : Variable} (apart : other ≠ v) :
    other.get (ofEnvironment env') = other.get (ofEnvironment env) := by
  have key : other.envKey ≠ v.envKey := mt envKeyInjective apart
  exact getText (by rw [Environment.text?,same _ key,Environment.text?])

theorem updateIdle {env : Environment} {v : Variable} {raw : Bytes} (idle : Idle v raw) :
    ofEnvironment (Function.update env v.envKey (some raw)) =
      ofEnvironment (Function.update env v.envKey none) := by
  refine optionsExt fun other => ?_
  by_cases own : other = v
  · rw [own]
    exact getIdle idle
  · refine getApart (fun name apart => ?_) own
    rw [Function.update_of_ne apart,Function.update_of_ne apart]

end Variable

/-- Variables that are not read change nothing, and each of the others changes its own option alone: a
value that stands for nothing leaves it as if unset, and every other value is taken. -/
theorem variablesIndependent (env : Environment) :
    (∀ {env' : Environment}, (∀ v : Variable, env' v.envKey = env v.envKey) →
      ofEnvironment env' = ofEnvironment env) ∧ ∀ v : Variable, v.Independent env := by
  refine ⟨fun same => Variable.optionsExt fun v => Variable.getText ?_,fun v => ?_⟩
  · rw [Environment.text?,same v,Environment.text?]
  · exact ⟨fun same other apart => Variable.getApart same apart,Variable.updateIdle,
      Variable.getTaken,v.idleOrTaken⟩

-- A blank scheme, a region that is no text, a time that is no number, and a bucket between spaces.
theorem spacesKept :
    ofEnvironment (Function.update sampleVariables "OSS_SCHEME" (some (Utf8.encode " \t"))) =
      ofEnvironment (Function.update sampleVariables "OSS_SCHEME" none) ∧
    ofEnvironment (Function.update sampleVariables "OSS_REGION" (some [255])) =
      ofEnvironment (Function.update sampleVariables "OSS_REGION" none) ∧
    ofEnvironment (Function.update sampleVariables "OSS_TIMEOUT_SECS" (some (Utf8.encode "5 "))) =
      ofEnvironment (Function.update sampleVariables "OSS_TIMEOUT_SECS" none) ∧
    TextOption.get (ofEnvironment (Function.update sampleVariables "OSS_BUCKET"
      (some (Utf8.encode " b ")))) .bucket = some " b " := by
  have each := (variablesIndependent sampleVariables).2
  have garbled : ∀ s, Utf8.encode s ≠ [255] := by
    intro s same
    have unread : Utf8.decode? [255] = none := by decide
    rw [Utf8.decodeIff.mpr same] at unread
    cases unread
  have other : ∀ n < Decimal.unsignedBound, ¬Decimal.Unsigned "5 ".toList n := by
    intro n fits integral
    have unread : Decimal.unsigned? Decimal.unsignedBound "5 ".toList = none := by decide +kernel
    rw [Decimal.unsignedIff.mpr ⟨integral,fits⟩] at unread
    cases unread
  have bucket := (each (.text .bucket)).taken (.text (s := " b ") (by decide))
  exact ⟨(each (.text .scheme)).idle (.blank (by decide) (by decide)),
    (each (.text .region)).idle (.garbled garbled),(each (.number .timeoutSecs)).idle (.number other),
    Held.text.inj bucket⟩

end SignedUpload.Config

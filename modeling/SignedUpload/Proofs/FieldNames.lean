import SignedUpload.Proofs.Expiry
import SignedUpload.Proofs.Options

/-! Names of the parts of a policy response. Names that pass their check are apart from each other, so
every policy can be sent under them, among whatever other members, and is read as it was sent. -/
namespace SignedUpload

open Json (Value)

namespace Json.Value

def keys (members : List (String × Value)) : List String := members.map (·.1)

theorem memberFound {members : List (String × Value)} (distinct : (keys members).Nodup) {name : String}
    {v : Value} (mem : (name,v) ∈ members) : (Value.object members).get? name = some v := by
  obtain ⟨before,after,rfl⟩ := List.append_of_mem mem
  refine List.lookup_eq_some_iff.mpr ⟨before,after,rfl,fun m first => ?_⟩
  rw [keys,List.map_append] at distinct
  have apart := (List.nodup_append.mp distinct).2.2 m.1 (List.mem_map.mpr ⟨m,first,rfl⟩) name
    List.mem_cons_self
  exact bne_iff_ne.mpr apart.symm

theorem memberMissing {members : List (String × Value)} {name : String}
    (out : name ∉ keys members) : (Value.object members).get? name = none := by
  refine List.lookup_eq_none_iff.mpr fun m mem => bne_iff_ne.mpr ?_
  rintro rfl
  exact out (List.mem_map.mpr ⟨m,mem,rfl⟩)

structure Beside (taken : List String) (own others members : List (String × Value)) : Prop where
  distinct : (keys others).Nodup
  apart : ∀ name ∈ keys others, name ∉ taken
  members : members.Perm (own ++ others)

section Beside
variable {taken : List String} {own others members : List (String × Value)}
  (beside : Beside taken own others members)
include beside

theorem Beside.keys (name : String) :
    name ∈ Value.keys members ↔ name ∈ Value.keys own ∨ name ∈ Value.keys others := by
  rw [Value.keys,(beside.members.map _).mem_iff,List.map_append,List.mem_append]
  rfl

theorem Beside.found (once : (Value.keys own).Nodup) (within : ∀ name ∈ Value.keys own, name ∈ taken)
    {name : String} {v : Value} (mem : (name,v) ∈ own) :
    (Value.object members).get? name = some v := by
  have distinct : (Value.keys members).Nodup := by
    rw [Value.keys,(beside.members.map _).nodup_iff,List.map_append,List.nodup_append]
    refine ⟨once,beside.distinct,?_⟩
    rintro name here _ there rfl
    exact beside.apart name there (within name here)
  exact memberFound distinct (beside.members.mem_iff.mpr (List.mem_append_left _ mem))

theorem Beside.missing {name : String} (held : name ∈ taken) (unsent : name ∉ Value.keys own) :
    (Value.object members).get? name = none :=
  memberMissing fun mem => ((beside.keys name).mp mem).elim unsent fun there =>
    beside.apart name there held

end Beside

end Json.Value

structure Credentials where
  accessId : String
  signature : String
  document : String
  expiry : Option Int
  shown : accessId ≠ "" ∧ signature ≠ "" ∧ document ≠ ""
  dated : ∀ n, expiry = some n → Instant.firstSecond ≤ n ∧ n ≤ Instant.lastSecond

inductive Written (n : Int) : Value → Prop where
  | number : Written n (.number (.integer n))
  | text {before after : String} (blank : Text.blank before = true)
      (blank' : Text.blank after = true) :
      Written n (.string (before ++ Decimal.intText n ++ after))

theorem Written.whole {n : Int} {v : Value} (written : Written n v) : v.Whole n := by
  cases written with
  | number => exact .number
  | @text before after blank blank' =>
    refine .text ?_
    have integral := Decimal.intTextIntegral n
    have trimmed : Text.trim (before ++ Decimal.intText n ++ after) = Decimal.intText n := by
      rw [Text.trimPadded blank blank',Text.trimShown integral.shown]
    rw [Text.trim] at trimmed
    rwa [← trimmed,String.toList_ofList] at integral

theorem Written.expiry {n : Int} {v : Value} (written : Written n v)
    (dated : Instant.firstSecond ≤ n ∧ n ≤ Instant.lastSecond) : expiry? v = some ⟨n,0⟩ :=
  (wholeExpiry written.whole).trans (if_pos dated)

namespace ResponseFields
variable {fields : ResponseFields}

def textNames (fields : ResponseFields) : List String := fields.required.map (·.2)

def taken (fields : ResponseFields) : List String :=
  fields.textNames ++ if fields.expire = "" then [] else [fields.expire]

structure Apart (fields : ResponseFields) : Prop where
  shown : ∀ name ∈ fields.textNames, Text.blank name = false
  distinct : fields.taken.Nodup

theorem takenDistinct : fields.taken.Nodup ↔
    fields.textNames.Nodup ∧ (fields.expire ≠ "" → fields.expire ∉ fields.textNames) := by
  unfold taken
  split
  · rename_i off
    simp [off]
  · rename_i named
    simp only [List.nodup_append,List.nodup_singleton,List.mem_singleton,true_and,named,ne_eq,
      not_false_eq_true,true_imp_iff]
    refine and_congr_right fun _ => ⟨fun other mem => other _ mem _ rfl rfl,?_⟩
    rintro out name mem _ rfl rfl
    exact out mem

theorem checkNamesIff {seen : List String} {entries : List (String × String)} :
    checkNames seen entries = .ok () ↔
      (∀ name ∈ entries.map (·.2), Text.blank name = false ∧ name ∉ seen) ∧
        (entries.map (·.2)).Nodup := by
  induction entries generalizing seen with
  | nil => simp [checkNames]
  | cons entry rest ih =>
    obtain ⟨option,name⟩ := entry
    simp only [checkNames,List.map_cons,List.forall_mem_cons,List.nodup_cons]
    split
    · rename_i blank
      simp [blank]
    · rename_i shown
      split
      · rename_i again
        simp [again]
      · rename_i new
        rw [ih]
        simp only [shown,new,List.mem_cons,not_or]
        grind

theorem validateChecks : fields.validate = .ok () ↔ checkNames [] fields.required = .ok () ∧
    (fields.expire ≠ "" → fields.expire ∉ fields.textNames) := by
  simp only [validate,bind,Except.bind,textNames]
  cases checkNames [] fields.required with
  | error _ => simp
  | ok _ =>
    by_cases repeated : fields.expire ≠ "" ∧ fields.expire ∈ fields.required.map (·.2)
    · simp only [if_pos repeated]
      exact iff_of_false (by simp) fun other => other.2 repeated.1 repeated.2
    · simp only [if_neg repeated]
      exact iff_of_true rfl ⟨trivial,fun named mem => repeated ⟨named,mem⟩⟩

theorem validateIff : fields.validate = .ok () ↔ fields.Apart := by
  rw [validateChecks,checkNamesIff,and_assoc]
  have apart : fields.Apart ↔ (∀ name ∈ fields.textNames, Text.blank name = false) ∧
      fields.taken.Nodup := ⟨fun h => ⟨h.shown,h.distinct⟩,fun h => ⟨h.1,h.2⟩⟩
  rw [apart,takenDistinct]
  simp only [List.not_mem_nil,not_false_eq_true,and_true,textNames]

theorem repeatedRefused (fails : ¬fields.taken.Nodup) : ∃ error, fields.validate = .error error := by
  cases checked : fields.validate with
  | error e => exact ⟨e,rfl⟩
  | ok _ => exact absurd (validateIff.mp checked).distinct fails

def textMembers (fields : ResponseFields) (c : Credentials) : List (String × Value) := [
  (fields.policy,.string c.document),
  (fields.accessId,.string c.accessId),
  (fields.signature,.string c.signature)]

inductive Sends (fields : ResponseFields) (c : Credentials) : List (String × Value) → Prop where
  | lasting (never : c.expiry = none) : Sends fields c (fields.textMembers c)
  | unnamed (off : fields.expire = "") : Sends fields c (fields.textMembers c)
  | dated {n v} (ends : c.expiry = some n) (named : fields.expire ≠ "") (written : Written n v) :
      Sends fields c (fields.textMembers c ++ [(fields.expire,v)])

inductive Carries (fields : ResponseFields) (c : Credentials) : Value → Prop where
  | root {own others members} (root : fields.data = "") (sends : fields.Sends c own)
      (beside : Value.Beside fields.taken own others members) : Carries fields c (.object members)
  | member {own others members around response} (named : fields.data ≠ "")
      (sends : fields.Sends c own) (beside : Value.Beside fields.taken own others members)
      (around : Value.Beside [fields.data] [(fields.data,.object members)] around response) :
      Carries fields c (.object response)

def sent (fields : ResponseFields) (c : Credentials) : Policy where
  accessId := c.accessId
  signature := c.signature
  document := c.document
  -- an expiry without a name is not sent
  expiresAt := if fields.expire = "" then none else c.expiry.map (⟨·,0⟩)

theorem policyRead {response data : Value} {policy : Policy} (found : fields.DataIn response data)
    (held : fields.PolicyIn data policy) : fields.read response = .ok policy := by
  simp only [read,dataRead found,textRead held.accessId,textRead held.signature,
    textRead held.document,bind,Except.bind]
  rw [← held.expiresAt]

section Sends
variable {c : Credentials} {own others members : List (String × Value)} (sends : fields.Sends c own)
include sends

theorem Sends.texts {m : String × Value} (mem : m ∈ fields.textMembers c) : m ∈ own := by
  cases sends with
  | lasting | unnamed => exact mem
  | dated => exact List.mem_append_left _ mem

theorem Sends.keys : Value.keys own = fields.textNames ∨
    fields.expire ≠ "" ∧ Value.keys own = fields.textNames ++ [fields.expire] := by
  cases sends with
  | lasting | unnamed => exact .inl rfl
  | dated _ named _ => exact .inr ⟨named,rfl⟩

theorem Sends.once (apart : fields.Apart) :
    (Value.keys own).Nodup ∧ ∀ name ∈ Value.keys own, name ∈ fields.taken := by
  have distinct := apart.distinct
  rcases sends.keys with keys | ⟨named,keys⟩
  · rw [keys]
    exact ⟨(takenDistinct.mp distinct).1,fun name mem => List.mem_append_left _ mem⟩
  · rw [taken,if_neg named] at distinct ⊢
    rw [keys]
    exact ⟨distinct,fun _ mem => mem⟩

theorem Sends.expiry (apart : fields.Apart) (beside : Value.Beside fields.taken own others members) :
    fields.expiryField (.object members) = (fields.sent c).expiresAt := by
  obtain ⟨once,within⟩ := sends.once apart
  simp only [expiryField,sent]
  split
  · rfl
  · rename_i named
    have held : fields.expire ∈ fields.taken := by simp [taken,named]
    cases sends with
    | lasting never =>
      have unsent := (takenDistinct.mp apart.distinct).2 named
      rw [beside.missing held unsent,never]
      rfl
    | unnamed off => exact absurd off named
    | dated ends _ written =>
      rw [beside.found once within (List.mem_append_right _ List.mem_cons_self),ends,
        Option.bind_some,written.expiry (c.dated _ ends)]
      rfl

theorem Sends.policy (apart : fields.Apart) (beside : Value.Beside fields.taken own others members) :
    fields.PolicyIn (.object members) (fields.sent c) := by
  obtain ⟨once,within⟩ := sends.once apart
  have found : ∀ m ∈ fields.textMembers c, (Value.object members).get? m.1 = some m.2 :=
    fun m mem => beside.found once within (sends.texts mem)
  simp only [textMembers,List.forall_mem_cons] at found
  obtain ⟨document,accessId,signature,-⟩ := found
  exact ⟨⟨accessId,c.shown.1⟩,⟨signature,c.shown.2.1⟩,⟨document,c.shown.2.2⟩,
    (sends.expiry apart beside).symm⟩

end Sends

theorem Carries.read {c : Credentials} {response : Value} (apart : fields.Apart)
    (carries : fields.Carries c response) : fields.read response = .ok (fields.sent c) := by
  cases carries with
  | root root sends beside => exact policyRead (.root root) (sends.policy apart beside)
  | member named sends beside around =>
    have found := around.found (List.nodup_singleton _) (by simp [Value.keys]) List.mem_cons_self
    exact policyRead (.member named found rfl) (sends.policy apart beside)

theorem namesCarry (fields : ResponseFields) :
    (fields.validate = .ok () → ∀ c response, fields.Carries c response →
      fields.read response = .ok (fields.sent c)) ∧
    (¬[fields.policy,fields.accessId,fields.signature].Nodup ∨
        fields.expire ≠ "" ∧ fields.expire ∈ [fields.policy,fields.accessId,fields.signature] →
      (∃ error, fields.validate = .error error) ∧
      ∀ config : Config, config.responseFields = fields → ∃ error, config.validate = .error error) := by
  constructor
  · exact fun valid c response carries => carries.read (validateIff.mp valid)
  · intro repeated
    have refused : ∃ error, fields.validate = .error error := by
      refine repeatedRefused fun distinct => ?_
      obtain ⟨once,other⟩ := takenDistinct.mp distinct
      exact repeated.elim (fun twice => twice once) fun again => other again.1 again.2
    refine ⟨refused,?_⟩
    rintro config rfl
    obtain ⟨error,eq⟩ := refused
    cases checked : config.validate with
    | error e => exact ⟨e,rfl⟩
    | ok _ =>
      rw [(Config.validated checked).fields] at eq
      cases eq

def renamed : ResponseFields := ⟨"","p","id","sig","until"⟩

def renamedCredentials : Credentials where
  accessId := "AK"
  signature := "SIG"
  document := "POL"
  expiry := some 1700000000
  shown := by decide
  dated := by
    intro n ends
    cases ends
    decide

def renamedResponse : Value := .object [("code",.null),("id",.string "AK"),("p",.string "POL"),
  ("sig",.string "SIG"),("until",.string " 1700000000\n")]

theorem renamedCarries : renamed.Carries renamedCredentials renamedResponse := by
  have stamped : Written 1700000000 (.string " 1700000000\n") :=
    @Written.text 1700000000 " " "\n" (by decide) (by decide)
  have beside : Value.Beside renamed.taken
      (renamed.textMembers renamedCredentials ++ [("until",.string " 1700000000\n")])
      [("code",.null)] [("code",.null),("id",.string "AK"),("p",.string "POL"),
        ("sig",.string "SIG"),("until",.string " 1700000000\n")] := by
    refine ⟨by decide,by decide,?_⟩
    exact (List.perm_middle.trans (.cons _ (.swap _ _ _))).symm
  exact .root rfl (.dated rfl (by decide) stamped) beside

theorem renamedCarried : renamed.validate = .ok () ∧
    renamed.Carries renamedCredentials renamedResponse ∧
    renamed.read renamedResponse = .ok ⟨"AK","SIG","POL",some ⟨1700000000,0⟩⟩ ∧
    ¬["p","sig","sig"].Nodup ∧
    ∃ error, ResponseFields.validate { renamed with accessId := "sig" } = .error error := by
  have valid : renamed.validate = .ok () := by decide +kernel
  have repeated : ¬["p","sig","sig"].Nodup := by decide
  exact ⟨valid,renamedCarries,(namesCarry renamed).1 valid _ _ renamedCarries,repeated,
    ((namesCarry { renamed with accessId := "sig" }).2 (.inl repeated)).1⟩

end ResponseFields
end SignedUpload

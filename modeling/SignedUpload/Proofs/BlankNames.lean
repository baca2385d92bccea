import SignedUpload.Config.Environment
import SignedUpload.Policy.Response

/-! Names of a policy response that the environment leaves blank. Only the empty name stands for the
response itself, and only the empty name switches the expiry off; blanks are a name like any
other. -/
namespace SignedUpload

open Json (Value)

namespace ResponseFields

def atRoot (fields : ResponseFields) : ResponseFields := { fields with data := "" }

def lasting (fields : ResponseFields) : ResponseFields := { fields with expire := "" }

section Reading
variable (fields : ResponseFields)

theorem readEmpty (empty : fields.data = "") (response : Value) :
    fields.read response = fields.atRoot.read response := by
  have same : fields.atRoot = fields := by rw [atRoot,← empty]
  rw [same]

theorem readNamed (named : fields.data ≠ "") (response : Value) : fields.read response =
    match (response.get? fields.data).filter (·.isObject) with
    | some data => fields.atRoot.read data
    | none => .error (.missingField fields.data) := by
  simp only [read,dataObject,if_neg named,atRoot,if_true]
  cases (response.get? fields.data).filter (·.isObject) <;> rfl

theorem readHeld (data : Value) (object : data.isObject = true) :
    ∃ response, fields.read response = fields.atRoot.read data := by
  by_cases root : fields.data = ""
  · exact ⟨data,fields.readEmpty root data⟩
  · refine ⟨.object [(fields.data,data)],?_⟩
    rw [fields.readNamed root,Value.get?,Value.lookupCons,if_pos rfl,Option.filter_some,
      if_pos object]

theorem readLasting (response : Value) : fields.lasting.read response =
    (fields.read response).map fun policy => { policy with expiresAt := none } := by
  have data : fields.lasting.dataObject response = fields.dataObject response := rfl
  simp only [read,data,bind,Except.bind]
  cases fields.dataObject response with
  | error _ => rfl
  | ok object =>
    simp only [lasting,expiryField,if_true]
    cases textField object fields.accessId with
    | error _ => rfl
    | ok accessId => cases textField object fields.signature with
      | error _ => rfl
      | ok signature => cases textField object fields.policy <;> rfl

theorem textFieldError {data : Value} {name : String} {error : PolicyError}
    (failed : textField data name = .error error) : error = .missingField name := by
  unfold textField at failed
  split at failed
  · cases failed
  · exact (Except.error.inj failed).symm

theorem readRootError {response : Value} {error : PolicyError}
    (failed : fields.atRoot.read response = .error error) :
    ∃ name ∈ fields.required.map (·.2), error = .missingField name := by
  simp only [read,dataObject,atRoot,if_true,bind,Except.bind] at failed
  split at failed
  · rename_i missing
    cases failed
    exact ⟨fields.accessId,by simp [required],textFieldError missing⟩
  · split at failed
    · rename_i missing
      cases failed
      exact ⟨fields.signature,by simp [required],textFieldError missing⟩
    · split at failed
      · rename_i missing
        cases failed
        exact ⟨fields.policy,by simp [required],textFieldError missing⟩
      · cases failed

def texts (others : List (String × Value)) : Value :=
  .object (fields.required.foldr (fun entry => Value.putMember entry.2 (.string "x")) others)

theorem textsLookup (others : List (String × Value)) (name : String) :
    (fields.texts others).get? name =
      if name ∈ fields.required.map (·.2) then some (.string "x") else others.lookup name := by
  simp only [texts,Value.get?]
  induction fields.required with
  | nil => simp
  | cons entry rest ih =>
    rw [List.foldr_cons,Value.lookupPut,ih]
    by_cases same : name = entry.2
    · simp [same]
    · simp only [List.map_cons,List.mem_cons,same,false_or,if_false]

theorem textsField (others : List (String × Value)) {name : String}
    (required : name ∈ fields.required.map (·.2)) :
    textField (fields.texts others) name = .ok "x" := by
  rw [textField,textsLookup,if_pos required]
  rfl

theorem textsRead (others : List (String × Value)) : fields.atRoot.read (fields.texts others) =
    .ok ⟨"x","x","x",fields.expiryField (fields.texts others)⟩ := by
  have accessId : textField (fields.texts others) fields.accessId = .ok "x" :=
    fields.textsField others (by simp [required])
  have signature : textField (fields.texts others) fields.signature = .ok "x" :=
    fields.textsField others (by simp [required])
  have policy : textField (fields.texts others) fields.policy = .ok "x" :=
    fields.textsField others (by simp [required])
  simp only [read,dataObject,atRoot,if_true,bind,Except.bind,accessId,signature,policy]
  rfl

end Reading

structure BlankData (fields : ResponseFields) : Prop where
  exact : ∀ response, fields.read response = fields.atRoot.read response ↔
    fields.data = "" ∨ ∃ data, (response.get? fields.data).filter (·.isObject) = some data ∧
      fields.atRoot.read data = fields.atRoot.read response
  refused : fields.data ≠ "" → ∃ response policy, fields.atRoot.read response = .ok policy ∧
    fields.read response = .error (.missingField fields.data)

structure BlankExpiry (fields : ResponseFields) : Prop where
  exact : ∀ response, fields.read response = fields.lasting.read response ↔
    ∀ policy, fields.read response = .ok policy → policy.expiresAt = none
  off : fields.expire = "" → ∀ response policy, fields.read response = .ok policy →
    policy.expiresAt = none
  kept : fields.expire ≠ "" → ∃ response policy, fields.read response = .ok policy ∧
    policy.expiresAt ≠ none

section Blank
variable {fields : ResponseFields}
  (full : ∀ name ∈ fields.required.map (·.2), Text.blank name = false)
include full

theorem blankData (blank : Text.blank fields.data = true) : BlankData fields := by
  have other : fields.data ∉ fields.required.map (·.2) := fun mem => by simp [full _ mem] at blank
  constructor
  · intro response
    by_cases empty : fields.data = ""
    · exact iff_of_true (fields.readEmpty empty response) (.inl empty)
    · rw [fields.readNamed empty]
      cases (response.get? fields.data).filter (·.isObject) with
      | some data => simp [empty]
      | none =>
        refine iff_of_false ?_ (by simp [empty])
        intro same
        obtain ⟨name,mem,eq⟩ := fields.readRootError same.symm
        cases eq
        exact other mem
  · intro named
    refine ⟨fields.texts [],_,fields.textsRead [],?_⟩
    rw [fields.readNamed named,fields.textsLookup,if_neg other]
    rfl

theorem blankExpiry (blank : Text.blank fields.expire = true) : BlankExpiry fields := by
  have other : fields.expire ∉ fields.required.map (·.2) := fun mem => by simp [full _ mem] at blank
  constructor
  · intro response
    rw [fields.readLasting]
    cases fields.read response with
    | error _ => simp [Except.map]
    | ok policy =>
      cases policy
      simp [Except.map]
  · intro off response policy read
    have same : fields.lasting = fields := by rw [lasting,← off]
    rw [← same,fields.readLasting] at read
    cases first : fields.read response <;> simp [first,Except.map] at read
    rw [← read]
  · intro named
    obtain ⟨response,held⟩ :=
      fields.readHeld (fields.texts [(fields.expire,.number (.integer 0))]) rfl
    have lasts : expiry? (.number (.integer 0)) ≠ none := by decide
    refine ⟨response,_,held.trans (fields.textsRead _),?_⟩
    rw [expiryField,if_neg named,fields.textsLookup,if_neg other,Value.lookupCons,if_pos rfl]
    exact lasts

end Blank

end ResponseFields

namespace Config

theorem optionFull (env : Environment) (name : String) {fallback : String}
    (full : Text.blank fallback = false) : Text.blank (env.option name fallback) = false := by
  unfold Environment.option Environment.option?
  cases set : (env.text? name).filter fun v => !Text.blank v with
  | none => exact full
  | some v => simpa using (Option.filter_eq_some_iff.mp set).2

theorem environmentNames (env : Environment) :
    ∀ name ∈ (ofEnvironment env).responseFields.required.map (·.2), Text.blank name = false := by
  intro name mem
  simp only [ResponseFields.required,ofEnvironment,List.map_cons,List.map_nil,List.mem_cons,
    List.not_mem_nil,or_false] at mem
  rcases mem with rfl | rfl | rfl <;> exact optionFull env _ (by decide)

theorem blankNames (env : Environment) {v : String} (blank : Text.blank v = true) :
    (env.text? "OSS_DATA_FIELD" = some v → (ofEnvironment env).responseFields.data = v ∧
      (ofEnvironment env).responseFields.BlankData) ∧
    (env.text? "OSS_EXPIRE_FIELD" = some v → (ofEnvironment env).responseFields.expire = v ∧
      (ofEnvironment env).responseFields.BlankExpiry) := by
  constructor
  · intro set
    have name : (ofEnvironment env).responseFields.data = v := by simp [ofEnvironment,set]
    exact ⟨name,ResponseFields.blankData (environmentNames env) (by rw [name]; exact blank)⟩
  · intro set
    have name : (ofEnvironment env).responseFields.expire = v := by simp [ofEnvironment,set]
    exact ⟨name,ResponseFields.blankExpiry (environmentNames env) (by rw [name]; exact blank)⟩

def spacedNames : Environment := fun name =>
  if name = "OSS_DATA_FIELD" ∨ name = "OSS_EXPIRE_FIELD" then some [0x20] else none

theorem spacesAreNames : Text.blank " " = true ∧
    spacedNames.text? "OSS_DATA_FIELD" = some " " ∧
    spacedNames.text? "OSS_EXPIRE_FIELD" = some " " ∧
    (ofEnvironment spacedNames).responseFields.BlankData ∧
    (ofEnvironment spacedNames).responseFields.BlankExpiry := by
  have blank : Text.blank " " = true := by decide
  have data : spacedNames.text? "OSS_DATA_FIELD" = some " " := by decide +kernel
  have expire : spacedNames.text? "OSS_EXPIRE_FIELD" = some " " := by decide +kernel
  obtain ⟨first,second⟩ := blankNames spacedNames blank
  exact ⟨blank,data,expire,(first data).2,(second expire).2⟩

theorem spaceMissesRoot : ¬ ∀ (env : Environment) (v : String), Text.blank v = true →
    env.text? "OSS_DATA_FIELD" = some v → ∀ response,
      (ofEnvironment env).responseFields.read response =
        (ofEnvironment env).responseFields.atRoot.read response := by
  intro atRoot
  have same := atRoot spacedNames " " (by decide) (by decide +kernel)
    ((ofEnvironment spacedNames).responseFields.texts [])
  rw [ResponseFields.textsRead,ResponseFields.readNamed _ (by decide +kernel),
    ResponseFields.textsLookup,if_neg (by decide +kernel)] at same
  cases same

end Config
end SignedUpload

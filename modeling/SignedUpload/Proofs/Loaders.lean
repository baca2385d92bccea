import SignedUpload.Proofs.JsonText
import SignedUpload.Proofs.IntegerText
import SignedUpload.Config.Environment
import SignedUpload.Config.File

/-! Options from the environment and from a file that hold the same values. An option that is set
has its value, and every other its standard one, whatever the order and the spelling. Of blank texts
the two make different things: the environment passes over them, the file takes them as they
stand. -/
namespace SignedUpload.Config

open Json

inductive TextOption where
  | scheme
  | bucket
  | region
  | providerHost
  | endpoint
  | fileType
  | fileExts
  | policyUrl
  | policyMethod
  | codeField
  | codeStatus
  | prefixPath
  | dialogTitle
  deriving DecidableEq

namespace TextOption

def key : TextOption → String
  | scheme => "scheme"
  | bucket => "bucket"
  | region => "region"
  | providerHost => "provider_host"
  | endpoint => "endpoint"
  | fileType => "file_type"
  | fileExts => "file_exts"
  | policyUrl => "policy_url"
  | policyMethod => "policy_method"
  | codeField => "code_field"
  | codeStatus => "code_status"
  | prefixPath => "prefix_path"
  | dialogTitle => "dialog_title"

def envKey : TextOption → String
  | scheme => "OSS_SCHEME"
  | bucket => "OSS_BUCKET"
  | region => "OSS_REGION"
  | providerHost => "OSS_PROVIDER_HOST"
  | endpoint => "OSS_ENDPOINT"
  | fileType => "OSS_FILE_TYPE"
  | fileExts => "OSS_FILE_EXTS"
  | policyUrl => "OSS_POLICY_URL"
  | policyMethod => "OSS_POLICY_METHOD"
  | codeField => "OSS_CODE_FIELD"
  | codeStatus => "OSS_CODE_STATUS"
  | prefixPath => "OSS_PREFIX_PATH"
  | dialogTitle => "OSS_DIALOG_TITLE"

def get (c : Config) : TextOption → Option String
  | scheme => some c.scheme
  | bucket => some c.bucket
  | region => some c.region
  | providerHost => some c.providerHost
  | endpoint => c.endpoint
  | fileType => some c.fileType
  | fileExts => c.fileExts
  | policyUrl => some c.policyUrl
  | policyMethod => some c.policyMethod
  | codeField => some c.codeField
  | codeStatus => some c.codeStatus
  | prefixPath => some c.prefixPath
  | dialogTitle => some c.dialogTitle

def put (c : Config) (v : String) : TextOption → Config
  | scheme => { c with scheme := v }
  | bucket => { c with bucket := v }
  | region => { c with region := v }
  | providerHost => { c with providerHost := v }
  | endpoint => { c with endpoint := some v }
  | fileType => { c with fileType := v }
  | fileExts => { c with fileExts := some v }
  | policyUrl => { c with policyUrl := v }
  | policyMethod => { c with policyMethod := v }
  | codeField => { c with codeField := v }
  | codeStatus => { c with codeStatus := v }
  | prefixPath => { c with prefixPath := v }
  | dialogTitle => { c with dialogTitle := v }

end TextOption

inductive NameOption where
  | data
  | policy
  | accessId
  | signature
  | expire
  deriving DecidableEq

namespace NameOption

def key : NameOption → String
  | data => "data"
  | policy => "policy"
  | accessId => "access_id"
  | signature => "signature"
  | expire => "expire"

def envKey : NameOption → String
  | data => "OSS_DATA_FIELD"
  | policy => "OSS_POLICY_FIELD"
  | accessId => "OSS_ACCESSID_FIELD"
  | signature => "OSS_SIGNATURE_FIELD"
  | expire => "OSS_EXPIRE_FIELD"

def get (r : ResponseFields) : NameOption → String
  | data => r.data
  | policy => r.policy
  | accessId => r.accessId
  | signature => r.signature
  | expire => r.expire

def put (r : ResponseFields) (v : String) : NameOption → ResponseFields
  | data => { r with data := v }
  | policy => { r with policy := v }
  | accessId => { r with accessId := v }
  | signature => { r with signature := v }
  | expire => { r with expire := v }

end NameOption

inductive MapOption where
  | policyData
  | policyHeaders
  | extraFields
  deriving DecidableEq

namespace MapOption

def key : MapOption → String
  | policyData => "policy_data"
  | policyHeaders => "policy_headers"
  | extraFields => "extra_fields"

def envKey : MapOption → String
  | policyData => "OSS_POLICY_DATA"
  | policyHeaders => "OSS_POLICY_HEADERS"
  | extraFields => "OSS_EXTRA_FIELDS"

def get (c : Config) : MapOption → TextMap
  | policyData => c.policyData
  | policyHeaders => c.policyHeaders
  | extraFields => c.extraFields

def put (c : Config) (m : TextMap) : MapOption → Config
  | policyData => { c with policyData := m }
  | policyHeaders => { c with policyHeaders := m }
  | extraFields => { c with extraFields := m }

end MapOption

inductive NumberOption where
  | maxConcurrency
  | timeoutSecs
  deriving DecidableEq

namespace NumberOption

def key : NumberOption → String
  | maxConcurrency => "max_concurrency"
  | timeoutSecs => "timeout_secs"

def envKey : NumberOption → String
  | maxConcurrency => "OSS_MAX_CONCURRENCY"
  | timeoutSecs => "OSS_TIMEOUT_SECS"

def get (c : Config) : NumberOption → Nat
  | maxConcurrency => c.maxConcurrency
  | timeoutSecs => c.timeoutSecs

def put (c : Config) (n : Nat) : NumberOption → Config
  | maxConcurrency => { c with maxConcurrency := n }
  | timeoutSecs => { c with timeoutSecs := n }

end NumberOption

structure Assignment where
  text : TextOption → Option String
  name : NameOption → Option String
  map : MapOption → Option TextMap
  number : NumberOption → Option (Fin Decimal.unsignedBound)
  multiple : Option Bool

namespace Assignment

def unset : Assignment := ⟨fun _ => none,fun _ => none,fun _ => none,fun _ => none,none⟩

def literal (a : Assignment) : Config where
  scheme := (a.text .scheme).getD standard.scheme
  bucket := (a.text .bucket).getD standard.bucket
  region := (a.text .region).getD standard.region
  providerHost := (a.text .providerHost).getD standard.providerHost
  endpoint := (a.text .endpoint).or standard.endpoint
  fileType := (a.text .fileType).getD standard.fileType
  fileExts := (a.text .fileExts).or standard.fileExts
  policyUrl := (a.text .policyUrl).getD standard.policyUrl
  policyMethod := (a.text .policyMethod).getD standard.policyMethod
  policyData := (a.map .policyData).getD standard.policyData
  policyHeaders := (a.map .policyHeaders).getD standard.policyHeaders
  responseFields := {
    data := (a.name .data).getD ResponseFields.standard.data
    policy := (a.name .policy).getD ResponseFields.standard.policy
    accessId := (a.name .accessId).getD ResponseFields.standard.accessId
    signature := (a.name .signature).getD ResponseFields.standard.signature
    expire := (a.name .expire).getD ResponseFields.standard.expire }
  codeField := (a.text .codeField).getD standard.codeField
  codeStatus := (a.text .codeStatus).getD standard.codeStatus
  prefixPath := (a.text .prefixPath).getD standard.prefixPath
  dialogTitle := (a.text .dialogTitle).getD standard.dialogTitle
  multiple := a.multiple.getD standard.multiple
  extraFields := (a.map .extraFields).getD standard.extraFields
  maxConcurrency := ((a.number .maxConcurrency).map Fin.val).getD standard.maxConcurrency
  timeoutSecs := ((a.number .timeoutSecs).map Fin.val).getD standard.timeoutSecs

def present (a : Assignment) : Assignment :=
  { a with
    text := fun o => (a.text o).filter fun v => !Text.blank v
    name := fun o =>
      if o = .data ∨ o = .expire then a.name o else (a.name o).filter fun v => !Text.blank v }

structure Clear (a : Assignment) : Prop where
  texts : ∀ {o v}, a.text o = some v → Text.blank v = true → o.get standard = some v
  names : ∀ {o v}, a.name o = some v → Text.blank v = true → o = .data ∨ o = .expire

end Assignment

theorem namesExt {r s : ResponseFields} (names : ∀ o : NameOption, o.get r = o.get s) : r = s := by
  obtain ⟨⟩ := r
  obtain ⟨⟩ := s
  simp only [ResponseFields.mk.injEq]
  exact ⟨names .data,names .policy,names .accessId,names .signature,names .expire⟩

theorem configExt {c d : Config} (texts : ∀ o : TextOption, o.get c = o.get d)
    (names : ∀ o : NameOption, o.get c.responseFields = o.get d.responseFields)
    (maps : ∀ o : MapOption, o.get c = o.get d) (numbers : ∀ o : NumberOption, o.get c = o.get d)
    (multiple : c.multiple = d.multiple) : c = d := by
  have fields : c.responseFields = d.responseFields := namesExt names
  obtain ⟨⟩ := c
  obtain ⟨⟩ := d
  simp only [Config.mk.injEq]
  exact ⟨Option.some.inj (texts .scheme),Option.some.inj (texts .bucket),
    Option.some.inj (texts .region),Option.some.inj (texts .providerHost),texts .endpoint,
    Option.some.inj (texts .fileType),texts .fileExts,Option.some.inj (texts .policyUrl),
    Option.some.inj (texts .policyMethod),maps .policyData,maps .policyHeaders,fields,
    Option.some.inj (texts .codeField),Option.some.inj (texts .codeStatus),
    Option.some.inj (texts .prefixPath),Option.some.inj (texts .dialogTitle),multiple,
    maps .extraFields,numbers .maxConcurrency,numbers .timeoutSecs⟩

namespace Assignment
variable (a : Assignment)

theorem textLiteral (o : TextOption) : o.get a.literal = (a.text o).or (o.get standard) := by
  cases o <;> cases set : a.text _ <;> simp [literal,TextOption.get,set]

theorem nameLiteral (o : NameOption) :
    o.get a.literal.responseFields = (a.name o).getD (o.get .standard) := by
  cases o <;> rfl

theorem mapLiteral (o : MapOption) : o.get a.literal = (a.map o).getD ∅ := by
  cases o <;> rfl

theorem numberLiteral (o : NumberOption) :
    o.get a.literal = ((a.number o).map Fin.val).getD (o.get standard) := by
  cases o <;> rfl

theorem standardNames {o : NameOption} : Text.blank (o.get .standard) = false := by
  cases o <;> decide

theorem clearOfSame (same : a.present.literal = a.literal) : a.Clear where
  texts := by
    intro o v set blank
    have its := congrArg o.get same
    simpa [textLiteral,present,set,blank] using its
  names := by
    intro o v set blank
    by_cases other : o = .data ∨ o = .expire
    · exact other
    · have its := congrArg (fun c : Config => o.get c.responseFields) same
      simp only [nameLiteral,present,if_neg other,set,Option.filter_some,blank,Bool.not_true,
        Bool.false_eq_true,if_false,Option.getD_none,Option.getD_some] at its
      have full : Text.blank (o.get .standard) = false := standardNames
      rw [its,blank] at full
      cases full

theorem Clear.same {a : Assignment} (clear : a.Clear) : a.present.literal = a.literal := by
  refine configExt ?_ ?_ ?_ ?_ rfl
  · intro o
    simp only [textLiteral,present]
    cases set : a.text o with
    | none => rfl
    | some v =>
      cases blank : Text.blank v with
      | false => simp [Option.filter_some,blank]
      | true => simpa [Option.filter_some,blank] using clear.texts set blank
  · intro o
    simp only [nameLiteral,present]
    split
    · rfl
    · rename_i other
      cases set : a.name o with
      | none => rfl
      | some v =>
        have full : Text.blank v = false := by simpa using mt (clear.names set) other
        simp [Option.filter_some,full]
  · intro o
    rw [mapLiteral,mapLiteral,present]
  · intro o
    rw [numberLiteral,numberLiteral,present]

end Assignment

structure EnvironmentHolds (env : Environment) (a : Assignment) : Prop where
  text : ∀ o, env.text? o.envKey = a.text o
  name : ∀ o, env.text? o.envKey = a.name o
  map : ∀ o m, a.map o = some m → ∃ text rest, env.text? o.envKey = some text ∧
    SpellsMap m text.toList rest ∧ Gap rest []
  noMap : ∀ o, a.map o = none → env.text? o.envKey = none
  number : ∀ o n, a.number o = some n → ∃ text, env.text? o.envKey = some text ∧
    Decimal.natural? text.toList = some n.val
  noNumber : ∀ o, a.number o = none → env.text? o.envKey = none
  multiple : env.text? "OSS_MULTIPLE" = a.multiple.map fun b => if b then "true" else "false"

section Environment
variable {env : Environment}

theorem shownOption {name text : String} (set : env.text? name = some text)
    (shown : Text.blank text = false) : env.option? name = some text := by
  simp [Environment.option?,set,shown]

theorem filledOption {name text : String} {c : Char} (set : env.text? name = some text)
    (mem : c ∈ text.toList) (solid : Text.isBlank c = false) : env.option? name = some text := by
  refine shownOption set ?_
  cases blank : Text.blank text with
  | false => rfl
  | true =>
    have all := List.all_eq_true.mp blank c mem
    rw [solid] at all
    cases all

theorem noOption {name : String} (unset : env.text? name = none) : env.option? name = none := by
  rw [Environment.option?,unset]
  rfl

theorem noMap {name : String} (unset : env.option? name = none) : env.map name = ∅ := by
  simp only [Environment.map,unset]

theorem noNumber {name : String} (unset : env.option? name = none) (fallback : Nat) :
    env.number name fallback = fallback := by
  rw [Environment.number,unset]
  rfl

theorem mapFilled {name text : String} {m : TextMap} {rest : List Char}
    (set : env.text? name = some text) (spells : SpellsMap m text.toList rest) (gap : Gap rest []) :
    env.map name = m := by
  have read := wholeRead (mapRead spells) gap
  obtain ⟨entries,-,inner,brace,-⟩ := spells
  have shown := filledOption set (brace.holds '{' List.mem_cons_self) (by decide)
  simp only [Environment.map,shown,read]

theorem numberFilled {name text : String} {n : Nat} (set : env.text? name = some text)
    (integral : Decimal.Unsigned text.toList n) (fits : n < Decimal.unsignedBound) (fallback : Nat) :
    env.number name fallback = n := by
  obtain ⟨c,mem,solid⟩ := integral.solid
  have shown := filledOption set mem solid
  simp [Environment.number,shown,Decimal.unsignedIff.mpr ⟨integral,fits⟩]

variable (env)

theorem textTaken (o : TextOption) :
    o.get (ofEnvironment env) = (env.option? o.envKey).or (o.get standard) := by
  cases o <;> simp [TextOption.get,TextOption.envKey,ofEnvironment,Environment.option,standard]

theorem nameTaken (o : NameOption) : o.get (ofEnvironment env).responseFields =
    (if o = .data ∨ o = .expire then env.text? o.envKey else env.option? o.envKey).getD
      (o.get .standard) := by
  cases o <;> rfl

theorem mapTaken (o : MapOption) : o.get (ofEnvironment env) = env.map o.envKey := by
  cases o <;> rfl

theorem numberTaken (o : NumberOption) :
    o.get (ofEnvironment env) = env.number o.envKey (o.get standard) := by
  cases o <;> rfl

end Environment

section Holds
variable {env : Environment} {a : Assignment} (holds : EnvironmentHolds env a)
include holds

theorem textHeld (o : TextOption) :
    o.get (ofEnvironment env) = (a.present.text o).or (o.get standard) := by
  rw [textTaken,Environment.option?,holds.text o]
  rfl

theorem nameHeld (o : NameOption) : o.get (ofEnvironment env).responseFields =
    (a.present.name o).getD (o.get .standard) := by
  rw [nameTaken,Environment.option?,holds.name o]
  rfl

theorem mapHeld (o : MapOption) : o.get (ofEnvironment env) = (a.map o).getD ∅ := by
  rw [mapTaken]
  cases set : a.map o with
  | none => exact noMap (noOption (holds.noMap o set))
  | some m =>
    obtain ⟨text,rest,held,spells,gap⟩ := holds.map o m set
    exact mapFilled held spells gap

theorem numberHeld (o : NumberOption) : o.get (ofEnvironment env) =
    ((a.number o).map Fin.val).getD (o.get standard) := by
  rw [numberTaken]
  cases set : a.number o with
  | none => exact noNumber (noOption (holds.noNumber o set)) _
  | some n =>
    obtain ⟨text,held,digits⟩ := holds.number o n set
    obtain ⟨nonempty,all,same⟩ := Decimal.naturalIff.mp digits
    exact numberFilled held (same ▸ .of .none nonempty all) n.isLt _

theorem environmentLiteral : ofEnvironment env = a.present.literal := by
  refine configExt ?_ ?_ ?_ ?_ ?_
  · exact fun o => (textHeld holds o).trans (a.present.textLiteral o).symm
  · exact fun o => (nameHeld holds o).trans (a.present.nameLiteral o).symm
  · exact fun o => (mapHeld holds o).trans (a.present.mapLiteral o).symm
  · exact fun o => (numberHeld holds o).trans (a.present.numberLiteral o).symm
  · have set := holds.multiple
    simp only [ofEnvironment,Environment.flag,set,Assignment.literal,Assignment.present]
    cases a.multiple with
    | none => rfl
    | some b => cases b <;> decide

end Holds

inductive Setting where
  | text (o : TextOption) (v : String)
  | names (inner : List (NameOption × String))
  | map (o : MapOption) (m : TextMap)
  | number (o : NumberOption) (n : Fin Decimal.unsignedBound)
  | multiple (b : Bool)

def nameIn (inner : List (NameOption × String)) (o : NameOption) : Option String :=
  inner.foldl (fun found e => if o = e.1 then some e.2 else found) none

namespace Setting

def key : Setting → String
  | text o _ => o.key
  | names _ => "response_fields"
  | map o _ => o.key
  | number o _ => o.key
  | multiple _ => "multiple"

def Spells : Setting → List Char → List Char → Prop
  | text _ v => SpellsText v
  | names inner => fun s rest => (inner.map (·.1.key)).Nodup ∧
      SpellsObject (fun e : NameOption × String => e.1.key) (fun e => SpellsText e.2) inner s rest
  | map _ m => SpellsMap m
  | number _ n => SpellsNatural n
  | multiple b => SpellsFlag b

def put (c : Config) : Setting → Config
  | text o v => o.put c v
  | names inner =>
    { c with responseFields := inner.foldl (fun r e => e.1.put r e.2) .standard }
  | map o m => o.put c m
  | number o n => o.put c n
  | multiple b => { c with multiple := b }

end Setting

def Assignment.set (a : Assignment) : Setting → Assignment
  | .text o v => { a with text := fun p => if p = o then some v else a.text p }
  | .names inner => { a with name := nameIn inner }
  | .map o m => { a with map := fun p => if p = o then some m else a.map p }
  | .number o n => { a with number := fun p => if p = o then some n else a.number p }
  | .multiple b => { a with multiple := some b }

theorem namePut (r : ResponseFields) (v : String) (o p : NameOption) :
    o.get (p.put r v) = if o = p then v else o.get r := by
  cases o <;> cases p <;> rfl

theorem namesPut (inner : List (NameOption × String)) {r : ResponseFields} {o : NameOption}
    {found : Option String} {fallback : String} (before : o.get r = found.getD fallback) :
    o.get (inner.foldl (fun r e => e.1.put r e.2) r) =
      (inner.foldl (fun found e => if o = e.1 then some e.2 else found) found).getD fallback := by
  induction inner generalizing r found with
  | nil => exact before
  | cons e inner ih =>
    refine ih ?_
    by_cases same : o = e.1
    · simp [namePut,same]
    · simp [namePut,same,before]

theorem setLiteral (a : Assignment) (b : Setting) : b.put a.literal = (a.set b).literal := by
  cases b with
  | text o v => cases o <;> rfl
  | names inner =>
    have same : inner.foldl (fun r e => e.1.put r e.2) .standard =
        (a.set (.names inner)).literal.responseFields := by
      refine namesExt fun o => ?_
      rw [Assignment.nameLiteral]
      exact namesPut inner rfl
    simp only [Setting.put,same]
    rfl
  | map o m => cases o <;> rfl
  | number o n => cases o <;> rfl
  | multiple b => rfl

theorem settingsLiteral (settings : List Setting) (a : Assignment) :
    settings.foldl Setting.put a.literal = (settings.foldl Assignment.set a).literal := by
  induction settings generalizing a with
  | nil => rfl
  | cons b settings ih => rw [List.foldl_cons,setLiteral,ih,List.foldl_cons]

theorem readOf {σ α : Type} {read : Read α} {s rest : List Char} {v : α}
    (reads : read s = .ok (v,rest)) (key : String) (put : σ → α → σ) (record : σ) :
    (RecordField.of key read put).read record s = .ok (put record v,rest) := by
  simp only [RecordField.of,reads,Except.map]

theorem nameReads {e : NameOption × String} {s rest : List Char} (spells : SpellsText e.2 s rest) :
    ∃ field, ResponseFields.jsonFields.find? (·.key == e.1.key) = some field ∧
      ∀ r, field.read r s = .ok (e.1.put r e.2,rest) := by
  obtain ⟨o,v⟩ := e
  cases o <;> exact ⟨_,rfl,readOf (textRead spells) _ _⟩

theorem settingReads {b : Setting} {s rest : List Char} (spells : b.Spells s rest) :
    ∃ field, jsonFields.find? (·.key == b.key) = some field ∧
      ∀ c, field.read c s = .ok (b.put c,rest) := by
  cases b with
  | text o v =>
    cases o with
    | endpoint => exact ⟨_,rfl,readOf (optionalRead spells) _ _⟩
    | fileExts => exact ⟨_,rfl,readOf (optionalRead spells) _ _⟩
    | _ => exact ⟨_,rfl,readOf (textRead spells) _ _⟩
  | names inner =>
    obtain ⟨once,object⟩ := spells
    have read := recordRead (fun _ _ _ its => its.length) (fun _ _ _ its => nameReads its) object
      once .standard
    exact ⟨_,rfl,readOf read _ _⟩
  | map o m => cases o <;> exact ⟨_,rfl,readOf (mapRead spells) _ _⟩
  | number o n => cases o <;> exact ⟨_,rfl,readOf (naturalRead spells n.isLt) _ _⟩
  | multiple b => exact ⟨_,rfl,readOf (flagRead spells) _ _⟩

/-- The bytes are a JSON object that sets each of these options once, in some order and spelling. -/
structure FileHolds (bytes : Bytes) (settings : List Setting) : Prop where
  once : (settings.map Setting.key).Nodup
  spelled : ∃ text rest, Utf8.decode? bytes = some text ∧
    SpellsObject Setting.key Setting.Spells settings text.toList rest ∧ Gap rest []

def gather (settings : List Setting) : Assignment := settings.foldl Assignment.set .unset

theorem Setting.Spells.length {b : Setting} {s rest : List Char} (spells : b.Spells s rest) :
    rest.length ≤ s.length := by
  cases b with
  | text o v => exact SpellsText.length spells
  | names inner => exact SpellsObject.length (fun _ _ _ its => its.length) spells.2
  | map o m => exact SpellsObject.length (fun _ _ _ its => its.length) spells.choose_spec.2
  | number o n => exact SpellsNatural.length spells
  | multiple b => exact SpellsFlag.length spells

theorem fileLiteral {bytes : Bytes} {settings : List Setting} (holds : FileHolds bytes settings) :
    ofFile bytes = .ok (gather settings).literal := by
  obtain ⟨text,rest,decoded,object,gap⟩ := holds.spelled
  have read : json text.toList = .ok (settings.foldl Setting.put standard,rest) :=
    recordRead (fun _ _ _ its => its.length) (fun _ _ _ its => settingReads its) object holds.once _
  have parsed : ofJson text = .ok (settings.foldl Setting.put standard) := wholeRead read gap
  have same : settings.foldl Setting.put standard = (gather settings).literal :=
    settingsLiteral settings .unset
  simp only [ofFile,decoded,parsed,same]

structure Loaded (a : Assignment) (env : Environment) (bytes : Bytes) : Prop where
  environment : ofEnvironment env = a.present.literal
  file : ofFile bytes = .ok a.literal
  same : ofFile bytes = .ok (ofEnvironment env) ↔ a.Clear
  verdict : a.Clear → (ofFile bytes).map validate = .ok (ofEnvironment env).validate

theorem loadersAgree {a : Assignment} {env : Environment} {bytes : Bytes} {settings : List Setting}
    (held : EnvironmentHolds env a) (assigned : gather settings = a)
    (written : FileHolds bytes settings) : Loaded a env bytes := by
  have environment := environmentLiteral held
  have file : ofFile bytes = .ok a.literal := assigned ▸ fileLiteral written
  have same : ofFile bytes = .ok (ofEnvironment env) ↔ a.Clear := by
    rw [file,environment]
    exact ⟨fun eq => a.clearOfSame (Except.ok.inj eq).symm,fun clear => congrArg _ clear.same.symm⟩
  refine ⟨environment,file,same,fun clear => ?_⟩
  rw [same.mpr clear]
  rfl

def quote (v : String) (rest : List Char) : List Char := '"' :: (v.toList ++ '"' :: rest)

def plain (v : String) : Bool := v.toList.all fun c => c ≠ '"' && c ≠ '\\' && 0x20 ≤ c.toNat

theorem quoteLetters {v : String} (ok : plain v = true) (rest : List Char) :
    Letters (v.toList ++ '"' :: rest) v.toList rest := by
  unfold plain at ok
  generalize v.toList = cs at ok ⊢
  induction cs with
  | nil => exact .close
  | cons c cs ih =>
    simp only [List.all_cons,Bool.and_eq_true,decide_eq_true_eq] at ok
    obtain ⟨⟨⟨quote,slash⟩,printed⟩,ok⟩ := ok
    exact .letter (.plain quote slash printed) (ih ok)

theorem quoteSpells {v : String} (ok : plain v = true) (rest : List Char) :
    SpellsText v (quote v rest) rest :=
  ⟨_,.none _,quoteLetters ok rest⟩

def headerText (rest : List Char) : List Char :=
  '{' :: quote "x" (':' :: quote "y" ('}' :: rest))

def headers : TextMap := TextMap.ofList [("x","y")]

theorem headerSpells (rest : List Char) : SpellsMap headers (headerText rest) rest :=
  ⟨_,rfl,_,.none _,.member (.first (.none _)) (quoteLetters (by decide) _) (.none _)
    (quoteSpells (by decide) _) (.close (.none _))⟩

def sampleSettings : List Setting :=
  [.text .bucket "b",.names [(.data,"")],.map .policyHeaders headers,
    .number .timeoutSecs ⟨5,by decide⟩,.multiple true]

def sampleText : List Char :=
  '{' :: quote "bucket" (':' :: quote "b" (',' :: quote "response_fields" (':' :: '{' ::
    quote "data" (':' :: quote "" ('}' :: ',' :: quote "policy_headers" (':' ::
      headerText (',' :: quote "timeout_secs" (':' :: '5' :: ',' :: quote "multiple"
        (':' :: 't' :: 'r' :: 'u' :: 'e' :: ['}'])))))))))

def sampleVariables : Environment := fun name =>
  (List.lookup name [("OSS_BUCKET","b"),("OSS_DATA_FIELD",""),
    ("OSS_POLICY_HEADERS",String.ofList (headerText [])),("OSS_TIMEOUT_SECS","5"),
    ("OSS_MULTIPLE","true")]).map Utf8.encode

theorem sampleWritten : FileHolds (Utf8.encode (String.ofList sampleText)) sampleSettings where
  once := by decide +kernel
  spelled := by
    refine ⟨String.ofList sampleText,[],by decide +kernel,?_,.none _⟩
    rw [String.toList_ofList]
    refine ⟨_,.none _,?_⟩
    refine .member (.first (.none _)) (quoteLetters (by decide) _) (.none _)
      (quoteSpells (by decide) _) ?_
    refine .member (.next (.none _) (.none _)) (quoteLetters (by decide) _) (.none _)
      ⟨by decide,_,.none _,.member (.first (.none _)) (quoteLetters (by decide) _) (.none _)
        (quoteSpells (by decide) _) (.close (.none _))⟩ ?_
    refine .member (.next (.none _) (.none _)) (quoteLetters (by decide) _) (.none _)
      (headerSpells _) ?_
    refine .member (.next (.none _) (.none _)) (quoteLetters (by decide) _) (.none _)
      ⟨'5',[],.none _,rfl,rfl,fun _ => rfl,rfl,by simp [Ends]; decide⟩ ?_
    exact .member (.next (.none _) (.none _)) (quoteLetters (by decide) _) (.none _) (.none _)
      (.close (.none _))

theorem sampleHeld : EnvironmentHolds sampleVariables (gather sampleSettings) where
  text := by intro o; cases o <;> decide +kernel
  name := by intro o; cases o <;> decide +kernel
  map := by
    intro o m set
    cases o with
    | policyHeaders =>
      cases set
      refine ⟨String.ofList (headerText []),[],by decide +kernel,?_,.none _⟩
      rw [String.toList_ofList]
      exact headerSpells []
    | policyData => cases set
    | extraFields => cases set
  noMap := by
    intro o set
    cases o with
    | policyHeaders => cases set
    | _ => decide +kernel
  number := by
    intro o n set
    cases o with
    | maxConcurrency => cases set
    | timeoutSecs =>
      cases set
      exact ⟨"5",by decide +kernel,by decide +kernel⟩
  noNumber := by
    intro o set
    cases o with
    | maxConcurrency => decide +kernel
    | timeoutSecs => cases set
  multiple := by decide +kernel

theorem sampleLoaded : EnvironmentHolds sampleVariables (gather sampleSettings) ∧
    FileHolds (Utf8.encode (String.ofList sampleText)) sampleSettings ∧
    Loaded (gather sampleSettings) sampleVariables (Utf8.encode (String.ofList sampleText)) :=
  ⟨sampleHeld,sampleWritten,loadersAgree sampleHeld rfl sampleWritten⟩

def blankScheme : List Setting := [.text .scheme ""]

def blankVariable : Environment := fun name => if name = "OSS_SCHEME" then some [] else none

def blankText : List Char := '{' :: quote "scheme" (':' :: quote "" ['}'])

theorem blankSchemeDiffers :
    ¬ ∀ {a : Assignment} {env : Environment} {bytes : Bytes} {settings : List Setting},
      EnvironmentHolds env a → gather settings = a → FileHolds bytes settings →
      ofFile bytes = .ok (ofEnvironment env) := by
  intro agree
  have held : EnvironmentHolds blankVariable (gather blankScheme) := by
    refine ⟨?_,?_,?_,?_,?_,?_,by decide +kernel⟩
    · intro o; cases o <;> decide +kernel
    · intro o; cases o <;> decide +kernel
    · intro o m set; cases set
    · intro o _; cases o <;> decide +kernel
    · intro o n set; cases set
    · intro o _; cases o <;> decide +kernel
  have written : FileHolds (Utf8.encode (String.ofList blankText)) blankScheme := by
    refine ⟨by decide +kernel,String.ofList blankText,[],by decide +kernel,?_,.none _⟩
    rw [String.toList_ofList]
    exact ⟨_,.none _,.member (.first (.none _)) (quoteLetters (by decide) _) (.none _)
      (quoteSpells (by decide) _) (.close (.none _))⟩
  have same := agree held rfl written
  rw [fileLiteral written,environmentLiteral held] at same
  exact absurd (congrArg Config.scheme (Except.ok.inj same)) (by decide +kernel)

end SignedUpload.Config

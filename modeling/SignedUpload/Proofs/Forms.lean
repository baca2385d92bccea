import SignedUpload.Proofs.Options
import SignedUpload.Proofs.Runs
import SignedUpload.Proofs.Utf8

/-! The forms that carry files. The five signed fields come first, then the extra fields of the options
in the order of the bytes of their names, then the file; and options that pass their checks add no
second part under a reserved name, in whatever case. -/
namespace SignedUpload

namespace TextMap

theorem lookupFilter {entries : List (String × String)}
    (sorted : entries.Pairwise (fun a b => a.1 < b.1)) (name : String) :
    (entries.filter (·.1 = name)).map (·.2) = (entries.lookup name).toList := by
  induction entries with
  | nil => rfl
  | cons e rest ih =>
    obtain ⟨above,tail⟩ := List.pairwise_cons.mp sorted
    by_cases first : e.1 = name
    · have others : rest.filter (·.1 = name) = [] := by
        refine List.filter_eq_nil_iff.mpr fun d mem same => ?_
        have less := above d mem
        rw [first,of_decide_eq_true same] at less
        exact String.lt_irrefl _ less
      have same : (name == e.1) = true := by simp [first]
      rw [List.filter_cons_of_pos (by simpa using first),others,List.lookup_cons,same]
      rfl
    · have other : (name == e.1) = false := by simpa using Ne.symm first
      rw [List.filter_cons_of_neg (by simpa using first),ih tail,List.lookup_cons,other]

theorem valuesOf (m : TextMap) (name : String) :
    (m.entries.filter (·.1 = name)).map (·.2) = (m.get? name).toList :=
  lookupFilter m.sorted name

theorem byteOrder (m : TextMap) :
    m.entries.Pairwise fun a b => Utf8.encode a.1 < Utf8.encode b.1 :=
  m.sorted.imp Utf8.encodeOrdered

theorem entriesInjective {m n : TextMap} (same : m.entries = n.entries) : m = n := by
  cases m
  cases n
  congr

end TextMap

namespace Config

open Http

def signedFields (key : String) (policy : Policy) : List (String × String) :=
  [("key",key),("policy",policy.document),("OSSAccessKeyId",policy.accessId),
    ("signature",policy.signature),("success_action_status","200")]

structure Formed (config : Config) (key : String) (policy : Policy) (file : FilePart)
    (form : Multipart) : Prop where
  fields : ∃ extra, form.fields = signedFields key policy ++ extra ∧
    extra.Pairwise (fun a b => Utf8.encode a.1 < Utf8.encode b.1) ∧
    ∀ name, (extra.filter (·.1 = name)).map (·.2) = (config.extraFields.get? name).toList
  last : form.partNames = form.fields.map (·.1) ++ ["file"]
  file : form.file.fileName = file.fileName ∧ form.file.data = file.data ∧
    MediaType.read? file.mediaType = some form.file.mediaType
  once : ∀ name ∈ reservedFields, form.partNames.filter (Text.sameAsciiFold name) = [name]

def Sends (config : Config) (file : FilePart) : Prop :=
  (MediaType.read? file.mediaType).isSome = true ∧
    ∃ url, Url.read config.storageEndpoint = .ok url ∧ url.takeLogin.1.isSendable = true

theorem reservedRejected {config : Config} {name : String} (configured : name ∈ config.extraFields.keys)
    (reserved : isReserved name = true) : ∃ e, config.validate = .error e := by
  cases valid : config.validate with
  | error e => exact ⟨e,rfl⟩
  | ok _ => simp [(validated valid).plain configured] at reserved

theorem reservedOnce {config : Config} (checked : Checked config) (key : String) (policy : Policy)
    (file : FilePart) {name : String} (reserved : name ∈ reservedFields) :
    (config.storageForm key policy file).partNames.filter (Text.sameAsciiFold name) = [name] := by
  have names : (config.storageForm key policy file).partNames =
      reservedFields.dropLast ++ (config.extraFields.keys ++ ["file"]) := by
    simp [Multipart.partNames,storageForm,reservedFields,TextMap.keys,Multipart.filePartName]
  have apart : config.extraFields.keys.filter (Text.sameAsciiFold name) = [] := by
    refine List.filter_eq_nil_iff.mpr fun extra configured same => ?_
    have shadows : isReserved extra = true := List.any_eq_true.mpr ⟨name,reserved,same⟩
    rw [checked.plain configured] at shadows
    cases shadows
  have own : ∀ name ∈ reservedFields,
      (reservedFields.dropLast ++ ["file"]).filter (Text.sameAsciiFold name) = [name] := by
    decide
  rw [names,List.filter_append,List.filter_append,apart,List.nil_append,← List.filter_append]
  exact own name reserved

theorem formFormed {config : Config} (checked : Checked config) (key : String) (policy : Policy)
    {file : FilePart} {mediaType : String} (read : MediaType.read? file.mediaType = some mediaType) :
    Formed config key policy file (config.storageForm key policy { file with mediaType }) where
  fields := ⟨_,rfl,config.extraFields.byteOrder,config.extraFields.valuesOf⟩
  last := rfl
  file := ⟨rfl,rfl,read⟩
  once := fun _ reserved => reservedOnce checked key policy _ reserved

theorem storageSends (config : Config) (key : String) (policy : Policy) (file : FilePart) :
    (∃ request, config.storageRequest key policy file = .ok request) ↔ config.Sends file := by
  unfold storageRequest Sends
  cases MediaType.read? file.mediaType with
  | none => simp
  | some mediaType =>
    cases Url.read config.storageEndpoint with
    | error fault => simp [bind,Except.bind]
    | ok url =>
      simp only [bind,Except.bind,Request.ready]
      split <;> simp_all

theorem storageFormed {config : Config} (checked : Checked config) {key : String} {policy : Policy}
    {file : FilePart} {request : Request}
    (made : config.storageRequest key policy file = .ok request) : request.method = .post ∧
      ∃ form, request.body = .multipart form ∧ Formed config key policy file form := by
  obtain ⟨method,mediaType,read,body⟩ := Uploader.storageRequestForm made
  exact ⟨method,_,body,formFormed checked key policy read⟩

/-- With checked options every form is sent that has somewhere to go, and holds the signed fields as
they were given and every extra field once; options with a reserved name among the extra fields pass no
check. -/
theorem formsHold (config : Config) :
    (config.validate = .ok () → ∀ key policy file,
      ((∃ request, config.storageRequest key policy file = .ok request) ↔ config.Sends file) ∧
      ∀ request, config.storageRequest key policy file = .ok request → request.method = .post ∧
        ∃ form, request.body = .multipart form ∧ Formed config key policy file form) ∧
    ((∃ name ∈ config.extraFields.keys, ∃ reserved ∈ reservedFields,
        Text.sameAsciiFold reserved name = true) → ∃ e, config.validate = .error e) := by
  constructor
  · intro valid key policy file
    exact ⟨storageSends config key policy file,
      fun request made => storageFormed (validated valid) made⟩
  · rintro ⟨name,configured,reserved,mem,same⟩
    exact reservedRejected configured (List.any_eq_true.mpr ⟨reserved,mem,same⟩)

def labelled : Config :=
  { Uploader.sampleConfig false with
    extraFields := .ofList [("x-oss-meta-a","1"),("Keys","2")] }

def shadowing : Config :=
  { Uploader.sampleConfig false with extraFields := .ofList [("SIGNATURE","forged")] }

def samplePart : FilePart := ⟨"a","text/plain",[]⟩

theorem labelledForms : ∃ request, labelled.validate = .ok () ∧
    labelled.storageRequest "k" ⟨"A","S","P",none⟩ samplePart = .ok request ∧
    request.method = .post ∧ ∃ form, request.body = .multipart form ∧
      Formed labelled "k" ⟨"A","S","P",none⟩ samplePart form ∧
      (∃ e, shadowing.validate = .error e) := by
  have valid : labelled.validate = .ok () := by decide +kernel
  obtain ⟨sends,holds⟩ := (formsHold labelled).1 valid "k" ⟨"A","S","P",none⟩ samplePart
  obtain ⟨url,read,sendable⟩ : ∃ url, Http.Url.read labelled.storageEndpoint = .ok url ∧
      url.takeLogin.1.isSendable = true := ⟨_,rfl,by decide +kernel⟩
  obtain ⟨request,made⟩ := sends.mpr ⟨by decide +kernel,url,read,sendable⟩
  obtain ⟨method,form,body,formed⟩ := holds request made
  have rejected := (formsHold shadowing).2
    ⟨"SIGNATURE",by decide +kernel,"signature",by decide +kernel,by decide +kernel⟩
  exact ⟨request,valid,made,method,form,body,formed,rejected⟩

end Config
end SignedUpload

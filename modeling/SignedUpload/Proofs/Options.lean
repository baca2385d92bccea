import SignedUpload.Proofs.Answers

/-! What the options of an uploader have passed. No field that is added to a form has a reserved name,
so a form holds each text of its policy once. -/
namespace SignedUpload

namespace Config

structure Checked (config : Config) : Prop where
  scheme : config.scheme = "http" ∨ config.scheme = "https"
  host : config.checkHost = .ok ()
  policyUrl : Text.blank config.policyUrl = false
  method : (Http.Method.read? config.policyMethod).isSome = true
  extraFields : config.checkExtraFields = .ok ()
  kind : ∃ kind, config.fileKind = .ok kind
  fields : config.responseFields.validate = .ok ()

theorem validated {config : Config} (valid : config.validate = .ok ()) : Checked config := by
  unfold validate at valid
  simp only [bind,Except.bind,throw,throwThe,MonadExceptOf.throw] at valid
  split at valid
  · cases valid
  rename_i scheme
  split at valid
  · cases valid
  rename_i host
  split at valid
  · cases valid
  rename_i url
  split at valid
  · cases valid
  rename_i method
  split at valid
  · cases valid
  rename_i extra
  split at valid
  · cases valid
  rename_i kind known
  refine ⟨?_,host,by simpa using url,?_,extra,⟨kind,known⟩,valid⟩
  · exact Decidable.byContradiction fun other => scheme (not_or.mp other)
  · simpa [Option.isSome_iff_ne_none] using method

theorem reservedSame {name : String} (reserved : name ∈ reservedFields) : isReserved name = true :=
  List.any_eq_true.mpr ⟨name,reserved,by simp [Text.sameAsciiFold]⟩

theorem Checked.plain {config : Config} (checked : Checked config) {name : String}
    (configured : name ∈ config.extraFields.keys) : isReserved name = false := by
  have passed := checked.extraFields
  unfold checkExtraFields at passed
  split at passed <;> try contradiction
  rename_i unfound
  simpa using List.find?_eq_none.mp unfound name configured

theorem Checked.unreserved {config : Config} (checked : Checked config) {name : String}
    (reserved : name ∈ reservedFields) : name ∉ config.extraFields.keys := by
  intro mem
  have plain := checked.plain mem
  rw [reservedSame reserved] at plain
  cases plain

end Config

namespace Uploader

theorem renderedChecked {config : Config} {u : Uploader}
    (ready : Uploader.render config = .ok u) : config.Checked := by
  cases checked : config.validate with
  | ok _ => exact Config.validated checked
  | error e => simp [Uploader.render,checked] at ready

def fieldValues (name : String) (form : Http.Multipart) : List String :=
  (form.fields.filter (·.1 = name)).map (·.2)

def SignedBy (policy : Policy) (request : Http.Request) : Prop :=
  request.method = .post ∧ ∃ form, request.body = .multipart form ∧
    fieldValues "OSSAccessKeyId" form = [policy.accessId] ∧
    fieldValues "signature" form = [policy.signature] ∧
    fieldValues "policy" form = [policy.document]

theorem readyMade {made request : Http.Request} (ready : made.ready = .ok request) :
    request = made := by
  unfold Http.Request.ready at ready
  split at ready
  · exact (Except.ok.inj ready).symm
  · cases ready

theorem storageRequestForm {config : Config} {key : String} {policy : Policy} {file : Http.FilePart}
    {request : Http.Request} (made : config.storageRequest key policy file = .ok request) :
    request.method = .post ∧ ∃ mediaType, Http.MediaType.read? file.mediaType = some mediaType ∧
      request.body = .multipart (config.storageForm key policy { file with mediaType }) := by
  unfold Config.storageRequest at made
  split at made
  · cases made
  · rename_i mediaType read
    simp only [bind,Except.bind] at made
    split at made
    · cases made
    · cases readyMade made
      exact ⟨rfl,mediaType,read,rfl⟩

theorem formValues {config : Config} (checked : config.Checked) (key : String) (policy : Policy)
    (part : Http.FilePart) {name : String} (reserved : name ∈ Config.reservedFields) :
    fieldValues name (config.storageForm key policy part) =
      ((([("key",key),("policy",policy.document),("OSSAccessKeyId",policy.accessId),
        ("signature",policy.signature),("success_action_status","200")] :
          List (String × String)).filter (·.1 = name)).map (·.2)) := by
  have absent : config.extraFields.entries.filter (·.1 = name) = [] := by
    refine List.filter_eq_nil_iff.mpr fun entry mem same => checked.unreserved reserved ?_
    exact List.mem_map.mpr ⟨entry,mem,by simpa using same⟩
  simp only [fieldValues,Config.storageForm,List.filter_append,absent,List.append_nil]

theorem postingForm {config : Config} {policy : Policy} {job : Job}
    {contents : Except DiskFault Bytes} {request : Http.Request}
    (made : posting config policy job contents = .ok request) : request.method = .post ∧
      ∃ part, request.body = .multipart (config.storageForm job.key policy part) := by
  unfold posting at made
  split at made <;> try contradiction
  split at made <;> try contradiction
  rename_i made'
  cases made
  obtain ⟨method,_,-,body⟩ := storageRequestForm made'
  exact ⟨method,_,body⟩

theorem postingSigned {config : Config} (checked : config.Checked) {policy : Policy} {job : Job}
    {contents : Except DiskFault Bytes} {request : Http.Request}
    (made : posting config policy job contents = .ok request) : SignedBy policy request := by
  obtain ⟨method,part,body⟩ := postingForm made
  refine ⟨method,_,body,?_,?_,?_⟩
  · rw [formValues checked _ _ _ (by decide)]
    rfl
  · rw [formValues checked _ _ _ (by decide)]
    rfl
  · rw [formValues checked _ _ _ (by decide)]
    rfl

theorem postingKeyed {config : Config} (checked : config.Checked) {policy : Policy} {job : Job}
    {contents : Except DiskFault Bytes} {request : Http.Request}
    (made : posting config policy job contents = .ok request) :
    ∃ form, request.body = .multipart form ∧ fieldValues "key" form = [job.key] := by
  obtain ⟨-,part,body⟩ := postingForm made
  refine ⟨_,body,?_⟩
  rw [formValues checked _ _ _ (by decide)]
  rfl

end Uploader

end SignedUpload

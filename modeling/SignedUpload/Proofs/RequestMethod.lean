import SignedUpload.Proofs.Options
import SignedUpload.Proofs.Requests
import SignedUpload.Proofs.Spellings
import SignedUpload.Proofs.Utf8
import Mathlib.Data.List.Infix

/-! The method of a policy request. The checks read the word by full case mapping, and the request is
made by the case of ASCII letters alone. The two part over the letters above ASCII that only the former
takes for a part of the word. -/
namespace SignedUpload

namespace Text

def otherForms : List Char := ['ſ','ﬅ','ﬆ']

def holdsOther (word : String) : Bool := word.toList.any otherForms.contains

theorem holdsNone {word : String} :
    holdsOther word = false ↔ ∀ c ∈ word.toList, c ∉ otherForms := by
  simp [holdsOther]

theorem wordLetter {c : Char} (inWord : c ∈ "POST".toList) :
    c = 'P' ∨ c = 'O' ∨ c = 'S' ∨ c = 'T' := by
  simpa using inWord

theorem otherLetter {c : Char} (other : c ∈ otherForms) : c = 'ſ' ∨ c = 'ﬅ' ∨ c = 'ﬆ' := by
  simpa [otherForms] using other

theorem otherAbove {c : Char} (other : c ∈ otherForms) : 0x80 ≤ c.toNat := by
  rcases otherLetter other with rfl | rfl | rfl <;> decide

theorem longOther : ∀ e ∈ Case.upperLong, e.2.map Char.ofNat <:+: "POST".toList →
    Char.ofNat e.1 ∈ otherForms := by
  decide +kernel

theorem shiftOther : ∀ r ∈ Case.upperRuns, ∀ code ∈ "POST".toList.map Char.toNat,
    r.covers (code - r.distance).toNat = true →
      Char.ofNat (code - r.distance).toNat ∈ otherForms := by
  decide +kernel

theorem shiftWord {n : Nat} (inWord : Char.ofNat n ∈ "POST".toList) :
    (Char.ofNat n).toNat = n ∧ 0 < n ∧ n < 0x80 := by
  have letter : 0 < (Char.ofNat n).toNat ∧ (Char.ofNat n).toNat < 0x80 := by
    rcases wordLetter inWord with same | same | same | same <;> rw [same] <;> decide
  by_cases valid : n.isValidChar
  · rw [Utf8.validNat valid] at letter
    exact ⟨Utf8.validNat valid,letter⟩
  · rw [Char.ofNat,dif_neg valid] at letter
    exact absurd letter.1 (by decide)

theorem upperOther {c : Char} (above : 0x80 ≤ c.toNat) (inWord : upperChar c <:+: "POST".toList) :
    c ∈ otherForms := by
  unfold upperChar at inWord
  rw [if_neg (Nat.not_lt.mpr above)] at inWord
  rw [← Char.ofNat_toNat c]
  split at inWord
  · rename_i codes found
    obtain ⟨before,after,table,-⟩ := List.lookup_eq_some_iff.mp found
    have entry : (c.toNat,codes) ∈ Case.upperLong := by simp [table]
    exact longOther _ entry inWord
  · have capital := (List.singleton_infix_iff _ _).mp inWord
    unfold Case.shift at capital
    split at capital
    · rename_i run found
      have covers : run.covers c.toNat = true :=
        List.find?_some (p := fun r : Case.Run => r.covers c.toNat) found
      have back : ((Char.ofNat (c.toNat + run.distance).toNat).toNat - run.distance).toNat =
          c.toNat := by
        obtain ⟨same,positive,-⟩ := shiftWord capital
        rw [same]
        omega
      have other := shiftOther run (List.mem_of_find?_eq_some found) _
        (List.mem_map_of_mem capital)
      rw [back] at other
      exact other covers
    · exact absurd (shiftWord capital).2.2 (Nat.not_lt.mpr above)

theorem upperAscii {cs : List Char} (low : ∀ c ∈ cs, c.toNat < 0x80) :
    cs.flatMap upperChar = cs.map asciiUpper := by
  induction cs with
  | nil => rfl
  | cons c rest ih =>
    have first : upperChar c = [asciiUpper c] := if_pos (low c List.mem_cons_self)
    rw [List.flatMap_cons,first,ih fun d mem => low d (List.mem_cons_of_mem _ mem)]
    rfl

theorem foldedPost {word : String} : sameAsciiFold word "POST" = true ↔
    upper word = "POST" ∧ holdsOther word = false := by
  have spelled : upper word = "POST" ↔ word.toList.flatMap upperChar = "POST".toList := by
    rw [upper,← String.toList_inj,String.toList_ofList]
  rw [spelled,sameAsciiFold,beq_iff_eq]
  constructor
  · intro folded
    have low : ∀ c ∈ word.toList, c.toNat < 0x80 := by
      intro c mem
      by_contra above
      have lowered : c ∈ "POST".toList.map asciiLower := by
        rw [← folded]
        exact List.mem_map.mpr ⟨c,mem,(asciiAbove (Nat.not_lt.mp above)).1⟩
      obtain ⟨letter,inWord,rfl⟩ := List.mem_map.mp lowered
      rcases wordLetter inWord with rfl | rfl | rfl | rfl <;> exact above (by decide)
    refine ⟨?_,holdsNone.mpr fun c mem other => Nat.not_lt.mpr (otherAbove other) (low c mem)⟩
    calc word.toList.flatMap upperChar
      _ = word.toList.map asciiUpper := upperAscii low
      _ = (word.toList.map asciiLower).map asciiUpper := by
        rw [List.map_map]
        exact List.map_congr_left fun c _ => (upperOfLower c).symm
      _ = "POST".toList := by
        rw [folded]
        rfl
  · rintro ⟨upper,plain⟩
    have low : ∀ c ∈ word.toList, c.toNat < 0x80 := by
      intro c mem
      by_contra above
      exact holdsNone.mp plain c mem
        (upperOther (Nat.not_lt.mp above) (upper ▸ List.infix_flatMap_of_mem mem _))
    calc word.toList.map asciiLower
      _ = (word.toList.map asciiUpper).map asciiLower := by
        rw [List.map_map]
        exact List.map_congr_left fun c _ => (lowerOfUpper c).symm
      _ = "POST".toList.map asciiLower := by rw [← upperAscii low,upper]

end Text

namespace Config

open Http

theorem readPost {word : String} : Method.read? word = some .post ↔ Text.upper word = "POST" := by
  simp only [Method.read?]
  constructor
  · intro read
    split at read
    · cases read
    · split at read
      · assumption
      · cases read
  · intro upper
    rw [upper]
    rfl

theorem methodPost (config : Config) : config.requestMethod = .post ↔
    Method.read? config.policyMethod = some .post ∧
      Text.holdsOther config.policyMethod = false := by
  rw [readPost,← Text.foldedPost]
  unfold requestMethod
  split <;> simp_all

theorem Checked.methodGet {config : Config} (checked : config.Checked) :
    config.requestMethod = .get ↔ Method.read? config.policyMethod = some .get ∨
      Method.read? config.policyMethod = some .post ∧
        Text.holdsOther config.policyMethod = true := by
  have other : config.requestMethod = .get ↔ ¬config.requestMethod = .post := by
    cases config.requestMethod <;> simp
  obtain ⟨method,read⟩ := Option.isSome_iff_exists.mp checked.method
  rw [other,methodPost,read]
  cases method <;> simp

structure ByForm (config : Config) (request : Request) : Prop where
  method : request.method = .post
  body : request.body = .form (Form.encode config.policyData.entries)
  header : formHeader ∈ request.headers
  url : ∃ base, Url.read config.policyUrl = .ok base ∧ request.url = base.takeLogin.1

structure ByQuery (config : Config) (request : Request) : Prop where
  method : request.method = .get
  body : request.body = .empty
  url : ∃ base, Url.read config.policyUrl = .ok base ∧
    request.url = base.takeLogin.1.appendQuery config.policyData.entries

theorem requestMade {config : Config} {request : Request}
    (made : config.policyRequest = .ok request) :
    config.requestMethod = .post ∧ config.ByForm request ∨
      config.requestMethod = .get ∧ config.ByQuery request := by
  unfold policyRequest at made
  simp only [bind,Except.bind] at made
  split at made
  · cases made
  rename_i base read
  split at made
  · cases made
  split at made
  · rename_i get
    cases Uploader.readyMade made
    exact .inr ⟨get,rfl,rfl,base,read,rfl⟩
  · rename_i post
    cases Uploader.readyMade made
    exact .inl ⟨post,rfl,rfl,by simp,base,read,rfl⟩

theorem formPost {config : Config} {request : Request}
    (made : config.policyRequest = .ok request) :
    (config.ByForm request ↔ config.requestMethod = .post) ∧
      (config.ByQuery request ↔ config.requestMethod = .get) := by
  rcases requestMade made with ⟨method,form⟩ | ⟨method,query⟩
  · have other : ¬config.ByQuery request := fun query => by cases form.method.symm.trans query.method
    simp [method,form,other]
  · have other : ¬config.ByForm request := fun form => by cases form.method.symm.trans query.method
    simp [method,query,other]

end Config

namespace Uploader

theorem stepMade {u v : Uploader} {e : Event} {said : List Effect}
    (step : u.step? e = some (v,said)) {request : Http.Request} (asked : request ∈ requests said) :
    u.config.policyRequest = .ok request := by
  cases call : e.isCall with
  | true => exact (callSpeaks call step).made asked
  | false =>
    rw [answerAsks (answerCases call step)] at asked
    cases asked

theorem runMade {u w : Uploader} {events : List Event} {effects : List Effect} (sound : Sound u)
    (run : u.run? events = some (w,effects)) {request : Http.Request}
    (asked : request ∈ requests effects) : u.config.policyRequest = .ok request := by
  obtain ⟨v,e,x,said,-,config,next,told⟩ := sound.source run (requestsIff.mp asked)
  exact config ▸ stepMade next (requestsIff.mpr told)

/-- Every policy request of every run goes by the word of the options: as a form when it was read as
"POST" and holds none of the other letters, and as a query when it was read as "GET", or as "POST" by
such a letter. -/
theorem methodAsRead {config : Config} (valid : config.validate = .ok ()) : ∃ u,
    render config = .ok u ∧ ∀ {events effects w}, u.run? events = some (w,effects) →
      ∀ request ∈ requests effects,
        (config.ByForm request ↔ Http.Method.read? config.policyMethod = some .post ∧
          Text.holdsOther config.policyMethod = false) ∧
        (config.ByQuery request ↔ Http.Method.read? config.policyMethod = some .get ∨
          Http.Method.read? config.policyMethod = some .post ∧
            Text.holdsOther config.policyMethod = true) := by
  have checked := Config.validated valid
  obtain ⟨kind,known⟩ := checked.kind
  have ready : render config = .ok ⟨config,kind,[],[],0,false,none⟩ := by simp [render,valid,known]
  refine ⟨_,ready,fun run request asked => ?_⟩
  have made := runMade (renderedSound ready) run asked
  obtain ⟨form,query⟩ := Config.formPost made
  rw [form,query,Config.methodPost,checked.methodGet]
  exact ⟨.rfl,.rfl⟩

def worded (word : String) : Config :=
  { sampleConfig false with policyMethod := word, policyData := .ofList [("a","1")] }

def wordedFresh (word : String) : Uploader := ⟨worded word,.file,[],[],0,false,none⟩

def wordedRun (word : String) : Result := (wordedFresh word).after [.choose sampleDisk [[97]]]

theorem mixedCaseForm : (worded "PosT").validate = .ok () ∧ ∃ request,
    render (worded "PosT") = .ok (wordedFresh "PosT") ∧
    (wordedFresh "PosT").run? [.choose sampleDisk [[97]]] =
      some ((wordedRun "PosT").1,(wordedRun "PosT").2) ∧
    request ∈ requests (wordedRun "PosT").2 ∧
    (worded "PosT").ByForm request ∧ ¬(worded "PosT").ByQuery request := by
  have valid : (worded "PosT").validate = .ok () := by decide +kernel
  have ran : (wordedFresh "PosT").run? [.choose sampleDisk [[97]]] =
      some ((wordedRun "PosT").1,(wordedRun "PosT").2) := runAfter (by decide +kernel)
  have ready : render (worded "PosT") = .ok (wordedFresh "PosT") := by decide +kernel
  obtain ⟨u,ready',goes⟩ := methodAsRead valid
  rw [ready] at ready'
  cases ready'
  obtain ⟨request,asked⟩ : ∃ request, requests (wordedRun "PosT").2 = [request] := ⟨_,rfl⟩
  have mem : request ∈ requests (wordedRun "PosT").2 := by simp [asked]
  obtain ⟨form,query⟩ := goes ran request mem
  exact ⟨valid,request,ready,ran,mem,form.mpr ⟨by decide +kernel,by decide +kernel⟩,
    mt query.mp (by decide +kernel)⟩

theorem longSAsQuery : ¬∀ {config : Config} {u w : Uploader} {events : List Event}
    {effects : List Effect}, render config = .ok u → u.run? events = some (w,effects) →
      ∀ request ∈ requests effects,
        (config.ByForm request ↔ Http.Method.read? config.policyMethod = some .post) ∧
        (config.ByQuery request ↔ Http.Method.read? config.policyMethod = some .get) := by
  intro agree
  have ready : render (worded "poſt") = .ok (wordedFresh "poſt") := by decide +kernel
  have ran : (wordedFresh "poſt").run? [.choose sampleDisk [[97]]] =
      some ((wordedRun "poſt").1,(wordedRun "poſt").2) := runAfter (by decide +kernel)
  obtain ⟨request,asked⟩ : ∃ request, requests (wordedRun "poſt").2 = [request] := ⟨_,rfl⟩
  have form := (agree ready ran request (by simp [asked])).1.mpr (by decide +kernel)
  have sent : (requests (wordedRun "poſt").2).map (·.method) = [.get] := by decide +kernel
  rw [asked,List.map_singleton,form.method] at sent
  cases sent

end Uploader
end SignedUpload

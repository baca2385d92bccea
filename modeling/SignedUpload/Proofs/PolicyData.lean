import SignedUpload.Proofs.FormText
import SignedUpload.Proofs.Forms
import SignedUpload.Proofs.RequestMethod

/-! The data of a policy request. Behind an address without a query the data is all that the query says, so
what is read from the query, or from the form in the body, is every pair of the data in the order of the
keys. Data that makes the address too long is not sent in part: there is no request then. -/
namespace SignedUpload

namespace Http

theorem headersAllowed {entries : List (String × String)} :
    (∃ headers, headersOf entries = .ok headers) ↔
      ∀ e ∈ entries, (Header.of? e.1 e.2).isSome = true := by
  induction entries with
  | nil => simp [headersOf]
  | cons e rest ih =>
    rw [List.forall_mem_cons,← ih]
    cases header : Header.of? e.1 e.2 with
    | none => simp [headersOf,header]
    | some h => cases others : headersOf rest <;> simp [headersOf,header,others,Except.map]

theorem takeLoginQuery (u : Url) : u.takeLogin.1.query = u.query := by
  unfold Url.takeLogin
  dsimp only
  split
  · split <;> rfl
  · rfl

theorem appendPlain {u : Url} (plain : u.query = none) (entries : List (String × String)) :
    (u.appendQuery entries).query.getD "" = Form.encode entries := by
  have added : (if entries = [] then "" else Form.encode entries) = Form.encode entries := by
    split
    case isTrue empty => rw [empty]; rfl
    · rfl
  simp only [Url.appendQuery,plain,Option.getD_none,if_true,added]
  split
  case isTrue empty => rw [empty]; rfl
  · rfl

end Http

namespace Config

open Http

section Request
variable {config : Config} {base : Url} {request : Request}

def askedUrl (config : Config) (base : Url) : Url :=
  match config.requestMethod with
  | .get => base.takeLogin.1.appendQuery config.policyData.entries
  | .post => base.takeLogin.1

theorem policySends (read : Url.read config.policyUrl = .ok base) :
    (∃ request, config.policyRequest = .ok request) ↔
      (∀ e ∈ config.policyHeaders.entries, (Header.of? e.1 e.2).isSome = true) ∧
        (config.askedUrl base).isSendable = true := by
  rw [← headersAllowed]
  simp only [policyRequest,read,askedUrl,bind,Except.bind]
  cases headersOf config.policyHeaders.entries with
  | error fault => simp
  | ok headers =>
    cases config.requestMethod <;> simp only [Request.ready] <;> split <;> simp_all

structure Conveys (config : Config) (request : Request) : Prop where
  method : request.method = config.requestMethod
  query : config.requestMethod = .get →
    Form.decode (request.url.query.getD "") = config.policyData.entries ∧ request.body = .empty
  form : config.requestMethod = .post → request.url.query = none ∧
    ∃ text, request.body = .form text ∧ Form.decode text = config.policyData.entries

theorem requestConveys (read : Url.read config.policyUrl = .ok base) (plain : base.query = none)
    (made : config.policyRequest = .ok request) : config.Conveys request := by
  have bare : base.takeLogin.1.query = none := (takeLoginQuery base).trans plain
  rcases requestMade made with ⟨post,form⟩ | ⟨get,query⟩
  · refine ⟨form.method.trans post.symm,?_,?_⟩
    · intro get
      cases get.symm.trans post
    · intro _
      obtain ⟨base',read',url⟩ := form.url
      cases read.symm.trans read'
      exact ⟨by rw [url,bare],_,form.body,Form.decodeEncode _⟩
  · refine ⟨query.method.trans get.symm,?_,?_⟩
    · intro _
      obtain ⟨base',read',url⟩ := query.url
      cases read.symm.trans read'
      exact ⟨by rw [url,appendPlain bare,Form.decodeEncode],query.body⟩
    · intro post
      cases get.symm.trans post

theorem conveyedApart {other : Config} (conveys : config.Conveys request)
    (conveys' : other.Conveys request) (method : other.requestMethod = config.requestMethod) :
    other.policyData.entries = config.policyData.entries := by
  cases sent : config.requestMethod with
  | get => exact (conveys'.query (method.trans sent)).1.symm.trans (conveys.query sent).1
  | post =>
    obtain ⟨-,text,body,decoded⟩ := conveys.form sent
    obtain ⟨-,text',body',decoded'⟩ := conveys'.form (method.trans sent)
    cases body.symm.trans body'
    exact decoded'.symm.trans decoded

end Request

def withData (config : Config) (data : TextMap) : Config := { config with policyData := data }

structure DataCarried (config : Config) (base : Url) : Prop where
  made : (∃ request, config.policyRequest = .ok request) ↔
    (∀ e ∈ config.policyHeaders.entries, (Header.of? e.1 e.2).isSome = true) ∧
      (config.askedUrl base).isSendable = true
  carried : ∀ {request}, config.policyRequest = .ok request → config.Conveys request
  order : config.policyData.entries.Pairwise fun a b => Utf8.encode a.1 < Utf8.encode b.1
  apart : ∀ {data}, data ≠ config.policyData → ∀ {request other},
    config.policyRequest = .ok request → (config.withData data).policyRequest = .ok other →
      request ≠ other
  asked : ∀ {u}, Uploader.render config = .ok u → ∀ {events effects w},
    u.run? events = some (w,effects) →
      ∀ request ∈ Uploader.requests effects, config.policyRequest = .ok request
  once : ∀ {u}, Uploader.render config = .ok u → ∀ {events effects w},
    u.run? events = some (w,effects) → w.batch = none → ∀ {call}, Uploader.Starts w call →
      ∀ {request}, config.policyRequest = .ok request → ∃ v said,
        w.step? call = some (v,said) ∧ Uploader.Opens request v said

/-- Behind an address without a query every request holds the whole data and nothing else. It is the one
request of its batch, and other data gives another request. -/
theorem dataCarried {config : Config} {base : Url} (read : Url.read config.policyUrl = .ok base)
    (plain : base.query = none) : config.DataCarried base where
  made := policySends read
  carried := requestConveys read plain
  order := config.policyData.byteOrder
  apart := by
    rintro data differs request _ made made' rfl
    have conveys := requestConveys read plain made
    have conveys' : (config.withData data).Conveys request := requestConveys read plain made'
    exact differs (TextMap.entriesInjective (conveyedApart conveys conveys' rfl))
  asked := by
    intro u ready events effects w run request asked
    have made := Uploader.runMade (Uploader.renderedSound ready) run asked
    obtain ⟨kind,rfl⟩ := Uploader.renderedFresh ready
    exact made
  once := by
    intro u ready events effects w run free call starts request made
    have sound := Uploader.renderedSound ready
    have config := (Uploader.runLater sound run).config
    obtain ⟨kind,rfl⟩ := Uploader.renderedFresh ready
    obtain ⟨v,said,step⟩ := Uploader.startsRuns starts
    exact ⟨v,said,step,Uploader.startsOpens (Uploader.runSound sound run) free starts
      (by rw [config]; exact made) step⟩

def awkward : List (String × String) := [("","a=b&c"),("k&"," %41+é"),("z","")]

def awkwardBy (word : String) : Config :=
  (Uploader.worded word).withData (.ofList awkward)

theorem awkwardCarried : ∃ base query form,
    Url.read (awkwardBy "GET").policyUrl = .ok base ∧ base.query = none ∧
    (awkwardBy "GET").policyRequest = .ok query ∧
      Form.decode (query.url.query.getD "") = awkward ∧ query.body = .empty ∧
    (awkwardBy "POST").policyRequest = .ok form ∧ form.url.query = none ∧
      ∃ text, form.body = .form text ∧ Form.decode text = awkward := by
  obtain ⟨base,read,plain,goes⟩ : ∃ base, Url.read (awkwardBy "GET").policyUrl = .ok base ∧
      base.query = none ∧ ((awkwardBy "GET").askedUrl base).isSendable = true ∧
        ((awkwardBy "POST").askedUrl base).isSendable = true :=
    ⟨_,rfl,by decide +kernel,by decide +kernel,by decide +kernel⟩
  have byQuery : (awkwardBy "GET").DataCarried base := dataCarried read plain
  have byForm : (awkwardBy "POST").DataCarried base := dataCarried read plain
  obtain ⟨query,made⟩ := byQuery.made.mpr ⟨by decide +kernel,goes.1⟩
  obtain ⟨form,made'⟩ := byForm.made.mpr ⟨by decide +kernel,goes.2⟩
  have kept : (TextMap.ofList awkward).entries = awkward := by decide +kernel
  have data : ∀ word, (awkwardBy word).policyData.entries = awkward := fun _ => kept
  have inQuery := (byQuery.carried made).query (by decide +kernel)
  have inForm := (byForm.carried made').form (by decide +kernel)
  rw [data] at inQuery inForm
  exact ⟨base,query,form,read,plain,made,inQuery.1,inQuery.2,made',inForm⟩

-- With a header that is not allowed nothing is sent, whatever the data.
def barred : Config := { awkwardBy "GET" with policyHeaders := .ofList [("a b","x")] }

theorem differentDataUnsent : ¬∀ {config : Config} {base : Url}, config.validate = .ok () →
    Url.read config.policyUrl = .ok base → base.query = none → ∀ {data}, data ≠ config.policyData →
      ∃ request other, config.policyRequest = .ok request ∧
        (config.withData data).policyRequest = .ok other ∧ request ≠ other := by
  intro sends
  obtain ⟨base,read,plain⟩ : ∃ base, Url.read barred.policyUrl = .ok base ∧ base.query = none :=
    ⟨_,rfl,by decide +kernel⟩
  have other : TextMap.ofList [] ≠ barred.policyData := by decide +kernel
  obtain ⟨request,-,made,-⟩ := sends (by decide +kernel) read plain other
  have unmade : barred.policyRequest.toOption = none := by decide +kernel
  rw [made] at unmade
  cases unmade

end Config
end SignedUpload

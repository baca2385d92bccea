import SignedUpload.Proofs.Grants
import SignedUpload.Proofs.Spellings
import Mathlib.Data.List.DropRight

/-! Where the storage is. An override loses the slashes at its end and may then be blank, and the host that
is put together keeps the end of the provider's name: the checks look at neither. A blank address is one
that nothing is posted to, and behind a slash the address of an object has two. -/
namespace SignedUpload

def slashes (n : Nat) : String := String.ofList (List.replicate n '/')

def Slashed (s : String) : Prop := s.toList.getLast? = some '/'

instance (s : String) : Decidable (Slashed s) := inferInstanceAs (Decidable (_ = _))

section Slashes
variable {s front : List Char}

theorem slashSplit (s : List Char) : ∃ n, s = s.rdropWhile (· == '/') ++ List.replicate n '/' := by
  have last : s.rtakeWhile (· == '/') = List.replicate (s.rtakeWhile (· == '/')).length '/' := by
    refine List.eq_replicate_of_mem fun c mem => ?_
    simpa using List.mem_rtakeWhile_imp mem
  exact ⟨_,by rw [← last,List.rdropWhile_append_rtakeWhile]⟩

theorem strippedPlain : (s.rdropWhile (· == '/')).getLast? ≠ some '/' := by
  intro slash
  have nonempty : s.rdropWhile (· == '/') ≠ [] := by
    intro empty
    rw [empty] at slash
    cases slash
  have other := List.rdropWhile_last_not (· == '/') s nonempty
  rw [List.getLast?_eq_getLast_of_ne_nil nonempty,Option.some.injEq] at slash
  simp [slash] at other

theorem strippedBehind (plain : front.getLast? ≠ some '/') (n : Nat) :
    (front ++ List.replicate n '/').rdropWhile (· == '/') = front := by
  induction n with
  | zero =>
    rw [List.replicate_zero,List.append_nil,List.rdropWhile_eq_self_iff]
    intro nonempty slash
    rw [List.getLast?_eq_getLast_of_ne_nil nonempty] at plain
    exact plain (congrArg some (by simpa using slash))
  | succ n ih =>
    rw [List.replicate_succ',← List.append_assoc,List.rdropWhile_concat_pos _ _ _ (by rfl),ih]

theorem slashedBehind (plain : front.getLast? ≠ some '/') (n : Nat) :
    (front ++ List.replicate n '/').getLast? = some '/' ↔ n ≠ 0 := by
  cases n with
  | zero => simpa using plain
  | succ n => simp [List.replicate_succ']

end Slashes

theorem blankPlain {s : String} (blank : Text.blank s = true) : ¬Slashed s := by
  intro slash
  have solid := List.all_eq_true.mp blank _ (List.mem_of_getLast? slash)
  cases solid

theorem blankOther {c : Char} (blank : Text.isBlank c = true) : Http.Url.isSchemeChar c = false :=
  Text.blankEach (motive := fun c => Http.Url.isSchemeChar c = false) (by decide +kernel) blank

theorem tidySubset (s : List Char) : ∀ c ∈ Http.Url.tidy s, c ∈ s := by
  intro c mem
  have inner := List.mem_of_mem_filter mem
  have back := (List.dropWhile_suffix _).subset (List.mem_reverse.mp inner)
  exact (List.dropWhile_suffix _).subset (List.mem_reverse.mp back)

theorem blankUnread {s : String} (blank : Text.blank s = true) :
    Http.Url.read s = .error .unbuildable := by
  have solid : ∀ c ∈ Http.Url.tidy s.toList, ¬Http.Url.isSchemeChar c = true := by
    intro c mem
    rw [blankOther (List.all_eq_true.mp blank c (tidySubset _ c mem))]
    exact Bool.false_ne_true
  have schemeless : (Http.Url.tidy s.toList).takeWhile Http.Url.isSchemeChar = [] := by
    cases tidied : Http.Url.tidy s.toList with
    | nil => rfl
    | cons c rest =>
      rw [tidied] at solid
      exact List.takeWhile_cons_of_neg (solid c List.mem_cons_self)
  have unread : Http.Url.parse? s = none := by
    simp only [Http.Url.parse?,Http.Url.splitScheme?,schemeless]
    rfl
  simp only [Http.Url.read,unread]

namespace Config

section Override
variable {config : Config}

theorem overridden {endpoint : String} (given : config.endpoint = some endpoint) :
    config.storageEndpoint = String.ofList (endpoint.toList.rdropWhile (· == '/')) := by
  simp only [storageEndpoint,given]
  rfl

theorem overriddenPlain {endpoint : String} (given : config.endpoint = some endpoint) :
    ¬Slashed config.storageEndpoint := by
  rw [Slashed,overridden given,String.toList_ofList]
  exact strippedPlain

theorem overriddenBlank {endpoint : String} (given : config.endpoint = some endpoint) :
    Text.blank config.storageEndpoint = true ↔
      ∃ front n, endpoint = front ++ slashes n ∧ Text.blank front = true := by
  rw [overridden given]
  constructor
  · intro blank
    obtain ⟨n,split⟩ := slashSplit endpoint.toList
    refine ⟨_,n,?_,blank⟩
    rw [slashes,← String.ofList_append,← split,String.ofList_toList]
  · rintro ⟨front,n,rfl,blank⟩
    rw [String.toList_append,slashes,String.toList_ofList,strippedBehind (blankPlain blank),
      String.ofList_toList]
    exact blank

theorem composed (absent : config.endpoint = none) : config.storageEndpoint =
    config.scheme ++ "://" ++ config.bucket ++ "." ++ config.region ++ "." ++
      config.providerHost := by
  simp only [storageEndpoint,absent]

theorem composedSlashed (absent : config.endpoint = none) :
    Slashed config.storageEndpoint ↔ Slashed config.providerHost := by
  rw [Slashed,composed absent,String.toList_append,List.getLast?_append]
  cases last : config.providerHost.toList.getLast? with
  | none =>
    rw [Slashed,last,String.toList_append,List.getLast?_append]
    simp
  | some c => rw [Slashed,last,Option.some_or]

theorem composedShown (checked : config.Checked) (absent : config.endpoint = none) :
    Text.blank config.storageEndpoint = false := by
  have web : ∃ c rest, config.scheme.toList = c :: rest ∧ Text.isBlank c = false := by
    rcases checked.scheme with same | same <;> rw [same] <;> exact ⟨'h',_,rfl,rfl⟩
  obtain ⟨c,rest,scheme,solid⟩ := web
  simp only [Text.blank,composed absent,String.toList_append,List.append_assoc,scheme,
    List.cons_append,List.all_cons,solid,Bool.false_and]

theorem endpointJoined (config : Config) : ∃ base n, ¬Slashed base ∧
    (n = 0 ↔ ¬Slashed config.storageEndpoint) ∧
      ∀ key, config.objectUrl key = base ++ slashes (n + 1) ++ key := by
  obtain ⟨n,split⟩ := slashSplit config.storageEndpoint.toList
  have plain := @strippedPlain config.storageEndpoint.toList
  generalize config.storageEndpoint.toList.rdropWhile (· == '/') = base at split plain
  refine ⟨String.ofList base,n,by rwa [Slashed,String.toList_ofList],?_,fun key => ?_⟩
  · rw [Slashed,split,slashedBehind plain,Decidable.not_not]
  · have endpoint : config.storageEndpoint = String.ofList base ++ slashes n := by
      rw [slashes,← String.ofList_append,← split,String.ofList_toList]
    have one : slashes (n + 1) = slashes n ++ "/" := by
      rw [slashes,slashes,List.replicate_succ',String.ofList_append]
    rw [objectUrl,endpoint,one]
    simp only [String.append_assoc]

theorem blankUnposted (blank : Text.blank config.storageEndpoint = true) (key : String)
    (policy : Policy) (file : Http.FilePart) :
    config.storageRequest key policy file = .error .unbuildable := by
  unfold storageRequest
  split
  · rfl
  · rw [blankUnread blank]
    rfl

end Override

end Config

namespace Uploader

theorem postingUnmade {config : Config} (unread : ∀ key policy file,
    config.storageRequest key policy file = .error .unbuildable) {policy : Policy} {job : Job}
    {contents : Except DiskFault Bytes} {request : Http.Request} :
    posting config policy job contents ≠ .ok request := by
  intro made
  unfold posting at made
  split at made
  · cases made
  · rw [unread] at made
    cases made

end Uploader

namespace Config

structure Placed (config : Config) : Prop where
  blank : Text.blank config.storageEndpoint = true ↔
    ∃ front n, config.endpoint = some (front ++ slashes n) ∧ Text.blank front = true
  slashed : Slashed config.storageEndpoint ↔ config.endpoint = none ∧ Slashed config.providerHost
  joined : ∃ base n, ¬Slashed base ∧ (n = 0 ↔ ¬Slashed config.storageEndpoint) ∧
    ∀ key, config.objectUrl key = base ++ slashes (n + 1) ++ key
  unposted : Text.blank config.storageEndpoint = true → ∀ {u}, Uploader.render config = .ok u →
    ∀ {events effects w}, u.run? events = some (w,effects) → Uploader.posts effects = []

/-- With checked options the address of the storage is blank just when the override is, apart from
slashes at its end, and it ends in a slash just when there is no override and the provider's name does.
Nothing is ever posted to a blank address. -/
theorem endpointPlaced {config : Config} (valid : config.validate = .ok ()) : config.Placed where
  blank := by
    cases given : config.endpoint with
    | none => simp [composedShown (validated valid) given]
    | some endpoint => simp only [overriddenBlank given,Option.some.injEq]
  slashed := by
    cases given : config.endpoint with
    | none => simp [composedSlashed given]
    | some endpoint => simp [overriddenPlain given]
  joined := endpointJoined config
  unposted := by
    intro blank u ready events effects w run
    refine List.eq_nil_iff_forall_not_mem.mpr fun _ sent => ?_
    obtain ⟨policy,contents,made⟩ := Uploader.runPosted (Uploader.renderedSound ready) run sent
    obtain ⟨kind,rfl⟩ := Uploader.renderedFresh ready
    exact Uploader.postingUnmade (blankUnposted blank) made

def placedAt (endpoint : Option String) (host : String) : Config :=
  { Uploader.sampleConfig true with
    bucket := "b"
    region := "r"
    providerHost := host
    endpoint := endpoint }

theorem overrideInOrder : (placedAt (some "http://store//") "h").validate = .ok () ∧
    (placedAt (some "http://store//") "h").Placed ∧
      (placedAt (some "http://store//") "h").objectUrl "k" = "http://store/k" := by
  have valid : (placedAt (some "http://store//") "h").validate = .ok () := by decide +kernel
  exact ⟨valid,endpointPlaced valid,by decide +kernel⟩

theorem blankAndSlashed :
    (¬∀ {config : Config}, config.validate = .ok () → Text.blank config.storageEndpoint = false) ∧
    ¬∀ {config : Config}, config.validate = .ok () → ¬Slashed config.storageEndpoint := by
  constructor
  · intro visible
    have shown := @visible (placedAt (some "") "h") (by decide +kernel)
    cases shown
  · intro unslashed
    exact @unslashed (placedAt none "h/") (by decide +kernel) (by decide +kernel)

end Config
end SignedUpload

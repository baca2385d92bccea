import SignedUpload.FileKind
import SignedUpload.Proofs.PathParts
import SignedUpload.Proofs.Spellings

/-! Which names a picker takes. A name is judged by its extension in lower case alone, and a list that is
not blank by the set of what its entries mean, whatever the kind: neither the spelling nor the order of
the entries counts. -/
namespace SignedUpload.FileKind

open SignedUpload.Path (Extends charMarks charsApart)
open Text (Bare isBlank trimChars lowerChars asciiLower)

def Means (entry extension : List Char) : Prop :=
  ∃ before dots core after, entry = before ++ (dots ++ core) ++ after ∧
    before.all isBlank = true ∧ after.all isBlank = true ∧ Bare (dots ++ core) ∧
    (∀ c ∈ dots, c = '.') ∧ core.head? ≠ some '.' ∧ extension = lowerChars core

def meaning (entry : List Char) : List Char :=
  lowerChars ((trimChars entry).dropWhile (· == '.'))

theorem undotted {dots core : List Char} (all : ∀ c ∈ dots, c = '.') (plain : core.head? ≠ some '.') :
    (dots ++ core).dropWhile (· == '.') = core := by
  rw [List.dropWhile_append_of_pos fun c mem => beq_iff_eq.mpr (all c mem)]
  cases core with
  | nil => rfl
  | cons c rest => exact List.dropWhile_cons_of_neg (by simpa using plain)

theorem meansIff {entry extension : List Char} : Means entry extension ↔ meaning entry = extension := by
  constructor
  · rintro ⟨before,dots,core,after,rfl,blank,blank',bare,all,plain,rfl⟩
    rw [meaning,Text.trimIff.mpr ⟨before,after,rfl,blank,blank',bare⟩,undotted all plain]
  · rintro rfl
    obtain ⟨before,after,same,blank,blank',bare⟩ := Text.trimIff.mp (rfl : trimChars entry = _)
    have split := List.takeWhile_append_dropWhile (p := (· == '.')) (l := trimChars entry)
    refine ⟨before,(trimChars entry).takeWhile (· == '.'),(trimChars entry).dropWhile (· == '.'),after,
      split.symm ▸ same,blank,blank',split.symm ▸ bare,fun c mem => ?_,fun first => ?_,rfl⟩
    · simpa using List.mem_takeWhile_imp mem
    · have other := List.head?_dropWhile_not (· == '.') (trimChars entry)
      rw [first] at other
      cases other

def Unset (list : Option String) : Prop := ∀ l, list = some l → Text.blank l = true

inductive Taken (kind : FileKind) (list : Option String) : String → Prop where
  | own {extensions e} (unset : Unset list) (kinds : kind.extensions? = some extensions)
      (mem : e ∈ extensions) : Taken kind list e
  | listed {l entry e} (given : list = some l) (solid : Text.blank l = false)
      (between : Between '|' l.toList entry) (means : Means entry e.toList) (nonempty : e ≠ "") :
      Taken kind list e

section Accepting
variable {kind : FileKind} {list : Option String} {name l : String}

theorem listedIff {e : String} :
    e ∈ listed l ↔ ∃ entry ∈ pieces '|' l.toList, meaning entry = e.toList ∧ e ≠ "" := by
  simp only [listed,List.mem_map,List.mem_filter,decide_eq_true_eq]
  constructor
  · rintro ⟨x,⟨⟨entry,mem,rfl⟩,nonempty⟩,rfl⟩
    exact ⟨entry,mem,by rw [String.toList_ofList]; rfl,by simpa using nonempty⟩
  · rintro ⟨entry,mem,same,nonempty⟩
    exact ⟨e.toList,⟨⟨entry,mem,same⟩,by simpa using nonempty⟩,String.ofList_toList⟩

theorem allowedUnset (unset : Unset list) : kind.allowed list = kind.extensions? := by
  cases list with
  | none => rfl
  | some l => exact if_pos (unset l rfl)

theorem allowedListed (solid : Text.blank l = false) : kind.allowed (some l) = some (listed l) :=
  if_neg (by simp [solid])

theorem unsetOr (list : Option String) : Unset list ∨ ∃ l, list = some l ∧ Text.blank l = false := by
  cases list with
  | none => exact .inl fun _ given => nomatch given
  | some l =>
    cases solid : Text.blank l with
    | true => exact .inl fun _ given => Option.some.inj given ▸ solid
    | false => exact .inr ⟨l,rfl,solid⟩

theorem takenIff {extensions : List String} (allowed : kind.allowed list = some extensions)
    (e : String) : Taken kind list e ↔ e ∈ extensions := by
  constructor
  · rintro (⟨unset,kinds,mem⟩ | ⟨rfl,solid,between,means,nonempty⟩)
    · rw [allowedUnset unset,kinds] at allowed
      exact Option.some.inj allowed ▸ mem
    · rw [allowedListed solid] at allowed
      rw [← Option.some.inj allowed]
      exact listedIff.mpr ⟨_,pieceIff.mpr between,meansIff.mp means,nonempty⟩
  · intro mem
    rcases unsetOr list with unset | ⟨l,rfl,solid⟩
    · exact .own unset (allowedUnset unset ▸ allowed) mem
    · rw [allowedListed solid] at allowed
      rw [← Option.some.inj allowed] at mem
      obtain ⟨entry,piece,same,nonempty⟩ := listedIff.mp mem
      exact .listed rfl solid (pieceIff.mp piece) (meansIff.mpr same) nonempty

theorem allowedNone : kind.allowed list = none ↔ kind = .file ∧ Unset list := by
  constructor
  · intro all
    rcases unsetOr list with unset | ⟨l,rfl,solid⟩
    · rw [allowedUnset unset] at all
      refine ⟨?_,unset⟩
      cases kind with
      | file => rfl
      | images => cases all
      | video => cases all
      | audio => cases all
    · rw [allowedListed solid] at all
      cases all
  · rintro ⟨rfl,unset⟩
    exact allowedUnset unset

theorem acceptsIff : kind.accepts name list = .ok () ↔
    ∀ extensions, kind.allowed list = some extensions →
      ∃ e, extensionOf name = some e ∧ e ∈ extensions := by
  unfold accepts
  cases kind.allowed list with
  | none => simp
  | some extensions =>
    cases extensionOf name with
    | none => simp
    | some e => by_cases mem : e ∈ extensions <;> simp [mem]

theorem extensionOfIff {e : String} : extensionOf name = some e ↔
    ∃ x, Extends charMarks name.toList x ∧ String.ofList (lowerChars x) = e := by
  simp only [extensionOf,Option.map_eq_some_iff,Path.extensionIff charsApart]

theorem acceptsTaken : kind.accepts name list = .ok () ↔ kind = .file ∧ Unset list ∨
    ∃ x, Extends charMarks name.toList x ∧ Taken kind list (String.ofList (lowerChars x)) := by
  rw [acceptsIff]
  cases allowed : kind.allowed list with
  | none =>
    exact ⟨fun _ => .inl (allowedNone.mp allowed),fun _ _ given => nomatch given⟩
  | some extensions =>
    have not_all : ¬(kind = .file ∧ Unset list) := fun all => by
      rw [allowedNone.mpr all] at allowed
      cases allowed
    simp only [Option.some.injEq,forall_eq',extensionOfIff,not_all,false_or,takenIff allowed]
    constructor
    · rintro ⟨_,⟨x,extended,rfl⟩,mem⟩
      exact ⟨x,extended,mem⟩
    · rintro ⟨x,extended,mem⟩
      exact ⟨_,⟨x,extended,rfl⟩,mem⟩

end Accepting

/-- Lists of entries that differ by their order, repeated and empty entries, blanks around entries, dots
in front of them, but not in front of a blank, and the case of ASCII letters only. -/
inductive Restyled : List (List Char) → List (List Char) → Prop where
  | order {as bs} (perm : as.Perm bs) : Restyled as bs
  | repeated {e es} : Restyled (e :: e :: es) (e :: es)
  | empty {es} : Restyled ([] :: es) es
  | spaced {before e after es} (blank : before.all isBlank = true) (blank' : after.all isBlank = true) :
      Restyled ((before ++ e ++ after) :: es) (e :: es)
  | dotted {e es} (next : ∀ c ∈ e.head?, isBlank c = false) : Restyled (('.' :: e) :: es) (e :: es)
  | letters {e e' es} (same : e.map asciiLower = e'.map asciiLower) : Restyled (e :: es) (e' :: es)
  | symm {as bs} (back : Restyled as bs) : Restyled bs as
  | trans {as bs cs} (first : Restyled as bs) (second : Restyled bs cs) : Restyled as cs

theorem meaningSpaced {before after : List Char} (blank : before.all isBlank = true)
    (blank' : after.all isBlank = true) (e : List Char) :
    meaning (before ++ e ++ after) = meaning e := by
  rw [meaning,Text.trimAfter blank',Text.trimBefore blank,meaning]

theorem meaningDotted {e : List Char} (next : ∀ c ∈ e.head?, isBlank c = false) :
    meaning ('.' :: e) = meaning e := by
  obtain ⟨before,after,same,blank,blank',bare⟩ := Text.trimIff.mp (rfl : trimChars e = _)
  -- no blank stands before the text, so the dot joins it
  have first : before = [] := by
    cases before with
    | nil => rfl
    | cons c rest =>
      rw [same] at next
      have solid := next c rfl
      rw [List.all_cons,solid] at blank
      cases blank
  rw [first,List.nil_append] at same
  have joined : trimChars ('.' :: e) = '.' :: trimChars e := by
    refine Text.trimIff.mpr ⟨[],after,?_,rfl,blank',?_,?_⟩
    · rw [List.nil_append,List.cons_append,← same]
    · intro c head
      rw [← Option.some.inj head]
      decide
    · cases text : trimChars e with
      | nil =>
        intro c last
        rw [← Option.some.inj last]
        decide
      | cons d rest =>
        rw [List.getLast?_cons_cons,← text]
        exact bare.2
  rw [meaning,joined,List.dropWhile_cons_of_pos (by decide),meaning]

theorem meaningLetters {e e' : List Char} (same : e.map asciiLower = e'.map asciiLower) :
    meaning e = meaning e' := by
  have undotted : ((· == '.') : Char → Bool) ∘ asciiLower = (· == '.') :=
    funext (Text.foldUnseen (· == '.') (by decide))
  refine Text.lowerFolded ?_
  have pushed : ∀ e : List Char, ((trimChars e).dropWhile (· == '.')).map asciiLower =
      (trimChars (e.map asciiLower)).dropWhile (· == '.') := fun e => by
    rw [Text.trimFold,List.dropWhile_map,undotted]
  rw [pushed,pushed,same]

theorem firstMeaning {a b : List Char} (same : meaning a = meaning b) (es : List (List Char))
    (x : List Char) : (∃ e ∈ a :: es, meaning e = x) ↔ ∃ e ∈ b :: es, meaning e = x := by
  simp only [List.exists_mem_cons_iff,same]

theorem Restyled.meanings {as bs : List (List Char)} (restyled : Restyled as bs) {x : List Char}
    (nonempty : x ≠ []) : (∃ e ∈ as, meaning e = x) ↔ ∃ e ∈ bs, meaning e = x := by
  induction restyled with
  | order perm => simp only [perm.mem_iff]
  | repeated => simp
  | empty =>
    have nothing : meaning [] ≠ x := fun same => nonempty same.symm
    simp only [List.exists_mem_cons_iff,nothing,false_or]
  | spaced blank blank' => exact firstMeaning (meaningSpaced blank blank' _) _ _
  | dotted next => exact firstMeaning (meaningDotted next) _ _
  | letters same => exact firstMeaning (meaningLetters same) _ _
  | symm _ ih => exact ih.symm
  | trans _ _ ih ih' => exact ih.trans ih'

def entries (list : String) : List (List Char) := pieces '|' list.toList

theorem listedRestyled {a b : String} (restyled : Restyled (entries a) (entries b)) (e : String) :
    e ∈ listed a ↔ e ∈ listed b := by
  rw [listedIff,listedIff]
  by_cases blank : e = ""
  · simp [blank]
  · have same := restyled.meanings (x := e.toList) (by simpa using blank)
    simpa [blank,entries] using same

theorem foldSpelling : Path.Spelling charMarks charMarks fun c => [asciiLower c] where
  spelled := fun _ => List.cons_ne_nil _ _
  slash := rfl
  dot := rfl
  slashOnly := fun mem => (Text.markFold (by decide)).mp (List.mem_singleton.mp mem).symm
  dotOnly := fun mem => (Text.markFold (by decide)).mp (List.mem_singleton.mp mem).symm

theorem extensionFolded {name other : String}
    (same : Text.sameAsciiFold name other = true) : extensionOf name = extensionOf other := by
  have through : ∀ name : String, extensionOf name =
      (Path.extension? charMarks (name.toList.map asciiLower)).map
        fun e => String.ofList (lowerChars e) := fun name => by
    have spelled := Path.extensionSpelled foldSpelling name.toList
    simp only [← List.map_eq_flatMap] at spelled
    rw [spelled,Option.map_map,extensionOf]
    congr 1
    exact funext fun e => by rw [Function.comp_apply,Text.lowerCharsFold]
  rw [through,through,beq_iff_eq.mp same]

/-- A name is taken exactly when its extension in lower case is, two lists that are spellings of one
another take the same names whatever the kinds, and two names that are take the same verdict. -/
theorem extensionsDecide (kind : FileKind) (name : String) :
    (∀ list, kind.accepts name list = .ok () ↔ kind = .file ∧ Unset list ∨
      ∃ x, Extends charMarks name.toList x ∧ Taken kind list (String.ofList (lowerChars x))) ∧
    (∀ (other : FileKind) {a b}, Text.blank a = false → Text.blank b = false →
      Restyled (entries a) (entries b) →
        (kind.accepts name (some a) = .ok () ↔ other.accepts name (some b) = .ok ())) ∧
    ∀ {other}, Text.sameAsciiFold name other = true → ∀ list,
      (kind.accepts name list = .ok () ↔ kind.accepts other list = .ok ()) := by
  refine ⟨fun _ => acceptsTaken,?_,?_⟩
  · intro other a b solid solid' restyled
    simp only [acceptsIff,allowedListed solid,allowedListed solid',Option.some.injEq,forall_eq',
      listedRestyled restyled]
  · intro other same list
    rw [acceptsIff,acceptsIff,extensionFolded same]

theorem oneListTwice : FileKind.images.accepts "Report.Pdf" (some " .PDF |doc") = .ok () ↔
    FileKind.video.accepts "Report.Pdf" (some "doc|pdf|pdf") = .ok () := by
  have restyled : Restyled (entries " .PDF |doc") (entries "doc|pdf|pdf") := by
    have bare : Restyled [[' '] ++ ".PDF".toList ++ [' '],"doc".toList]
        [".PDF".toList,"doc".toList] := .spaced (by decide) (by decide)
    have undotted : Restyled [".PDF".toList,"doc".toList] ["PDF".toList,"doc".toList] := by
      refine .dotted fun c first => ?_
      rw [← Option.some.inj first]
      decide
    have small : Restyled ["PDF".toList,"doc".toList] ["pdf".toList,"doc".toList] :=
      .letters (by decide)
    have turned : Restyled ["doc".toList,"pdf".toList,"pdf".toList]
        ["pdf".toList,"pdf".toList,"doc".toList] := .order (by decide)
    have once : Restyled ["pdf".toList,"pdf".toList,"doc".toList] ["pdf".toList,"doc".toList] :=
      .repeated
    exact bare.trans (undotted.trans (small.trans (turned.trans once).symm))
  exact (extensionsDecide .images "Report.Pdf").2.1 .video (by decide) (by decide) restyled

theorem dotBeforeBlank : ¬ ∀ (kind other : FileKind) (name a b : String) (e : List Char)
    (es : List (List Char)), Text.blank a = false → Text.blank b = false →
      entries a = ('.' :: e) :: es → entries b = e :: es →
        (kind.accepts name (some a) = .ok () ↔ other.accepts name (some b) = .ok ()) := by
  intro same
  have taken : FileKind.file.accepts "a.pdf" (some " pdf") = .ok () := by decide +kernel
  have refused : FileKind.file.accepts "a.pdf" (some ". pdf") ≠ .ok () := by decide +kernel
  exact refused ((same .file .file "a.pdf" ". pdf" " pdf" " pdf".toList [] (by decide) (by decide)
    (by decide) (by decide)).mpr taken)

end SignedUpload.FileKind

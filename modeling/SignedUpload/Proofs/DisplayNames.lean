import SignedUpload.ContentType
import SignedUpload.Proofs.ExtensionFilter
import SignedUpload.Proofs.Utf8

/-! The names that paths are shown by. A path is shown by the name in it, byte for byte, when those bytes
are text. No slash stands in such a name, it is neither a dot nor two, it is its own name, and what is
judged by an extension comes out the same for the name and for the path. -/
namespace SignedUpload

open SignedUpload.Path (byteMarks charMarks bytesApart charsApart Names Located)

theorem utf8Spelling : Path.Spelling charMarks byteMarks Utf8.encodeChar where
  spelled := Utf8.encodeSome
  slash := rfl
  dot := rfl
  slashOnly := fun mem => Char.toNat_inj.mp (Utf8.encodeAscii mem (by decide))
  dotOnly := fun mem => Char.toNat_inj.mp (Utf8.encodeAscii mem (by decide))

section Shown
variable {path : Path} {n : String}

theorem displayRead : (Path.fileName? byteMarks path).bind Utf8.decode? = some n ↔
    Names byteMarks path (Utf8.encode n) := by
  simp only [Option.bind_eq_some_iff,Path.fileNameIff bytesApart,Utf8.decodeIff]
  constructor
  · rintro ⟨name,names,rfl⟩
    exact names
  · exact fun names => ⟨_,names,rfl⟩

theorem displayIff : displayName path = .ok n ↔ Names byteMarks path (Utf8.encode n) := by
  rw [← displayRead,displayName]
  split <;> simp [*]

theorem displayUnusable {r : Rejection} : displayName path = .error r ↔
    r = .unusableName path.shown ∧ ((∀ name, ¬Names byteMarks path name) ∨
      ∃ name, Names byteMarks path name ∧ ∀ text, Utf8.encode text ≠ name) := by
  have silent : (Path.fileName? byteMarks path).bind Utf8.decode? = none ↔
      ((∀ name, ¬Names byteMarks path name) ∨
        ∃ name, Names byteMarks path name ∧ ∀ text, Utf8.encode text ≠ name) := by
    simp only [Option.eq_none_iff_forall_ne_some,ne_eq,displayRead]
    constructor
    · intro unspelled
      by_cases named : ∃ name, Names byteMarks path name
      · obtain ⟨name,names⟩ := named
        exact .inr ⟨name,names,fun text same => unspelled text (same ▸ names)⟩
      · exact .inl (not_exists.mp named)
    · rintro (unnamed | ⟨name,names,noText⟩) text shown
      · exact unnamed _ shown
      · exact noText text (Path.namesOne bytesApart shown names)
  rw [← silent,displayName]
  split <;> simp [*,eq_comm]

end Shown

structure CleanName (path : Path) (n : String) : Prop where
  located : Located byteMarks path (Utf8.encode n)
  nonempty : n ≠ ""
  plain : '/' ∉ n.toList
  noDot : n ≠ "."
  noDots : n ≠ ".."
  again : displayName (Utf8.encode n) = .ok n
  extension : Path.extension? byteMarks path =
    (Path.extension? charMarks n.toList).map (·.flatMap Utf8.encodeChar)
  judged : ∀ {text}, Utf8.encode text = path → extensionOf text = extensionOf n ∧
    (∀ (kind : FileKind) list, kind.accepts text list = .ok () ↔ kind.accepts n list = .ok ()) ∧
    ∀ bytes, ContentType.detect text bytes = ContentType.detect n bytes

section Clean
variable {path : Path} {n : String} (names : Names byteMarks path (Utf8.encode n))
include names

theorem namesExtension : Path.extension? byteMarks path =
    (Path.extension? charMarks n.toList).map (·.flatMap Utf8.encodeChar) :=
  (Path.extensionOfName bytesApart names).trans (Path.extensionSpelled utf8Spelling n.toList)

theorem textNamed {text : String} (whole : Utf8.encode text = path) :
    Names charMarks text.toList n.toList := by
  have spelled := Path.fileNameSpelled utf8Spelling text.toList
  change Path.fileName? byteMarks (Utf8.encode text) = _ at spelled
  rw [whole,(Path.fileNameIff bytesApart).mpr names] at spelled
  obtain ⟨cs,found,same⟩ := Option.map_eq_some_iff.mp spelled.symm
  have own : String.ofList cs = n := Utf8.encodeInjective (by
    rw [Utf8.encode,String.toList_ofList]
    exact same)
  rw [← own,String.toList_ofList]
  exact (Path.fileNameIff charsApart).mp found

theorem textExtension {text : String} (whole : Utf8.encode text = path) :
    extensionOf text = extensionOf n := by
  rw [extensionOf,Path.extensionOfName charsApart (textNamed names whole),extensionOf]

theorem cleanName : CleanName path n where
  located := names.located
  nonempty := fun empty => names.nonempty (by rw [empty]; rfl)
  plain := fun slash => names.plain (List.mem_flatMap.mpr ⟨'/',slash,by decide⟩)
  noDot := fun dot => names.noDot (by rw [dot]; rfl)
  noDots := fun dots => names.noDots (by rw [dots]; rfl)
  again := displayIff.mpr names.self
  extension := namesExtension names
  judged := by
    intro text whole
    have same := textExtension names whole
    refine ⟨same,fun kind list => ?_,fun bytes => ?_⟩
    · rw [FileKind.acceptsIff,FileKind.acceptsIff,same]
    · rw [ContentType.detect,ContentType.detect,same]

end Clean

/-- A path is shown by a name exactly when that is the name in it, such a name is clean, and there is no
other reason why none is shown. -/
theorem displayNamesClean (path : Path) :
    (∀ n, displayName path = .ok n ↔ Names byteMarks path (Utf8.encode n)) ∧
    (∀ n, displayName path = .ok n → CleanName path n) ∧
    ∀ r, displayName path = .error r ↔ r = .unusableName path.shown ∧
      ((∀ name, ¬Names byteMarks path name) ∨
        ∃ name, Names byteMarks path name ∧ ∀ text, Utf8.encode text ≠ name) :=
  ⟨fun _ => displayIff,fun _ shown => cleanName (displayIff.mp shown),fun _ => displayUnusable⟩

theorem rawFolderClean : displayName (0xFF :: Utf8.encode "/a.tar//./") = .ok "a.tar" ∧
    CleanName (0xFF :: Utf8.encode "/a.tar//./") "a.tar" := by
  have shown : displayName (0xFF :: Utf8.encode "/a.tar//./") = .ok "a.tar" := by decide +kernel
  exact ⟨shown,(displayNamesClean _).2.1 _ shown⟩

end SignedUpload

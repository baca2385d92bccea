import SignedUpload.ContentType
import SignedUpload.FileTree
import Mathlib.Data.List.Infix

/-! Signatures of formats against the first bytes of a file. Most are decided by the bytes that are read.
The others look further, and none of them fails in the whole file when it holds in the first bytes, so
the first bytes miss a type only where the whole file is of one of these. -/
namespace SignedUpload.ContentType

open FileTree (headSize)

def blindTypes : List String := [
  "application/vnd.android.dey",
  "application/x-mobipocket-ebook",
  "application/vnd.oasis.opendocument.text",
  "application/vnd.oasis.opendocument.spreadsheet",
  "application/vnd.oasis.opendocument.presentation",
  "application/x-tar",
  "application/x-rpm",
  "application/dicom"]

/-- The types whose signatures look past the first bytes. -/
def lateTypes : List String := blindTypes ++ [
  "image/heif",
  "image/avif",
  "application/vnd.openxmlformats-officedocument.wordprocessingml.document",
  "application/vnd.openxmlformats-officedocument.spreadsheetml.sheet",
  "application/vnd.openxmlformats-officedocument.presentationml.presentation",
  "application/zstd",
  "text/html",
  "text/xml"]

def Near (holds : Bytes → Bool) : Prop := ∀ file : Bytes, holds (file.take headSize) = holds file

def Kept (holds : Bytes → Bool) : Prop :=
  ∀ file : Bytes, holds (file.take headSize) = true → holds file = true

section Marks
variable {offset n : Nat} {mark file start : Bytes} {word : String}

theorem fitsPrefix : fits offset mark file = true ↔ mark <+: file.drop offset :=
  List.isPrefixOf_iff_prefix

theorem fitsKept (pre : start <+: file) (fit : fits offset mark start = true) :
    fits offset mark file = true :=
  fitsPrefix.mpr ((fitsPrefix.mp fit).trans (pre.drop offset))

theorem fitsHead : fits offset mark (file.take headSize) = true ↔
    fits offset mark file = true ∧ mark.length ≤ headSize - offset := by
  rw [fitsPrefix,fitsPrefix,List.drop_take,List.prefix_take_iff]

theorem fitsNear (within : offset + mark.length ≤ headSize) :
    fits offset mark (file.take headSize) = fits offset mark file := by
  rw [Bool.eq_iff_iff,fitsHead]
  exact and_iff_left (by omega)

theorem fitsFar (positive : 0 < mark.length) (past : headSize < offset + mark.length) :
    fits offset mark (file.take headSize) = false := by
  rw [Bool.eq_false_iff,ne_eq,fitsHead]
  omega

theorem opensNear (within : mark.length ≤ headSize) :
    opens mark (file.take headSize) = opens mark file := fitsNear (by omega)

theorem spellsNear (within : offset + (ascii word).length ≤ headSize) :
    spells offset word (file.take headSize) = spells offset word file := fitsNear within

theorem spellsFar (positive : 0 < (ascii word).length)
    (past : headSize < offset + (ascii word).length) :
    spells offset word (file.take headSize) = false := fitsFar positive past

theorem longerNear (within : n < headSize) : longer n (file.take headSize) = longer n file := by
  simp only [longer,List.length_take,decide_eq_decide]
  omega

theorem longerFar (past : headSize ≤ n) : longer n (file.take headSize) = false := by
  simp only [longer,List.length_take,decide_eq_false_iff_not]
  omega

theorem byteNear (within : offset < headSize) :
    byteAt offset (file.take headSize) = byteAt offset file := by
  rw [byteAt,byteAt,List.getElem?_take_of_lt within]

theorem wordNear (within : offset + 3 < headSize) :
    wordAt offset (file.take headSize) = wordAt offset file := by
  simp (disch := omega) only [wordAt,byteNear]

end Marks

section Near
variable {name : String} {file : Bytes}

theorem classNear : isClass (file.take headSize) = isClass file := by
  simp (disch := decide) only [isClass,opensNear,longerNear,wordNear,byteNear]

theorem machNear : isMach (file.take headSize) = isMach file := by
  simp (disch := decide) only [isMach,opensNear,longerNear,wordNear]

theorem dexNear : isDex (file.take headSize) = isDex file := by
  simp (disch := decide) only [isDex,spellsNear,fitsNear]

theorem tiffNear : isTiffStart (file.take headSize) = isTiffStart file := by
  simp (disch := decide) only [isTiffStart,opensNear]

theorem archiveNear (within : 30 + (ascii name).length ≤ headSize) :
    isArchiveOf name (file.take headSize) = isArchiveOf name file := by
  rw [isArchiveOf,isArchiveOf,opensNear (by decide),spellsNear within]

end Near

theorem signaturesNear : ∀ s ∈ signatures, s.mediaType ∉ lateTypes → Near s.holds := by
  simp (disch := decide) only [signatures,programs,books,images,videos,sounds,fonts,documents,archives,
    texts,List.cons_append,List.nil_append,List.forall_mem_cons,Near,opensNear,spellsNear,fitsNear,
    longerNear,byteNear,classNear,machNear,dexNear,tiffNear,archiveNear,mp4Brands,List.any_cons,
    List.any_nil]
  simp [lateTypes,blindTypes]

theorem openDocumentBlind {name : String} {file : Bytes} (positive : 0 < (ascii name).length)
    (past : headSize < 50 + (ascii name).length) :
    isOpenDocument name (file.take headSize) = false := by
  rw [isOpenDocument,spellsFar positive past,Bool.and_false]

theorem signaturesBlind : ∀ s ∈ signatures, s.mediaType ∈ blindTypes →
    ∀ file : Bytes, s.holds (file.take headSize) = false := by
  simp (disch := decide) only [signatures,programs,books,images,videos,sounds,fonts,documents,archives,
    texts,List.cons_append,List.nil_append,List.forall_mem_cons,longerFar,spellsFar,openDocumentBlind,
    Bool.and_false,Bool.false_and]
  simp [blindTypes]

section Kept
variable {start file : Bytes}

theorem lookKept (pre : start <+: file) {n : Nat} (within : n < start.length) :
    start[n]? = file[n]? := by
  obtain ⟨rest,rfl⟩ := pre
  exact (List.getElem?_append_left within).symm

theorem byteKept {offset : Nat} (pre : start <+: file) (within : offset < start.length) :
    byteAt offset start = byteAt offset file := by
  rw [byteAt,byteAt,lookKept pre within]

theorem reversedWordKept {offset : Nat} (pre : start <+: file)
    (within : offset + 3 < start.length) :
    reversedWordAt offset start = reversedWordAt offset file := by
  simp (disch := omega) only [reversedWordAt,byteKept pre]

theorem zstandardKept {fuel more : Nat} (pre : start <+: file) (le : fuel ≤ more)
    (frame : isZstandard fuel start = true) : isZstandard more file = true := by
  -- one frame is passed over at a time, in both
  induction fuel generalizing more start file with
  | zero => cases frame
  | succ fuel ih =>
    obtain ⟨more,rfl⟩ : ∃ m, more = m + 1 := ⟨more - 1,by omega⟩
    simp only [isZstandard,Bool.or_eq_true,Bool.and_eq_true] at frame ⊢
    rcases frame with first | ⟨⟨⟨long,skipped⟩,inside⟩,later⟩
    · exact .inl (fitsKept pre first)
    · have size := pre.length_le
      simp only [longer,decide_eq_true_eq] at long
      rw [reversedWordKept pre (by omega)] at skipped inside later
      refine .inr ⟨⟨⟨?_,skipped⟩,?_⟩,ih (pre.drop _) (by omega) later⟩
      · simp only [longer,decide_eq_true_eq]
        omega
      · simp only [decide_eq_true_eq] at inside ⊢
        omega

theorem dropKept {α : Type} (p : α → Bool) {xs ys : List α} (pre : xs <+: ys) :
    xs.dropWhile p <+: ys.dropWhile p := by
  obtain ⟨rest,rfl⟩ := pre
  rw [List.dropWhile_append]
  split
  · rename_i empty
    rw [List.isEmpty_iff.mp empty]
    exact List.nil_prefix
  · exact List.prefix_append _ _

theorem anyCaseKept {mark : String} (pre : start <+: file) (opening : opensAnyCase mark start = true) :
    opensAnyCase mark file = true := by
  have lowered := (pre.take mark.toList.length).map lowerByte
  exact List.isPrefixOf_iff_prefix.mpr ((List.isPrefixOf_iff_prefix.mp opening).trans lowered)

theorem htmlKept (pre : start <+: file) (markup : isHtml start = true) : isHtml file = true := by
  have behind : skipLayout start <+: skipLayout file := dropKept isLayout pre
  simp only [isHtml,List.any_eq_true,Bool.and_eq_true] at markup ⊢
  obtain ⟨tag,mem,opening,closing⟩ := markup
  refine ⟨tag,mem,anyCaseKept behind opening,?_⟩
  split at closing
  · rename_i b there
    have within := (List.getElem?_eq_some_iff.mp there).1
    rw [← lookKept behind within,there]
    exact closing
  · cases closing

theorem bracketLeads {c : UInt8} {rest : Bytes} (opening : opensAnyCase "<?xml" (c :: rest) = true) :
    lowerByte c = 0x3C := by
  have mark : (ascii "<?xml").map lowerByte = [0x3C,0x3F,0x78,0x6D,0x6C] := by decide
  rw [opensAnyCase,mark,show "<?xml".toList.length = 5 from rfl,List.take_succ_cons,List.map_cons,
    List.isPrefixOf_cons_cons,Bool.and_eq_true] at opening
  exact (beq_iff_eq.mp opening.1).symm

theorem marksKept (pre : start <+: file)
    (opening : opensAnyCase "<?xml" (skipOrderMarks start) = true) :
    opensAnyCase "<?xml" (skipOrderMarks file) = true := by
  induction start using skipOrderMarks.induct generalizing file with
  | case1 rest ih =>
    obtain ⟨more,rfl⟩ := pre
    have behind : rest <+: rest ++ more := List.prefix_append _ _
    have later := ih behind opening
    exact later
  | case2 b rest ih | case3 b rest ih =>
    obtain ⟨more,rfl⟩ := pre
    have behind : b :: rest <+: b :: rest ++ more := List.prefix_append _ _
    have later := ih behind opening
    exact later
  | case4 start no no' no'' =>
    rw [skipOrderMarks.eq_4 _ no no' no''] at opening
    cases start with
    | nil => exact absurd opening (by decide)
    | cons c rest =>
      -- the file opens with the bracket too, and so with no order mark
      have bracket := bracketLeads opening
      have whole := anyCaseKept pre opening
      obtain ⟨more,rfl⟩ := pre
      rw [List.cons_append] at whole ⊢
      have first : ∀ {d others}, c :: (rest ++ more) = d :: others → lowerByte d = 0x3C :=
        fun same => (List.cons.inj same).1 ▸ bracket
      rwa [skipOrderMarks.eq_4]
      · exact fun _ same => absurd (first same) (by decide)
      · exact fun _ _ same => absurd (first same) (by decide)
      · exact fun _ _ same => absurd (first same) (by decide)

theorem xmlKept (pre : start <+: file) (markup : isXml start = true) : isXml file = true :=
  marksKept (dropKept isLayout pre) markup

theorem brandsPrefix {n : Nat} (pre : start <+: file) (within : 4 * n ≤ start.length) :
    brandsFrom n start = brandsFrom n file := by
  obtain ⟨more,rfl⟩ := pre
  fun_induction brandsFrom n start with
  | case1 => rfl
  | case2 n a b c d rest ih =>
    simp only [List.length_cons] at within
    exact congrArg _ (ih (by omega))
  | case3 n start short =>
    rcases start with _ | ⟨a,_ | ⟨b,_ | ⟨c,_ | ⟨d,rest⟩⟩⟩⟩
    case cons.cons.cons.cons => exact absurd rfl (short a b c d rest)
    all_goals
      simp only [List.length_cons,List.length_nil] at within
      omega

theorem brandsKept {found : Bytes × List Bytes} (whole : brands? (file.take headSize) = some found) :
    brands? file = some found := by
  simp only [brands?,longerNear (show 15 < headSize by decide),
    spellsNear (show 4 + (ascii "ftyp").length ≤ headSize by decide),
    wordNear (show 0 + 3 < headSize by decide)] at whole ⊢
  split at whole
  · rename_i box
    simp only [Bool.and_eq_true,decide_eq_true_eq] at box ⊢
    obtain ⟨⟨long,marked⟩,size⟩ := box
    have size' : wordAt 0 file ≤ file.length := size.trans (List.length_take_le' _ _)
    have pre := List.take_prefix headSize file
    have others := brandsPrefix (n := wordAt 0 file / 4 - 4) (pre.drop 16) (by
      rw [List.length_drop]
      omega)
    rw [if_pos ⟨⟨long,marked⟩,size'⟩,← whole,others,List.drop_take,List.take_take]
    rfl
  · cases whole

theorem heifKept (found : isHeif (file.take headSize) = true) : isHeif file = true := by
  unfold isHeif at found
  split at found
  · rename_i major others whole
    rw [isHeif,brandsKept whole]
    exact found
  · cases found

theorem avifKept (found : isAvif (file.take headSize) = true) : isAvif file = true := by
  unfold isAvif at found
  split at found
  · rename_i major others whole
    rw [isAvif,brandsKept whole]
    exact found
  · cases found

theorem nextPast {place next : Nat} (found : nextName? place file = some next) :
    place < file.length ∧ place + 30 ≤ next := by
  obtain ⟨i,there,rfl⟩ := Option.map_eq_some_iff.mp found
  refine ⟨?_,by omega⟩
  by_contra past
  rw [List.drop_eq_nil_of_le (by omega),List.take_nil] at there
  cases there

theorem officeAtNear : officeAt 30 (file.take headSize) = officeAt 30 file := by
  simp (disch := decide) only [officeAt,spellsNear]

theorem officeKept {d : OfficeDocument} (found : isOffice d (file.take headSize) = true) :
    isOffice d file = true := by
  have short : (file.take headSize).length ≤ headSize := List.length_take_le _ _
  simp only [isOffice,beq_iff_eq,office?,
    opensNear (show localHeader.length ≤ headSize by decide),officeAtNear] at found ⊢
  split at found
  · cases found
  rename_i archive
  rw [if_neg archive]
  cases first : officeAt 30 file with
  | some d' =>
    rw [first] at found
    exact found
  | none =>
    rw [first] at found
    simp only at found
    split at found
    · simp only [bind,Option.bind_eq_some_iff] at found
      obtain ⟨second,there,third,behind,-⟩ := found
      have past := (nextPast there).2
      have within := (nextPast behind).1
      have far : headSize = 64 := rfl
      omega
    · cases found

end Kept

theorem signaturesKept : ∀ s ∈ signatures, s.mediaType ∈ lateTypes → Kept s.holds := by
  have blind : ∀ s ∈ signatures, s.mediaType ∈ blindTypes → Kept s.holds :=
    fun s mem unsighted file held => by simp [signaturesBlind s mem unsighted file] at held
  have zstandard : Kept fun f => isZstandard (f.length + 1) f := fun file =>
    zstandardKept (List.take_prefix _ file)
      (Nat.succ_le_succ (List.take_prefix headSize file).length_le)
  have html : Kept isHtml := fun file => htmlKept (List.take_prefix _ file)
  have xml : Kept isXml := fun file => xmlKept (List.take_prefix _ file)
  have heif : Kept isHeif := fun _ => heifKept
  have avif : Kept isAvif := fun _ => avifKept
  have office : ∀ d, Kept (isOffice d) := fun _ _ => officeKept
  have others : ∀ s ∈ signatures, s.mediaType ∉ blindTypes → s.mediaType ∈ lateTypes →
      Kept s.holds := by
    simp [signatures,programs,books,images,videos,sounds,fonts,documents,archives,texts,lateTypes,
      blindTypes,zstandard,html,xml,heif,avif,office]
  intro s mem late
  by_cases unsighted : s.mediaType ∈ blindTypes
  · exact blind s mem unsighted
  · exact others s mem unsighted late

section Heads
variable {file : Bytes}

theorem headFound {tried : List Signature} (near : ∀ s ∈ tried, s.mediaType ∉ lateTypes → Near s.holds)
    (kept : ∀ s ∈ tried, s.mediaType ∈ lateTypes → Kept s.holds)
    (early : ∀ t ∈ lateTypes, (tried.find? (·.holds file)).map (·.mediaType) ≠ some t) :
    tried.find? (·.holds (file.take headSize)) = tried.find? (·.holds file) := by
  induction tried with
  | nil => rfl
  | cons s rest ih =>
    rw [List.forall_mem_cons] at near kept
    cases whole : s.holds file with
    | true =>
      simp only [List.find?_cons,whole] at early
      have soon : s.mediaType ∉ lateTypes := fun late => early _ late rfl
      have found : s.holds (file.take headSize) = true := (near.1 soon file).trans whole
      simp only [List.find?_cons,found,whole]
    | false =>
      have missed : s.holds (file.take headSize) = false := by
        by_cases late : s.mediaType ∈ lateTypes
        · exact Bool.eq_false_iff.mpr fun held => by simp [kept.1 late file held] at whole
        · rw [near.1 late file,whole]
      simp only [List.find?_cons,whole] at early
      simp only [List.find?_cons,missed,whole]
      exact ih near.2 kept.2 early

theorem ofHead (early : ∀ t ∈ lateTypes, ofBytes? file ≠ some t) :
    ofBytes? (file.take headSize) = ofBytes? file := by
  rw [ofBytes?,headFound signaturesNear signaturesKept early,ofBytes?]

theorem detectSome {name t : String} (found : ofBytes? file = some t) : detect name file = t := by
  rw [detect,found]

theorem detectHead (name : String) : detect name (file.take headSize) = detect name file ↔
    ∀ t ∈ lateTypes, ofBytes? file = some t → detect name (file.take headSize) = t := by
  constructor
  · intro same t _ found
    rw [same,detectSome found]
  · intro told
    by_cases early : ∀ t ∈ lateTypes, ofBytes? file ≠ some t
    · rw [detect,ofHead early,detect]
    · simp only [not_forall,not_not] at early
      obtain ⟨t,late,found⟩ := early
      rw [told t late found,detectSome found]

theorem detectBlind {t : String} (blind : t ∈ blindTypes) (name : String) :
    detect name (file.take headSize) ≠ t := by
  rw [detect]
  split
  · rename_i t' found
    rintro rfl
    obtain ⟨s,first,typed⟩ := Option.map_eq_some_iff.mp found
    have missed := signaturesBlind s (List.mem_of_find?_eq_some first) (typed ▸ blind) file
    rw [List.find?_some first] at missed
    cases missed
  · -- no extension stands for such a type
    have apart : ∀ r ∈ unknown :: byExtension.map (·.2), r ∉ blindTypes := by decide
    have listed : ((extensionOf name).bind fun e => byExtension.lookup e).getD unknown ∈
        unknown :: byExtension.map (·.2) := by
      cases found : (extensionOf name).bind fun e => byExtension.lookup e with
      | none => exact List.mem_cons_self
      | some r =>
        obtain ⟨e,-,there⟩ := Option.bind_eq_some_iff.mp found
        obtain ⟨before,after,same,-⟩ := List.lookup_eq_some_iff.mp there
        exact List.mem_cons_of_mem _ (List.mem_map.mpr ⟨(e,r),by rw [same]; simp,rfl⟩)
    rintro rfl
    exact apart _ listed blind

end Heads
end SignedUpload.ContentType

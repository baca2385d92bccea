import SignedUpload.Uploader.State
import Mathlib.Data.List.Nodup

/-! Lists of chosen files in which every id stands once, and what the steps of an uploader do to
them: files are replaced, marked, staged and taken off by id. -/
namespace SignedUpload.Uploader

def Distinct (files : List PendingFile) : Prop := (files.map (·.id)).Nodup

theorem sameFile {files : List PendingFile} (distinct : Distinct files) {f g : PendingFile}
    (left : f ∈ files) (right : g ∈ files) (same : f.id = g.id) : f = g :=
  List.inj_on_of_nodup_map distinct left right same

theorem keyedIff {α : Type} {xs : List α} {key : α → Nat} (distinct : (xs.map key).Nodup)
    {k : Nat} {x : α} : xs.find? (key · == k) = some x ↔ x ∈ xs ∧ key x = k := by
  constructor
  · intro found
    exact ⟨List.mem_of_find?_eq_some found,by simpa using List.find?_some found⟩
  · rintro ⟨mem,rfl⟩
    cases found : xs.find? (key · == key x) with
    | none => simpa using List.find?_eq_none.mp found x mem
    | some y =>
      have same : key y = key x := by simpa using List.find?_some found
      rw [List.inj_on_of_nodup_map distinct (List.mem_of_find?_eq_some found) mem same]

theorem foundIff {files : List PendingFile} (distinct : Distinct files) {id : FileId}
    {file : PendingFile} : files.find? (·.id == id) = some file ↔ file ∈ files ∧ file.id = id :=
  keyedIff distinct

theorem distinctMap {files : List PendingFile} (distinct : Distinct files)
    {change : PendingFile → PendingFile} (keeps : ∀ f ∈ files, (change f).id = f.id) :
    Distinct (files.map change) := by
  have same : (files.map change).map (·.id) = files.map (·.id) := by
    rw [List.map_map]
    exact List.map_congr_left keeps
  unfold Distinct
  rw [same]
  exact distinct

theorem distinctFilter {files : List PendingFile} (distinct : Distinct files)
    (stays : PendingFile → Bool) : Distinct (files.filter stays) :=
  List.Nodup.sublist (List.filter_sublist.map _) distinct

theorem replaceFound {files : List PendingFile} (distinct : Distinct files) {id : FileId}
    {file : PendingFile} (found : files.find? (·.id == id) = some file)
    (change : PendingFile → PendingFile) :
    replace files id (change file) = files.map fun f => if f.id = id then change f else f := by
  have here := (foundIff distinct).mp found
  apply List.map_congr_left
  intro f mem
  split
  · rename_i same
    rw [sameFile distinct mem here.1 (same.trans here.2.symm)]
  · rfl

theorem distinctRenewed {files : List PendingFile} (distinct : Distinct files) {id fresh : FileId}
    (unused : ∀ f ∈ files, f.id ≠ fresh) {file : PendingFile} (named : file.id = fresh) :
    Distinct (replace files id file) := by
  induction files with
  | nil => exact distinct
  | cons head tail ih =>
    obtain ⟨absent,rest⟩ := List.nodup_cons.mp distinct
    have later := ih rest (fun f mem => unused f (List.mem_cons_of_mem _ mem))
    refine List.nodup_cons.mpr ⟨?_,later⟩
    intro member
    obtain ⟨g,mem,same⟩ := List.mem_map.mp member
    obtain ⟨f,old,become⟩ := List.mem_map.mp mem
    have here := unused f (List.mem_cons_of_mem _ old)
    have first := unused head List.mem_cons_self
    have apart : f.id ≠ head.id := fun eq => absent (List.mem_map.mpr ⟨f,old,eq⟩)
    grind

theorem waitingMoves {file : PendingFile} (waiting : file.status = .waiting) :
    file.moveTo .uploading = .ok { file with status := .uploading } := by
  simp [PendingFile.moveTo,waiting,FileStatus.canMoveTo]

def Final (status : FileStatus) : Prop := status = .succeeded ∨ status = .failed

theorem uploadingMoves {file : PendingFile} (sent : file.status = .uploading) {status : FileStatus}
    (final : Final status) : file.moveTo status = .ok { file with status := status } := by
  rcases final with rfl | rfl <;> simp [PendingFile.moveTo,sent,FileStatus.canMoveTo]

def mark (id : FileId) (status : FileStatus) (f : PendingFile) : PendingFile :=
  if f.id = id then { f with status := status } else f

theorem markId (id : FileId) (status : FileStatus) (f : PendingFile) :
    (mark id status f).id = f.id := by
  unfold mark
  split <;> rfl

theorem markPath (id : FileId) (status : FileStatus) (f : PendingFile) :
    (mark id status f).path = f.path := by
  unfold mark
  split <;> rfl

theorem markOther {id : FileId} {f : PendingFile} (other : f.id ≠ id) (status : FileStatus) :
    mark id status f = f :=
  if_neg other

theorem markUploading {files : List PendingFile} (distinct : Distinct files) {file : PendingFile}
    (listed : file ∈ files) (sent : file.status = .uploading) {status : FileStatus}
    (final : Final status) :
    markResolved files file.id status = files.map (mark file.id status) := by
  have found := (foundIff distinct).mpr ⟨listed,rfl⟩
  unfold markResolved
  rw [found]
  simp only [uploadingMoves sent final]
  exact replaceFound distinct found fun f => { f with status := status }

theorem stageFromIds (next : FileId) (candidates : List Candidate) :
    (stageFrom next candidates).map (·.id) = List.range' next candidates.length := by
  induction candidates generalizing next with
  | nil => rfl
  | cons c rest ih => simp [stageFrom,ih,PendingFile.staged,List.range'_succ]

theorem stageFromPaths (next : FileId) (candidates : List Candidate) :
    (stageFrom next candidates).map (·.path) = candidates.map (·.path) := by
  induction candidates generalizing next with
  | nil => rfl
  | cons c rest ih => simp [stageFrom,ih,PendingFile.staged]

theorem stageFromLength (next : FileId) (candidates : List Candidate) :
    (stageFrom next candidates).length = candidates.length := by
  simpa using congrArg List.length (stageFromIds next candidates)

theorem stagedFile {next : FileId} {candidates : List Candidate} {f : PendingFile}
    (mem : f ∈ stageFrom next candidates) :
    f.status = .waiting ∧ f.key = none ∧ next ≤ f.id ∧ f.id < next + candidates.length := by
  have id : f.id ∈ List.range' next candidates.length := by
    rw [← stageFromIds]
    exact List.mem_map.mpr ⟨f,mem,rfl⟩
  have range := List.mem_range'_1.mp id
  refine ⟨?_,?_,range⟩
  all_goals
    clear id range
    induction candidates generalizing next with
    | nil => simp [stageFrom] at mem
    | cons c rest ih =>
      rcases List.mem_cons.mp mem with rfl | later
      · rfl
      · exact ih later

end SignedUpload.Uploader

import SignedUpload.Proofs.FileList
import SignedUpload.Uploader.Transfer

/-! Dispatching a batch. Of the files that the batch waited for, each one that is still in the list
becomes a job and is on its way; no other file changes. -/
namespace SignedUpload.Uploader

structure MadeOf (job : Job) (f : PendingFile) : Prop where
  id : f.id = job.id
  path : f.path = job.path
  name : f.name = job.name
  contentType : f.contentType = job.contentType

def stamp (jobs : List Job) (f : PendingFile) : PendingFile :=
  match jobs.find? (·.id == f.id) with
  | some job => { f with status := .uploading, key := some job.key }
  | none => f

theorem stampId (jobs : List Job) (f : PendingFile) : (stamp jobs f).id = f.id := by
  unfold stamp
  split <;> rfl

theorem stampPath (jobs : List Job) (f : PendingFile) : (stamp jobs f).path = f.path := by
  unfold stamp
  split <;> rfl

theorem stampOther {jobs : List Job} {f : PendingFile} (other : ∀ job ∈ jobs, job.id ≠ f.id) :
    stamp jobs f = f := by
  have absent : jobs.find? (·.id == f.id) = none := by simpa using other
  simp [stamp,absent]

theorem listedMap {files : List PendingFile} {change : PendingFile → PendingFile}
    (keeps : ∀ f ∈ files, (change f).id = f.id) (id : FileId) :
    ((files.map change).find? (·.id == id)).isSome = (files.find? (·.id == id)).isSome := by
  rw [Bool.eq_iff_iff,List.find?_isSome,List.find?_isSome]
  constructor
  · rintro ⟨g,mem,same⟩
    obtain ⟨f,old,rfl⟩ := List.mem_map.mp mem
    exact ⟨f,old,by rwa [keeps f old] at same⟩
  · rintro ⟨f,old,same⟩
    exact ⟨change f,List.mem_map.mpr ⟨f,old,rfl⟩,by rwa [keeps f old]⟩

structure Dispatched (position : Nat) (files : List PendingFile) (ids : List FileId)
    (jobs : List Job) (sent : List PendingFile) : Prop where
  ids : jobs.map (·.id) = ids.filter fun id => (files.find? (·.id == id)).isSome
  sent : sent = files.map (stamp jobs)
  rising : jobs.Pairwise (·.position < ·.position)
  above : ∀ job ∈ jobs, position ≤ job.position
  made : ∀ job ∈ jobs, ∃ f ∈ files, MadeOf job f

theorem Dispatched.subset {position files ids jobs sent}
    (d : Dispatched position files ids jobs sent) {job : Job} (mem : job ∈ jobs) : job.id ∈ ids := by
  have named : job.id ∈ jobs.map (·.id) := List.mem_map.mpr ⟨job,mem,rfl⟩
  rw [d.ids] at named
  exact (List.mem_filter.mp named).1

theorem Dispatched.gone {position files id ids jobs sent}
    (absent : files.find? (·.id == id) = none)
    (d : Dispatched (position + 1) files ids jobs sent) :
    Dispatched position files (id :: ids) jobs sent where
  ids := by rw [d.ids,List.filter_cons_of_neg (by simp [absent])]
  sent := d.sent
  rising := d.rising
  above := fun job mem => Nat.le_of_succ_le (d.above job mem)
  made := d.made

theorem Dispatched.given {position files id ids jobs sent} {file : PendingFile} {key : String}
    (distinct : Distinct files) (fresh : id ∉ ids)
    (found : files.find? (·.id == id) = some file)
    (d : Dispatched (position + 1)
      (replace files id { file with status := .uploading, key := some key }) ids jobs sent) :
    Dispatched position files (id :: ids)
      (⟨position,id,file.path,file.name,file.contentType,key⟩ :: jobs) sent := by
  have here := (foundIff distinct).mp found
  have become := replaceFound distinct found fun f => { f with status := .uploading, key := some key }
  rw [become] at d
  have keeps : ∀ f ∈ files,
      (if f.id = id then { f with status := .uploading, key := some key } else f).id = f.id := by
    intro f _
    split <;> rfl
  have others : ∀ job ∈ jobs, job.id ≠ id := fun job mem same => fresh (same ▸ d.subset mem)
  refine ⟨?_,?_,?_,?_,?_⟩
  · rw [List.map_cons,d.ids,List.filter_cons_of_pos (by simp [found])]
    congr 1
    exact List.filter_congr fun id' _ => listedMap keeps id'
  · rw [d.sent,List.map_map]
    apply List.map_congr_left
    intro f mem
    simp only [Function.comp_apply]
    split
    · rename_i same
      rw [stampOther (by simpa [same] using others)]
      simp [stamp,same]
    · rename_i other
      have first : (id == f.id) = false := by simpa using Ne.symm other
      simp [stamp,first]
  · exact List.pairwise_cons.mpr ⟨fun job mem => d.above job mem,d.rising⟩
  · intro job mem
    rcases List.mem_cons.mp mem with rfl | later
    · exact Nat.le_refl _
    · exact Nat.le_of_succ_le (d.above job later)
  · intro job mem
    rcases List.mem_cons.mp mem with rfl | later
    · exact ⟨file,here.1,here.2,rfl,rfl,rfl⟩
    · obtain ⟨g,change,made⟩ := d.made job later
      obtain ⟨f,old,eq⟩ := List.mem_map.mp change
      have apart : f.id ≠ id := by
        intro same
        rw [if_pos same] at eq
        exact others job later (by rw [← made.id,← eq]; exact same)
      rw [if_neg apart] at eq
      exact ⟨f,old,eq ▸ made⟩

theorem dispatchExact {issuer : KeyIssuer} {supply : Supply} {position : Nat}
    {files sent : List PendingFile} {ids : List FileId} {jobs : List Job}
    (distinct : Distinct files) (once : ids.Nodup)
    (waiting : ∀ f ∈ files, f.id ∈ ids → f.status = .waiting)
    (ok : dispatch issuer supply position files ids = some (jobs,sent)) :
    Dispatched position files ids jobs sent := by
  induction ids generalizing issuer supply position files jobs sent with
  | nil =>
    simp only [dispatch,Option.some.injEq,Prod.mk.injEq] at ok
    obtain ⟨rfl,rfl⟩ := ok
    exact ⟨rfl,(List.map_id files).symm,.nil,by simp,by simp⟩
  | cons id ids ih =>
    obtain ⟨fresh,once⟩ := List.nodup_cons.mp once
    simp only [dispatch] at ok
    split at ok
    · rename_i absent
      exact .gone absent (ih distinct once (fun f mem later => waiting f mem (.tail _ later)) ok)
    · rename_i file found
      have here := (foundIff distinct).mp found
      have waits := waiting file here.1 (here.2 ▸ List.mem_cons_self)
      rw [waitingMoves waits] at ok
      simp only at ok
      split at ok <;> try contradiction
      split at ok <;> try contradiction
      rename_i key issuer' draws _
      split at ok <;> try contradiction
      rename_i rest files' later
      simp only [Option.some.injEq,Prod.mk.injEq] at ok
      obtain ⟨rfl,rfl⟩ := ok
      refine .given distinct fresh found (ih ?_ once ?_ later)
      · rw [replaceFound distinct found fun f => { f with status := .uploading, key := some key }]
        exact distinctMap distinct fun f _ => by split <;> rfl
      · intro f mem inRest
        obtain ⟨g,old,eq⟩ := List.mem_map.mp mem
        split at eq
        · subst f
          exact absurd (here.2 ▸ inRest) fresh
        · subst f
          exact waiting g old (.tail _ inRest)

end SignedUpload.Uploader

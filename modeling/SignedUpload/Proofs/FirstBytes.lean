import SignedUpload.Proofs.Signatures
import SignedUpload.Proofs.Staging

/-! Content types of listed files. A file is listed with the type that its first bytes tell, and that is
the type of all its bytes unless they are of a type that its first bytes miss. -/
namespace SignedUpload

open FileTree (headSize)
open ContentType (lateTypes blindTypes detect ofBytes?)

theorem FileTree.regularRead {tree : FileTree} {path : Path} {file : RegularFile}
    (seen : tree.disk path = .regular file) : ∃ data, tree.read path = .ok data ∧
      file.size = data.length ∧ file.head = data.take headSize := by
  unfold disk at seen
  split at seen <;> cases seen
  rename_i place data found
  exact ⟨data,by rw [read,found],rfl,rfl⟩

namespace Uploader

/-- A listed file that was read at a path: its type is what its first bytes tell, which is the type of the
whole file unless that is a late one which they miss, as they always do with a blind one. -/
structure Recorded (tree : FileTree) (path : Path) (data : Bytes) (f : PendingFile) : Prop where
  named : displayName path = .ok f.name
  read : tree.read path = .ok data
  size : f.size = data.length
  head : f.contentType = detect f.name (data.take headSize)
  whole : f.contentType = detect f.name data ↔
    ∀ t ∈ lateTypes, ofBytes? data = some t → f.contentType = t
  sighted : f.contentType ∉ blindTypes

theorem fitRecorded {u : Uploader} {tree : FileTree} {path : Path} {c : Candidate}
    (fit : Fit u.filter tree.disk path c) (id : FileId) :
    ∃ data, Recorded tree path data ⟨id,c.path,c.name,c.size,c.contentType,.waiting,none⟩ := by
  obtain ⟨named,-,file,seen,-,size,told⟩ := fit
  obtain ⟨data,read,length,head⟩ := FileTree.regularRead seen
  rw [head] at told
  exact ⟨data,{
    named := named
    read := read
    size := size.trans length
    head := told
    whole := by simp only [told,ContentType.detectHead]
    sighted := fun blind => ContentType.detectBlind blind c.name told.symm }⟩

theorem arrivalsRecorded {u : Uploader} {tree : FileTree} {paths : List Path} {offers : List Candidate}
    {refusals : List String} (sifted : Sifted u.filter tree.disk paths offers refusals) :
    ∀ f ∈ u.arrivals offers, ∃ path ∈ paths, ∃ data, Recorded tree path data f := by
  intro f mem
  obtain ⟨⟨c,id⟩,zipped,rfl⟩ := List.mem_map.mp mem
  have offered : c ∈ offers :=
    firstsSubset _ (List.mem_filter.mp (List.fst_mem_of_mem_zipIdx zipped)).1
  obtain ⟨path,given,fit⟩ := sifted.source offered
  exact ⟨path,given,fitRecorded fit id⟩

theorem Came.files {u : Uploader} {offers : List Candidate} {result : Result}
    (came : Came u offers result) : ∀ f ∈ result.1.files, f ∈ u.files ∨ f ∈ u.arrivals offers := by
  intro f mem
  cases came with
  | staged told files => exact List.mem_append.mp (files ▸ mem)
  | failed single told files => exact .inl (files ▸ mem)
  | pending single silent asked files => exact List.mem_append.mp (files ▸ mem)

theorem choiceRecorded {u : Uploader} (reachable : Reachable u) (tree : FileTree) (paths : List Path) :
    ∀ f ∈ (u.choose tree.disk paths).1.files,
      f ∈ u.files ∨ ∃ path ∈ paths, ∃ data, Recorded tree path data f := by
  intro f mem
  obtain ⟨offers,refusals,sifted⟩ := siftedOf u.filter tree.disk paths
  obtain ⟨came,-⟩ := chooseCame (reachableSound reachable).toListed sifted
  exact (came.files f mem).imp_right (arrivalsRecorded sifted f)

-- A book whose mark ends with its 68th byte.
def bookTree : FileTree :=
  ⟨[([Utf8.encode "a.bin"],.file (List.replicate 60 97 ++ Utf8.encode "BOOKMOBI"))]⟩

def bookListed : PendingFile :=
  ⟨1,Utf8.encode "/a.bin","a.bin",68,"application/octet-stream",.waiting,none⟩

theorem bookChosen :
    ((sample true).choose bookTree.disk [Utf8.encode "a.bin"]).1.files = [bookListed] := by
  decide +kernel

theorem bookRecorded : Reachable (sample true) ∧
    bookListed ∈ ((sample true).choose bookTree.disk [Utf8.encode "a.bin"]).1.files ∧
    ∃ data, Recorded bookTree (Utf8.encode "a.bin") data bookListed := by
  have reachable : Reachable (sample true) := .rendered (sampleRendered true)
  have listed : bookListed ∈ ((sample true).choose bookTree.disk [Utf8.encode "a.bin"]).1.files :=
    bookChosen ▸ List.mem_cons_self
  refine ⟨reachable,listed,?_⟩
  rcases choiceRecorded reachable bookTree [Utf8.encode "a.bin"] bookListed listed with
    old | ⟨path,given,recorded⟩
  · cases old
  · rwa [List.mem_singleton.mp given] at recorded

theorem bookMistyped : ¬ ∀ {u : Uploader} {tree : FileTree} {path : Path} {data : Bytes}
    {f : PendingFile}, Reachable u → f ∈ (u.choose tree.disk [path]).1.files → f ∉ u.files →
      tree.read path = .ok data → f.contentType = detect f.name data := by
  intro whole
  have mem : bookListed ∈ ((sample true).choose bookTree.disk [Utf8.encode "a.bin"]).1.files :=
    bookChosen ▸ List.mem_cons_self
  have same := whole (.rendered (sampleRendered true)) mem List.not_mem_nil
    (show bookTree.read (Utf8.encode "a.bin") =
      .ok (List.replicate 60 97 ++ Utf8.encode "BOOKMOBI") by decide +kernel)
  revert same
  decide +kernel

end Uploader
end SignedUpload

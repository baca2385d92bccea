/-! Maps from text to text, kept in the order of their keys. A key put in twice keeps the later
value. -/
namespace SignedUpload

def putEntry (key value : String) : List (String × String) → List (String × String)
  | [] => [(key,value)]
  | e :: rest =>
    if key < e.1 then (key,value) :: e :: rest
    else if key = e.1 then (key,value) :: rest
    else e :: putEntry key value rest

theorem putEntryMember {key value : String} {entries : List (String × String)} {e}
    (h : e ∈ putEntry key value entries) : e = (key,value) ∨ e ∈ entries := by
  induction entries with
  | nil => simpa [putEntry] using h
  | cons d rest ih =>
    simp only [putEntry] at h
    split at h
    · simpa using h
    · split at h
      · rcases List.mem_cons.mp h with h | h
        · exact .inl h
        · exact .inr (List.mem_cons_of_mem d h)
      · rcases List.mem_cons.mp h with h | h
        · exact .inr (by simp [h])
        · rcases ih h with h | h
          · exact .inl h
          · exact .inr (List.mem_cons_of_mem d h)

theorem putEntrySorted {key value : String} {entries : List (String × String)}
    (sorted : entries.Pairwise (fun a b => a.1 < b.1)) :
    (putEntry key value entries).Pairwise (fun a b => a.1 < b.1) := by
  induction entries with
  | nil => simp [putEntry]
  | cons d rest ih =>
    obtain ⟨above,tail⟩ := List.pairwise_cons.mp sorted
    simp only [putEntry]
    split
    · rename_i less
      refine List.pairwise_cons.mpr ⟨?_,sorted⟩
      intro e he
      rcases List.mem_cons.mp he with he | he
      · exact he ▸ less
      · exact String.lt_trans less (above e he)
    · split
      · rename_i same
        exact List.pairwise_cons.mpr ⟨fun e he => same ▸ above e he,tail⟩
      · rename_i notLess notSame
        refine List.pairwise_cons.mpr ⟨?_,ih tail⟩
        intro e he
        rcases putEntryMember he with he | he
        · subst he
          exact String.not_le.mp fun le => notSame (String.le_antisymm le (String.not_lt.mp notLess))
        · exact above e he

structure TextMap where
  entries : List (String × String)
  sorted : entries.Pairwise (fun a b => a.1 < b.1)
  deriving DecidableEq

namespace TextMap

def empty : TextMap := ⟨[],.nil⟩

instance : Inhabited TextMap := ⟨empty⟩
instance : EmptyCollection TextMap := ⟨empty⟩
instance : Repr TextMap := ⟨fun m n => reprPrec m.entries n⟩

def insert (m : TextMap) (key value : String) : TextMap :=
  ⟨putEntry key value m.entries,putEntrySorted m.sorted⟩

def ofList (entries : List (String × String)) : TextMap :=
  entries.foldl (fun m e => m.insert e.1 e.2) empty

def get? (m : TextMap) (key : String) : Option String := m.entries.lookup key

def keys (m : TextMap) : List String := m.entries.map (·.1)

end TextMap
end SignedUpload

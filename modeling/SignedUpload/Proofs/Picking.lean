import SignedUpload.Selection

/-! What a filter makes of picked paths. A path is taken when it shows a name, the name is accepted and a
regular file is behind it; any other path is refused with one notice. Of what is taken at one resolved
path, under whatever names, the first is kept. -/
namespace SignedUpload

structure Fit (filter : Filter) (disk : Disk) (path : Path) (c : Candidate) : Prop where
  named : displayName path = .ok c.name
  accepted : filter.kind.accepts c.name filter.extensions = .ok ()
  regular : ∃ file, disk path = .regular file ∧ c.path = file.canonical ∧ c.size = file.size ∧
    c.contentType = ContentType.detect c.name file.head

theorem inspectFit {filter : Filter} {disk : Disk} {path : Path} {c : Candidate} :
    filter.inspect disk path = .ok c ↔ Fit filter disk path c := by
  constructor
  · intro taken
    unfold Filter.inspect at taken
    split at taken
    · cases taken
    rename_i name shown
    split at taken
    · cases taken
    rename_i accepted
    split at taken <;> cases taken
    rename_i file seen
    exact ⟨shown,accepted,file,seen,rfl,rfl,rfl⟩
  · rintro ⟨shown,accepted,file,seen,located,size,typed⟩
    simp only [Filter.inspect,shown,accepted,seen,← located,← size,← typed]

/-- What is taken of some paths and what is said of the others, path by path. -/
inductive Sifted (filter : Filter) (disk : Disk) : List Path → List Candidate → List String → Prop where
  | nil : Sifted filter disk [] [] []
  | taken {path c paths offers refusals} (fit : Fit filter disk path c)
      (rest : Sifted filter disk paths offers refusals) :
      Sifted filter disk (path :: paths) (c :: offers) refusals
  | refused {path notice paths offers refusals} (unfit : ∀ c, ¬ Fit filter disk path c)
      (said : filter.inspect disk path = .error notice)
      (rest : Sifted filter disk paths offers refusals) :
      Sifted filter disk (path :: paths) offers (notice :: refusals)

theorem siftedOf (filter : Filter) (disk : Disk) (paths : List Path) :
    ∃ offers refusals, Sifted filter disk paths offers refusals := by
  induction paths with
  | nil => exact ⟨[],[],.nil⟩
  | cons path rest ih =>
    obtain ⟨offers,refusals,sifted⟩ := ih
    cases seen : filter.inspect disk path with
    | ok c => exact ⟨_,_,.taken (inspectFit.mp seen) sifted⟩
    | error notice =>
      have unfit : ∀ c, ¬ Fit filter disk path c := fun c fit => by
        rw [inspectFit.mpr fit] at seen
        cases seen
      exact ⟨_,_,.refused unfit seen sifted⟩

theorem Sifted.source {filter : Filter} {disk : Disk} {paths : List Path} {offers : List Candidate}
    {refusals : List String} (sifted : Sifted filter disk paths offers refusals) {c : Candidate}
    (mem : c ∈ offers) : ∃ path ∈ paths, Fit filter disk path c := by
  induction sifted with
  | nil => cases mem
  | @taken path d _ _ _ fit rest ih =>
    rcases List.mem_cons.mp mem with rfl | later
    · exact ⟨path,List.mem_cons_self,fit⟩
    · obtain ⟨p,given,fits⟩ := ih later
      exact ⟨p,List.mem_cons_of_mem _ given,fits⟩
  | refused unfit said rest ih =>
    obtain ⟨p,given,fits⟩ := ih mem
    exact ⟨p,List.mem_cons_of_mem _ given,fits⟩

def firsts (offers : List Candidate) : List Candidate := offers.eraseDupsBy (·.path == ·.path)

theorem firstsCons (c : Candidate) (rest : List Candidate) :
    firsts (c :: rest) = c :: firsts (rest.filter fun d => !d.path == c.path) := by
  rw [firsts,List.eraseDupsBy_cons,firsts]
  congr 2
  apply List.filter_congr
  intro d _
  cases d.path == c.path <;> rfl

theorem firstsInduct {motive : List Candidate → Prop} (nil : motive [])
    (cons : ∀ c rest, motive (rest.filter fun d => !d.path == c.path) → motive (c :: rest)) :
    ∀ offers, motive offers
  | [] => nil
  | c :: rest => cons c rest (firstsInduct nil cons _)
termination_by offers => offers.length
decreasing_by exact Nat.lt_succ_of_le (List.length_filter_le _ _)

theorem firstsSubset (offers : List Candidate) : firsts offers ⊆ offers := by
  induction offers using firstsInduct with
  | nil => exact List.Subset.refl _
  | cons c rest ih =>
    rw [firstsCons]
    intro d mem
    rcases List.mem_cons.mp mem with rfl | later
    · exact List.mem_cons_self
    · exact List.mem_cons_of_mem _ (List.mem_filter.mp (ih later)).1

theorem firstsDistinct (offers : List Candidate) : ((firsts offers).map (·.path)).Nodup := by
  induction offers using firstsInduct with
  | nil => exact List.nodup_nil
  | cons c rest ih =>
    rw [firstsCons]
    -- what stands at the path of `c` was passed over
    refine List.nodup_cons.mpr ⟨fun again => ?_,ih⟩
    obtain ⟨d,mem,same⟩ := List.mem_map.mp again
    have other := (List.mem_filter.mp (firstsSubset _ mem)).2
    simp [same] at other

theorem firstsOrder (offers : List Candidate) :
    (firsts offers).map (·.path) = (offers.map (·.path)).eraseDups := by
  induction offers using firstsInduct with
  | nil => rfl
  | cons c rest ih =>
    rw [firstsCons,List.map_cons,List.map_cons,List.eraseDups_cons,ih,List.filter_map]
    rfl

theorem pickExact {filter : Filter} {disk : Disk} {paths : List Path} {offers : List Candidate}
    {refusals : List String} (sifted : Sifted filter disk paths offers refusals) (sofar : Selection) :
    sofar.pick filter disk paths =
      ⟨sofar.candidates ++ firsts (offers.filter fun c => !sofar.candidates.any (·.path == c.path)),
        sofar.notices ++ refusals⟩ := by
  -- over any selection so far, since a path that is taken up is skipped from there on
  induction sifted generalizing sofar with
  | nil => simp [Selection.pick,firsts]
  | @taken path c paths offers refusals fit rest ih =>
    simp only [Selection.pick,inspectFit.mpr fit]
    split
    · rename_i again
      rw [ih,List.filter_cons_of_neg (by simpa using again)]
    · rename_i new
      have tail : (offers.filter fun d => !(sofar.candidates ++ [c]).any (·.path == d.path)) =
          (offers.filter fun d => !sofar.candidates.any (·.path == d.path)).filter
            fun d => !d.path == c.path := by
        rw [List.filter_filter]
        apply List.filter_congr
        intro d _
        simp only [List.any_append,List.any_cons,List.any_nil,Bool.or_false,Bool.not_or,Bool.and_comm,
          BEq.comm (a := c.path)]
      rw [ih,List.filter_cons_of_pos (by simpa using new),firstsCons,tail]
      simp
  | refused unfit said rest ih =>
    simp only [Selection.pick,said]
    rw [ih,List.append_assoc,List.singleton_append]

theorem selectionOf {filter : Filter} {disk : Disk} {paths : List Path} {offers : List Candidate}
    {refusals : List String} (sifted : Sifted filter disk paths offers refusals) :
    Selection.of filter disk paths = ⟨firsts offers,refusals⟩ := by
  rw [Selection.of,pickExact sifted,List.filter_eq_self.mpr (by simp)]
  rfl

end SignedUpload

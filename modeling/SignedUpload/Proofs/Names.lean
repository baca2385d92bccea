import SignedUpload.Proofs.DisplayNames
import SignedUpload.Proofs.Tracing

/-! The names of listed files. A file keeps the name that its path showed when it was picked, and no such
name has a slash in it, so no directory of a path comes with it. -/
namespace SignedUpload.Uploader

def Picked (events : List Event) (f : PendingFile) : Prop :=
  ∃ disk paths, .choose disk paths ∈ events ∧ ∃ path ∈ paths, displayName path = .ok f.name ∧
    ∃ file, disk path = .regular file ∧ f.path = file.canonical

theorem stageFromSource {next : FileId} {candidates : List Candidate} {f : PendingFile}
    (mem : f ∈ stageFrom next candidates) : ∃ c ∈ candidates, f.name = c.name ∧ f.path = c.path := by
  induction candidates generalizing next with
  | nil => cases mem
  | cons c rest ih =>
    rcases List.mem_cons.mp mem with rfl | later
    · exact ⟨c,List.mem_cons_self,rfl,rfl⟩
    · obtain ⟨d,old,same⟩ := ih later
      exact ⟨d,List.mem_cons_of_mem _ old,same⟩

theorem stagedPicked {u : Uploader} {disk : Disk} {paths : List Path} {candidates : List Candidate}
    (within : candidates ⊆ u.picked disk paths) {next : FileId} {f : PendingFile}
    (mem : f ∈ stageFrom next candidates) : Picked [.choose disk paths] f := by
  obtain ⟨c,here,name,path⟩ := stageFromSource mem
  obtain ⟨offers,refusals,sifted⟩ := siftedOf u.filter disk paths
  have taken : c ∈ firsts offers := pickedFirsts sifted ▸ within here
  obtain ⟨p,given,fit⟩ := sifted.source (firstsSubset _ taken)
  obtain ⟨file,seen,same,-⟩ := fit.regular
  exact ⟨disk,paths,List.mem_cons_self,p,given,name ▸ fit.named,file,seen,path.trans same⟩

theorem callNames {u v : Uploader} {e : Event} {said : List Effect} (listed : Listed u)
    (call : e.isCall = true) (step : u.step? e = some (v,said)) {g : PendingFile} (mem : g ∈ v.files) :
    (∃ f ∈ u.files, g.name = f.name ∧ g.path = f.path) ∨ Picked [e] g := by
  have old : g ∈ u.files → (∃ f ∈ u.files, g.name = f.name ∧ g.path = f.path) ∨ Picked [e] g :=
    fun old => .inl ⟨g,old,rfl,rfl⟩
  cases e with
  | openDialog =>
    cases Option.some.inj step
    exact old mem
  | closeDialog =>
    have closed := closeCases u
    rw [Option.some.inj step] at closed
    cases closed with
    | busy _ => exact old mem
    | cleared _ _ => cases mem
    | already _ _ => exact old mem
  | choose disk paths =>
    have chosen := chooseCases listed disk paths
    rw [Option.some.inj step] at chosen
    cases chosen with
    | listed notices ids multiple =>
      rcases List.mem_append.mp mem with before | new
      · exact old before
      · exact .inr (stagedPicked (List.Subset.refl _) new)
    | seen notices single nothing => exact old mem
    | failed said quiet silent single new blocked => exact old mem
    | asked notices single free made new =>
      rcases List.mem_append.mp mem with before | new
      · exact old before
      · exact .inr (stagedPicked (List.filter_subset_self _) new)
  | remove id =>
    have removed := removeCases u id
    rw [Option.some.inj step] at removed
    cases removed with
    | unknown _ => exact old mem
    | busy _ _ => exact old mem
    | done _ _ => exact old (List.mem_filter.mp mem).1
  | retry id =>
    have renewed := retryCases u id
    rw [Option.some.inj step] at renewed
    cases renewed with
    | unknown _ => exact old mem
    | refused _ _ => exact old mem
    | @done file found failed =>
      obtain ⟨f,before,become⟩ := List.mem_map.mp mem
      split at become
      · subst g
        exact .inl ⟨file,List.mem_of_find?_eq_some found,rfl,rfl⟩
      · subst g
        exact .inl ⟨f,before,rfl,rfl⟩
  | start =>
    have begun := beginCases u .start
    rw [Option.some.inj step] at begun
    cases begun with
    | failed _ _ _ _ => exact old mem
    | idle _ _ => exact old mem
    | asked _ _ _ => exact old mem
  | policyAnswered reply now supply => cases call
  | fileRead position contents => cases call
  | postAnswered position reply => cases call

theorem stepNames {u v : Uploader} {e : Event} {said : List Effect} (sound : Sound u)
    (step : u.step? e = some (v,said)) {g : PendingFile} (mem : g ∈ v.files) :
    (∃ f ∈ u.files, g.name = f.name ∧ g.path = f.path) ∨ Picked [e] g := by
  cases call : e.isCall with
  | true => exact callNames sound.toListed call step mem
  | false =>
    obtain ⟨f,old,onward⟩ := answerOnward sound (answerCases call step) mem
    exact .inl ⟨f,old,onward.name,onward.path⟩

theorem Picked.later {past more : List Event} {f : PendingFile} (picked : Picked past f)
    (within : past ⊆ more) : Picked more f := by
  obtain ⟨disk,paths,chosen,rest⟩ := picked
  exact ⟨disk,paths,within chosen,rest⟩

theorem runNames {config : Config} {start u : Uploader} {past : List Event} {before : List Effect}
    (ready : render config = .ok start) (run : start.run? past = some (u,before)) :
    ∀ f ∈ u.files, Picked past f := by
  induction past using List.reverseRecOn generalizing u before with
  | nil =>
    obtain ⟨rfl,-⟩ := runNil.mp run
    obtain ⟨kind,rfl⟩ := renderedFresh ready
    simp
  | append_singleton past e ih =>
    obtain ⟨v,earlier,said,ran,next,-⟩ := runSnoc.mp run
    intro g mem
    rcases stepNames (runSound (renderedSound ready) ran) next mem with ⟨f,old,name,path⟩ | new
    · obtain ⟨disk,paths,chosen,p,given,shown,file,seen,same⟩ := ih ran f old
      exact ⟨disk,paths,List.mem_append_left _ chosen,p,given,name ▸ shown,file,seen,path.trans same⟩
    · exact new.later (List.subset_append_right _ _)

theorem Picked.plain {events : List Event} {f : PendingFile} (picked : Picked events f) :
    '/' ∉ f.name.toList := by
  obtain ⟨_,_,_,_,_,shown,_⟩ := picked
  exact (cleanName (displayIff.mp shown)).plain

end SignedUpload.Uploader

import SignedUpload.Proofs.Modes
import SignedUpload.Proofs.Refusal

/-! What a choice puts on the list. Whatever a filter takes of the paths comes behind the files that are
listed, once for each resolved path and under ids of its own; each other path is told of once. Only then
does single mode begin a batch for what has come. -/
namespace SignedUpload.Uploader

def added (u : Uploader) (offers : List Candidate) : List Candidate :=
  -- single mode leaves out what the last selection held
  (firsts offers).filter fun c => u.config.multiple || !u.snapshot.contains c.path

def arrivals (u : Uploader) (offers : List Candidate) : List PendingFile :=
  ((u.added offers).zipIdx (u.lastId + 1)).map fun (c,id) =>
    ⟨id,c.path,c.name,c.size,c.contentType,.waiting,none⟩

def arrivalIds (u : Uploader) (offers : List Candidate) : List FileId :=
  (u.arrivals offers).map (·.id)

def staging (u : Uploader) (offers : List Candidate) : Uploader :=
  { u with
    files := u.files ++ u.arrivals offers
    snapshot := if u.config.multiple then u.snapshot else (firsts offers).map (·.path)
    lastId := u.lastId + (u.arrivals offers).length
    dialogOpen := u.dialogOpen || u.config.multiple }

inductive GoesOn (u : Uploader) (offers : List Candidate) (refusals : List String) : Result → Prop where
  | returned (whole : u.config.multiple = true ∨ u.arrivals offers = []) :
      GoesOn u offers refusals (u.staging offers,
        refusals.map .notice ++ [.answer (.staged (u.arrivalIds offers))])
  | begun (single : u.config.multiple = false) (new : u.arrivals offers ≠ []) :
      GoesOn u offers refusals (((u.staging offers).begin (.choice (u.arrivalIds offers))).1,
        refusals.map .notice ++ ((u.staging offers).begin (.choice (u.arrivalIds offers))).2)

theorem stageFromZip (next : FileId) (candidates : List Candidate) :
    stageFrom next candidates = (candidates.zipIdx next).map fun (c,id) =>
      ⟨id,c.path,c.name,c.size,c.contentType,.waiting,none⟩ := by
  induction candidates generalizing next with
  | nil => rfl
  | cons c rest ih => simp [stageFrom,ih,PendingFile.staged]

theorem arrivalsStaged (u : Uploader) (offers : List Candidate) :
    stageFrom (u.lastId + 1) (u.added offers) = u.arrivals offers :=
  stageFromZip _ _

theorem arrivalIdsRange (u : Uploader) (offers : List Candidate) :
    u.arrivalIds offers = List.range' (u.lastId + 1) (u.arrivals offers).length := by
  rw [arrivalIds,← arrivalsStaged,stageFromIds,stageFromLength]

section Choice
variable {u : Uploader} {disk : Disk} {paths : List Path} {offers : List Candidate}
  {refusals : List String} (sifted : Sifted u.filter disk paths offers refusals)
include sifted

theorem unseenAdded (single : u.config.multiple = false) :
    u.unseen disk paths = u.added offers := by
  rw [unseen,pickedFirsts sifted,added]
  simp [single]

theorem submissionArrivals (single : u.config.multiple = false) :
    u.submission disk paths = u.arrivals offers := by
  rw [submission,unseenAdded sifted single,arrivalsStaged]

theorem submitStaging (single : u.config.multiple = false) :
    u.submit disk paths = u.staging offers := by
  simp [submit,staging,submissionArrivals sifted single,pickedPaths,pickedFirsts sifted,single]

theorem chooseGoesOn : GoesOn u offers refusals (u.choose disk paths) := by
  by_cases multiple : u.config.multiple = true
  · have all : u.added offers = firsts offers := by simp [added,multiple]
    have staged : u.arrivals offers = stageFrom (u.lastId + 1) (firsts offers) := by
      rw [← all,arrivalsStaged]
    have listed : u.choose disk paths = (u.staging offers,
        refusals.map .notice ++ [.answer (.staged (u.arrivalIds offers))]) := by
      simp [choose,multiple,stage,selectionOf sifted,staging,arrivalIds,staged]
    rw [listed]
    exact .returned (.inl multiple)
  · have single : u.config.multiple = false := by simpa using multiple
    have nothing : u.unseen disk paths = [] ↔ u.arrivals offers = [] := by
      rw [← submissionArrivals sifted single,← List.length_eq_zero_iff,
        ← List.length_eq_zero_iff (l := u.submission disk paths),submission,stageFromLength]
    rw [chooseSingle u disk paths single,selectionOf sifted,submitStaging sifted single,
      submissionArrivals sifted single]
    split
    · rename_i seen
      -- with nothing new, only the snapshot moves
      have stale := nothing.mp seen
      have quiet : ({ u with snapshot := u.pickedPaths disk paths } : Uploader) = u.staging offers := by
        simp [staging,stale,single,pickedPaths,pickedFirsts sifted]
      have ids : u.arrivalIds offers = [] := by simp [arrivalIds,stale]
      rw [quiet,← ids]
      exact .returned (.inr stale)
    · rename_i new
      exact .begun single (mt nothing.mpr new)

theorem stagingTakeBack (listed : Listed u) (single : u.config.multiple = false) :
    ((u.staging offers).takeBack (.choice (u.arrivalIds offers))).files = u.files := by
  have back := submitTakeBack listed disk paths
  rw [submitStaging sifted single,submissionArrivals sifted single] at back
  rw [arrivalIds,back]
  rfl

end Choice

theorem stagingWaits {u : Uploader} {offers : List Candidate} (new : u.arrivals offers ≠ []) :
    waitingIds (u.staging offers).files ≠ [] := by
  have all : (u.arrivals offers).filter (·.status = .waiting) = u.arrivals offers := by
    refine List.filter_eq_self.mpr fun f mem => ?_
    rw [← arrivalsStaged] at mem
    simpa using (stagedFile mem).1
  simp [waitingIds,staging,all,new]

theorem beginNotices {u : Uploader} (waits : waitingIds u.files ≠ []) (origin : Origin) :
    notices (u.begin origin).2 = [] := by
  have begins := beginExact u origin
  generalize u.begin origin = result at begins
  cases begins with
  | busy running => rfl
  | nothing free nothing => exact absurd nothing (waitingSome waits)
  | settled free settled => exact absurd settled waits
  | unmade free waits unmade => rfl
  | asked free waits made => rfl

theorem noticesNotices (texts : List String) : notices (texts.map .notice) = texts := by
  simp [notices,List.filterMap_map]

inductive Came (u : Uploader) (offers : List Candidate) : Result → Prop where
  | staged {v said} (told : answers said = [.staged (u.arrivalIds offers)])
      (files : v.files = u.files ++ u.arrivals offers) : Came u offers (v,said)
  | failed {v said error} (single : u.config.multiple = false)
      (told : answers said = [.failed error]) (files : v.files = u.files) : Came u offers (v,said)
  | pending {v said request} (single : u.config.multiple = false) (silent : answers said = [])
      (asked : v.batch = some ⟨.choice (u.arrivalIds offers),
        .awaitingPolicy request (waitingIds v.files)⟩)
      (files : v.files = u.files ++ u.arrivals offers) : Came u offers (v,said)

theorem chooseCame {u : Uploader} {disk : Disk} {paths : List Path} {offers : List Candidate}
    {refusals : List String} (listed : Listed u) (sifted : Sifted u.filter disk paths offers refusals) :
    Came u offers (u.choose disk paths) ∧ notices (u.choose disk paths).2 = refusals := by
  have goes := chooseGoesOn sifted
  generalize u.choose disk paths = result at goes
  cases goes with
  | returned whole =>
    refine ⟨.staged ?_ rfl,?_⟩
    · rw [answersAppend,answersNotices]
      rfl
    · rw [noticesAppend,noticesNotices]
      exact List.append_nil _
  | begun single new =>
    have waits := stagingWaits new
    refine ⟨?_,by rw [noticesAppend,noticesNotices,beginNotices waits,List.append_nil]⟩
    have back := stagingTakeBack sifted listed single
    have begun := beginCases (u.staging offers) (.choice (u.arrivalIds offers))
    generalize (u.staging offers).begin _ = result at begun
    cases begun with
    | @failed said error quiet silent blocked =>
      refine @Came.failed _ _ _ _ error single ?_ back
      rw [answersAppend,answersNotices,answersAppend,silent]
      rfl
    | idle free settled => exact absurd settled waits
    | asked free waits made =>
      refine .pending single ?_ rfl rfl
      rw [answersAppend,answersNotices]
      rfl

theorem Course.origin {v x : Uploader} {events : List Event} {effects : List Effect} (sound : Sound v)
    (course : Course v events effects x) {origin : Origin} {phase : Phase}
    (begun : v.batch = some ⟨origin,phase⟩) (busy : x.isUploading = true) :
    ∃ phase', x.batch = some ⟨origin,phase'⟩ := by
  induction course with
  | refl => exact ⟨phase,begun⟩
  | @step a b events effects e said earlier busy' next ih =>
    obtain ⟨phase',under⟩ := ih busy'
    cases call : e.isCall with
    | true => exact ⟨phase',((earlier.sound sound).called call next).keeps busy' ▸ under⟩
    | false =>
      obtain ⟨origin',_,under',comes⟩ := answerComes (answerCases call next)
      cases under.symm.trans under'
      cases comes with
      | reading jobs going => exact ⟨_,going⟩
      | posting job request going => exact ⟨_,going⟩
      | reported objects free => simp [isUploading,free] at busy
      | denied failure free => simp [isUploading,free] at busy

/-- All that a choice does with some paths: what is taken of them and what is said of the others, which
files come on the list, and what the caller is told, at once or when the batch is over. -/
structure Stages (u : Uploader) (disk : Disk) (paths : List Path) (offers : List Candidate)
    (refusals : List String) : Prop where
  sifted : Sifted u.filter disk paths offers refusals
  told : notices (u.choose disk paths).2 = refusals
  goesOn : GoesOn u offers refusals (u.choose disk paths)
  came : Came u offers (u.choose disk paths)
  consecutive : u.arrivalIds offers = List.range' (u.lastId + 1) (u.arrivals offers).length
  fresh : ∀ {w events effects}, Reachable w → w.run? events = some (u,effects) →
    ∀ f ∈ w.files, ∀ id ∈ u.arrivalIds offers, f.id < id
  untouched : u.files <+: (u.choose disk paths).1.files
  multiple : u.config.multiple = true →
    answers (u.choose disk paths).2 = [.staged (u.arrivalIds offers)] ∧
      requests (u.choose disk paths).2 = [] ∧ (u.choose disk paths).1.dialogOpen = true
  ended : answers (u.choose disk paths).2 = [] → ∀ {events effects x e y last},
    Course (u.choose disk paths).1 events effects x → e.isCall = false →
    x.step? e = some (y,last) → answers last ≠ [] →
      answers last = [.staged (u.arrivalIds offers)] ∨
        ∃ failure, answers last = [.failed (.policyFailed failure)]

section Stages
variable {u : Uploader} {disk : Disk} {paths : List Path} {offers : List Candidate}
  {refusals : List String}

theorem GoesOn.multiple {result : Result} (goes : GoesOn u offers refusals result)
    (multiple : u.config.multiple = true) :
    answers result.2 = [.staged (u.arrivalIds offers)] ∧ requests result.2 = [] ∧
      result.1.dialogOpen = true := by
  cases goes with
  | returned whole =>
    refine ⟨?_,?_,by simp [staging,multiple]⟩
    · rw [answersAppend,answersNotices]
      rfl
    · rw [requestsAppend,requestsNotices]
      rfl
  | begun single new => simp [single] at multiple

theorem Came.untouched {result : Result} (came : Came u offers result) :
    u.files <+: result.1.files := by
  cases came with
  | staged told files => exact ⟨_,files.symm⟩
  | failed single told files => exact files ▸ List.prefix_refl _
  | pending single silent asked files => exact ⟨_,files.symm⟩

theorem Came.ended {result : Result} (came : Came u offers result) (sound : Sound result.1)
    (silent : answers result.2 = []) {events : List Event} {effects : List Effect} {x : Uploader}
    {e : Event} {y : Uploader} {last : List Effect} (course : Course result.1 events effects x)
    (answer : e.isCall = false) (step : x.step? e = some (y,last)) (told : answers last ≠ []) :
    answers last = [.staged (u.arrivalIds offers)] ∨
      ∃ failure, answers last = [.failed (.policyFailed failure)] := by
  cases came with
  | staged told _ => simp [told] at silent
  | failed _ told _ => simp [told] at silent
  | pending _ _ asked _ =>
    have answered := answerCases answer step
    obtain ⟨phase,under⟩ := course.origin sound asked answered.busy
    obtain ⟨origin',_,under',comes⟩ := answerComes answered
    cases under.symm.trans under'
    cases comes with
    | reading jobs _ => exact absurd (answersLoads jobs) told
    | posting job request _ => exact absurd rfl told
    | reported objects _ => exact .inl rfl
    | denied failure _ => exact .inr ⟨failure,rfl⟩

theorem arrivalsFresh {w : Uploader} {events : List Event} {effects : List Effect}
    (reachable : Reachable w) (run : w.run? events = some (u,effects)) :
    ∀ f ∈ w.files, ∀ id ∈ u.arrivalIds offers, f.id < id := by
  intro f mem id new
  have sound := reachableSound reachable
  rw [arrivalIdsRange] at new
  have below := sound.bound f mem
  have later := (runLater sound run).last
  have above := (List.mem_range'_1.mp new).1
  lia

theorem choiceStages (reachable : Reachable u) (disk : Disk) (paths : List Path) :
    ∃ offers refusals, Stages u disk paths offers refusals := by
  obtain ⟨offers,refusals,sifted⟩ := siftedOf u.filter disk paths
  have sound := reachableSound reachable
  have goes := chooseGoesOn sifted
  obtain ⟨came,told⟩ := chooseCame sound.toListed sifted
  have next : u.step? (.choose disk paths) = some (u.choose disk paths) := rfl
  exact ⟨offers,refusals,{
    sifted := sifted
    told := told
    goesOn := goes
    came := came
    consecutive := arrivalIdsRange u offers
    fresh := arrivalsFresh
    untouched := came.untouched
    multiple := goes.multiple
    ended := came.ended (stepSound sound next) }⟩

end Stages

-- After a file was stored in single mode: that file again, two paths to another one, a path that is
-- gone and one without a name.
def linkedDisk : Disk := fun path =>
  if path = [46,47,98] then .regular ⟨[98],0,[]⟩
  else if path = [99] then .unreachable .notFound
  else sampleDisk path

def linkedPaths : List Path := [[97],[99],[46,47,98],[46,46],[98]]

theorem linkedStagesOne : Reachable storedOne ∧
    ∃ offers refusals, Stages storedOne linkedDisk linkedPaths offers refusals ∧
      storedOne.arrivals offers = [⟨2,[98],"b",0,"application/octet-stream",.waiting,none⟩] ∧
      refusals = ["cannot read 'c': No such file or directory (os error 2)",
        "'..' has no usable file name"] := by
  obtain ⟨offers,refusals,stages⟩ := choiceStages storedReachable linkedDisk linkedPaths
  have selected : Selection.of storedOne.filter linkedDisk linkedPaths =
      ⟨[⟨[97],"a",0,"application/octet-stream"⟩,⟨[98],"b",0,"application/octet-stream"⟩],
        ["cannot read 'c': No such file or directory (os error 2)",
          "'..' has no usable file name"]⟩ := by
    decide +kernel
  rw [selectionOf stages.sifted] at selected
  obtain ⟨first,said⟩ := Selection.mk.inj selected
  refine ⟨storedReachable,offers,refusals,stages,?_,said⟩
  rw [arrivals,added,first]
  decide +kernel

end SignedUpload.Uploader

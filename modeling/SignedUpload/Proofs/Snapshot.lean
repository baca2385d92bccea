import SignedUpload.Proofs.Invariant

/-! The last selection of single mode. Between batches it holds no path but those that were stored,
and those of files that were taken off the list or renewed while their batch ran. -/
namespace SignedUpload.Uploader

def storedBy (u : Uploader) : Event → List Path
  | .postAnswered position reply => match u.batch with
    | some ⟨_,.transferring t⟩ => match flight? t position with
      | some ⟨job,.posting request⟩ => match Config.stored request reply with
        | .ok _ => [job.path]
        | .error _ => []
      | _ => []
    | _ => []
  | _ => []

def trace (u : Uploader) (file : PendingFile) : List Path :=
  if file.path ∈ u.snapshot then [file.path] else []

/-- Of the last selection, the paths whose files were taken off the list or renewed. A path is
forgotten with the next selection that leaves it out. -/
def lostBy (u : Uploader) (lost : List Path) : Event → List Path
  | .choose disk paths => lost.filter (u.pickedPaths disk paths).contains
  | .remove id => match u.file? id with
    | some file => if file.status = .uploading then lost else u.trace file ++ lost
    | none => lost
  | .retry id => match u.file? id with
    | some file => if file.status = .failed then u.trace file ++ lost else lost
    | none => lost
  | _ => lost

inductive History : Uploader → List Path → List Path → Prop where
  | rendered {config u} (ready : render config = .ok u) : History u [] []
  | step {u v e said stored lost} (earlier : History u stored lost)
      (next : u.step? e = some (v,said)) : History v (u.storedBy e ++ stored) (u.lostBy lost e)

theorem History.reachable {u : Uploader} {stored lost : List Path} (history : History u stored lost) :
    Reachable u := by
  induction history with
  | rendered ready => exact .rendered ready
  | step _ next ih => exact .step ih next

theorem Reachable.history {u : Uploader} (reachable : Reachable u) :
    ∃ stored lost, History u stored lost := by
  induction reachable with
  | rendered ready => exact ⟨_,_,.rendered ready⟩
  | step _ next ih =>
    obtain ⟨stored,lost,history⟩ := ih
    exact ⟨_,_,.step history next⟩

theorem pickedDistinct (u : Uploader) (disk : Disk) (paths : List Path) :
    (u.pickedPaths disk paths).Nodup := by
  obtain ⟨offers,refusals,sifted⟩ := siftedOf u.filter disk paths
  rw [pickedPaths,pickedFirsts sifted]
  exact firstsDistinct offers

structure Pledges (own : PendingFile → Prop) (files : List PendingFile)
    (snapshot stored lost : List Path) : Prop where
  held : ∀ p ∈ lost, p ∈ snapshot
  paths : (files.map (·.path)).Nodup
  covered : ∀ p ∈ snapshot, p ∈ stored ∨ p ∈ lost ∨ ∃ f ∈ files, own f ∧ f.path = p
  apart : ∀ f ∈ files, own f → f.path ∉ lost

def Sent (f : PendingFile) : Prop := f.status = .uploading ∨ f.status = .failed

section Pledges
variable {own : PendingFile → Prop} {files : List PendingFile} {snapshot stored lost : List Path}
  (pledges : Pledges own files snapshot stored lost)
include pledges

theorem Pledges.file {f g : PendingFile} (left : f ∈ files) (right : g ∈ files)
    (same : f.path = g.path) : f = g :=
  List.inj_on_of_nodup_map pledges.paths left right same

theorem Pledges.narrow {later picked : List Path}
    (narrowed : ∀ p, p ∈ later ↔ p ∈ snapshot ∧ p ∈ picked) :
    Pledges own files later stored (lost.filter picked.contains) where
  held := by
    intro p mem
    obtain ⟨old,again⟩ := List.mem_filter.mp mem
    exact (narrowed p).mpr ⟨pledges.held p old,by simpa using again⟩
  paths := pledges.paths
  covered := by
    intro p mem
    obtain ⟨old,again⟩ := (narrowed p).mp mem
    rcases pledges.covered p old with kept | gone | its
    · exact .inl kept
    · exact .inr (.inl (List.mem_filter.mpr ⟨gone,by simpa using again⟩))
    · exact .inr (.inr its)
  apart := fun f mem its gone => pledges.apart f mem its (List.mem_filter.mp gone).1

theorem Pledges.leave {f : PendingFile} (listed : f ∈ files) (distinct : Distinct files)
    {left : List Path} (trace : ∀ p, p ∈ left ↔ p = f.path ∧ p ∈ snapshot)
    {later : List PendingFile} (paths : (later.map (·.path)).Nodup)
    (stay : ∀ g ∈ files, g.id ≠ f.id → g ∈ later)
    (old : ∀ g ∈ later, own g → g ∈ files ∧ g.id ≠ f.id) :
    Pledges own later snapshot stored (left ++ lost) where
  held := by
    intro p mem
    rcases List.mem_append.mp mem with new | before
    · exact ((trace p).mp new).2
    · exact pledges.held p before
  paths := paths
  covered := by
    intro p mem
    rcases pledges.covered p mem with kept | gone | ⟨g,here,its,path⟩
    · exact .inl kept
    · exact .inr (.inl (List.mem_append_right _ gone))
    · by_cases same : g.id = f.id
      · have eq := sameFile distinct here listed same
        exact .inr (.inl (List.mem_append_left _ ((trace p).mpr ⟨by rw [← path,eq],mem⟩)))
      · exact .inr (.inr ⟨g,stay g here same,its,path⟩)
  apart := by
    intro g mem its gone
    obtain ⟨here,other⟩ := old g mem its
    rcases List.mem_append.mp gone with new | before
    · exact other (congrArg PendingFile.id (pledges.file here listed ((trace _).mp new).1))
    · exact pledges.apart g here its before

theorem Pledges.remove {f : PendingFile} (listed : f ∈ files) (distinct : Distinct files)
    {left : List Path} (trace : ∀ p, p ∈ left ↔ p = f.path ∧ p ∈ snapshot) :
    Pledges own (files.filter (·.id ≠ f.id)) snapshot stored (left ++ lost) := by
  refine pledges.leave listed distinct trace ?_ ?_ ?_
  · exact pledges.paths.sublist (List.filter_sublist.map _)
  · exact fun g here other => List.mem_filter.mpr ⟨here,by simpa using other⟩
  · intro g mem _
    obtain ⟨here,other⟩ := List.mem_filter.mp mem
    exact ⟨here,by simpa using other⟩

theorem Pledges.renew {f : PendingFile} (listed : f ∈ files) (distinct : Distinct files)
    {left : List Path} (trace : ∀ p, p ∈ left ↔ p = f.path ∧ p ∈ snapshot) {fresh : FileId}
    (outside : ¬ own (f.restaged fresh)) :
    Pledges own (replace files f.id (f.restaged fresh)) snapshot stored (left ++ lost) := by
  refine pledges.leave listed distinct trace ?_ ?_ ?_
  · have same : (replace files f.id (f.restaged fresh)).map (·.path) = files.map (·.path) := by
      rw [replace,List.map_map]
      apply List.map_congr_left
      intro g mem
      simp only [Function.comp_apply]
      split
      · rename_i eq
        rw [sameFile distinct mem listed eq]
        rfl
      · rfl
    rw [same]
    exact pledges.paths
  · exact fun g here other => List.mem_map.mpr ⟨g,here,if_neg other⟩
  · intro g mem its
    obtain ⟨h,here,become⟩ := List.mem_map.mp mem
    split at become
    · subst g
      exact absurd its outside
    · rename_i other
      subst h
      exact ⟨here,other⟩

theorem Pledges.forget {leaves : PendingFile → Bool}
    (all : ∀ f ∈ files, own f ↔ leaves f = true) (own' : PendingFile → Prop) :
    Pledges own' [] (snapshot.filter fun p => !((files.filter leaves).map (·.path)).contains p)
      stored lost where
  held := by
    intro p mem
    refine List.mem_filter.mpr ⟨pledges.held p mem,?_⟩
    simp only [List.contains_eq_mem,Bool.not_eq_true',decide_eq_false_iff_not]
    intro taken
    obtain ⟨f,here,rfl⟩ := List.mem_map.mp taken
    obtain ⟨listed,goes⟩ := List.mem_filter.mp here
    exact pledges.apart f listed ((all f listed).mpr goes) mem
  paths := List.nodup_nil
  covered := by
    intro p mem
    obtain ⟨old,stays⟩ := List.mem_filter.mp mem
    rcases pledges.covered p old with kept | gone | ⟨f,listed,its,path⟩
    · exact .inl kept
    · exact .inr (.inl gone)
    · simp only [List.contains_eq_mem,Bool.not_eq_true',decide_eq_false_iff_not] at stays
      exact absurd (List.mem_map.mpr
        ⟨f,List.mem_filter.mpr ⟨listed,(all f listed).mp its⟩,path⟩) stays
  apart := by simp

end Pledges

theorem Pledges.mark {files : List PendingFile} {snapshot stored lost new : List Path}
    (pledges : Pledges Sent files snapshot stored lost) (distinct : Distinct files) {f : PendingFile}
    (listed : f ∈ files) (sent : f.status = .uploading) {status : FileStatus} (final : Final status)
    (kept : status = .succeeded → f.path ∈ new) :
    Pledges Sent (files.map (mark f.id status)) snapshot (new ++ stored) lost where
  held := pledges.held
  paths := by
    have same : (files.map (Uploader.mark f.id status)).map (·.path) = files.map (·.path) := by
      rw [List.map_map]
      exact List.map_congr_left fun g _ => markPath _ _ g
    rw [same]
    exact pledges.paths
  covered := by
    intro p mem
    rcases pledges.covered p mem with old | gone | ⟨g,here,its,path⟩
    · exact .inl (List.mem_append_right _ old)
    · exact .inr (.inl gone)
    · by_cases same : g.id = f.id
      · have eq := sameFile distinct here listed same
        rcases final with done | failed
        · exact .inl (List.mem_append_left _ (by rw [← path,eq]; exact kept done))
        · refine .inr (.inr ⟨_,List.mem_map.mpr ⟨g,here,rfl⟩,?_,(markPath _ _ g).trans path⟩)
          simp [Uploader.mark,same,Sent,failed]
      · exact .inr (.inr ⟨g,List.mem_map.mpr ⟨g,here,markOther same status⟩,its,path⟩)
  apart := by
    intro g mem its
    obtain ⟨h,here,rfl⟩ := List.mem_map.mp mem
    rw [markPath]
    by_cases same : h.id = f.id
    · have eq := sameFile distinct here listed same
      exact pledges.apart h here (.inl (eq ▸ sent))
    · rw [markOther same] at its
      exact pledges.apart h here its

def Pledged (u : Uploader) (f : PendingFile) : Prop :=
  match u.batch with
  | some ⟨_,.awaitingPolicy _ _⟩ => True
  | _ => Sent f

theorem pledgedSame {u v : Uploader} (same : v.batch = u.batch) : v.Pledged = u.Pledged := by
  funext f
  simp only [Pledged,same]

structure Remembered (u : Uploader) (stored lost : List Path) : Prop where
  pledges : Pledges u.Pledged u.files u.snapshot stored lost
  idle : u.batch = none → u.files = []
  awaits : ∀ {origin request waiting}, u.batch = some ⟨origin,.awaitingPolicy request waiting⟩ →
    ∃ staged, origin = .choice staged ∧
      ∀ f ∈ u.files, f.status = .waiting ∧ f.id ∈ staged ∧ f.id ∈ waiting

section Remembered
variable {u v : Uploader} {stored lost : List Path} (remembered : Remembered u stored lost)
include remembered

theorem Remembered.same (files : v.files = u.files) (snapshot : v.snapshot = u.snapshot)
    (batch : v.batch = u.batch) : Remembered v stored lost where
  pledges := by
    rw [pledgedSame batch,files,snapshot]
    exact remembered.pledges
  idle := fun free => files.trans (remembered.idle (batch.symm.trans free))
  awaits := fun awaiting => files ▸ remembered.awaits (batch.symm.trans awaiting)

theorem Remembered.narrow {picked : List Path} (files : v.files = u.files)
    (narrowed : ∀ p, p ∈ v.snapshot ↔ p ∈ u.snapshot ∧ p ∈ picked) (batch : v.batch = u.batch) :
    Remembered v stored (lost.filter picked.contains) where
  pledges := by
    rw [pledgedSame batch,files]
    exact remembered.pledges.narrow narrowed
  idle := fun free => files.trans (remembered.idle (batch.symm.trans free))
  awaits := fun awaiting => files ▸ remembered.awaits (batch.symm.trans awaiting)

theorem Remembered.busy {f : PendingFile} (listed : f ∈ u.files) : u.batch ≠ none := by
  intro free
  rw [remembered.idle free] at listed
  cases listed

theorem Remembered.choose (sound : Sound u) (single : u.config.multiple = false) (disk : Disk)
    (paths : List Path) : Remembered (u.choose disk paths).1 stored
      (lost.filter (u.pickedPaths disk paths).contains) := by
  have chosen := chooseCases sound.toListed disk paths
  generalize u.choose disk paths = result at chosen
  cases chosen with
  | listed notices ids multiple => simp [single] at multiple
  | seen notices single nothing =>
    refine remembered.narrow rfl ?_ rfl
    intro p
    refine ⟨fun mem => ⟨?_,mem⟩,And.right⟩
    obtain ⟨c,here,rfl⟩ := List.mem_map.mp mem
    simpa using List.filter_eq_nil_iff.mp nothing c here
  | failed said quiet silent single new blocked =>
    refine remembered.narrow rfl ?_ rfl
    intro p
    simp [refused,and_comm]
  | asked notices single free made new =>
    have old : u.files = [] := remembered.idle free
    have files : (u.submit disk paths).files = u.submission disk paths := by simp [submit,old]
    have again : ∀ p, p ∈ (u.submission disk paths).map (·.path) ↔
        p ∈ u.pickedPaths disk paths ∧ p ∉ u.snapshot := submissionPath u disk paths
    refine ⟨⟨?_,?_,?_,?_⟩,by simp,?_⟩
    · intro p mem
      have picked := (List.mem_filter.mp mem).2
      exact List.contains_iff_mem.mp picked
    · simp only [files,submission,stageFromPaths]
      exact (pickedDistinct u disk paths).sublist (List.filter_sublist.map _)
    · intro p mem
      by_cases seen : p ∈ u.snapshot
      · rcases remembered.pledges.covered p seen with kept | gone | ⟨f,listed,-⟩
        · exact .inl kept
        · exact .inr (.inl (List.mem_filter.mpr ⟨gone,List.contains_iff_mem.mpr mem⟩))
        · rw [old] at listed
          cases listed
      · obtain ⟨f,here,path⟩ := List.mem_map.mp ((again p).mpr ⟨mem,seen⟩)
        exact .inr (.inr ⟨f,files ▸ here,trivial,path⟩)
    · intro f mem _ gone
      simp only [files] at mem
      have unseen := ((again f.path).mp (List.mem_map.mpr ⟨f,mem,rfl⟩)).2
      exact unseen (remembered.pledges.held _ (List.mem_filter.mp gone).1)
    · intro origin request waiting awaiting
      cases awaiting
      refine ⟨_,rfl,?_⟩
      intro f mem
      simp only [files] at mem ⊢
      have waits := (stagedFile mem).1
      exact ⟨waits,List.mem_map.mpr ⟨f,mem,rfl⟩,waitingIff.mpr ⟨f,mem,waits,rfl⟩⟩

theorem Remembered.edit {later : List Path} (busy : u.batch ≠ none) (batch : v.batch = u.batch)
    (pledges : Pledges u.Pledged v.files v.snapshot stored later)
    (old : ∀ {origin request waiting}, u.batch = some ⟨origin,.awaitingPolicy request waiting⟩ →
      ∀ f ∈ v.files, f ∈ u.files) : Remembered v stored later where
  pledges := by
    rw [pledgedSame batch]
    exact pledges
  idle := fun free => absurd (batch.symm.trans free) busy
  awaits := by
    intro origin request waiting awaiting
    obtain ⟨staged,choice,all⟩ := remembered.awaits (batch.symm.trans awaiting)
    exact ⟨staged,choice,fun f mem => all f (old (batch.symm.trans awaiting) f mem)⟩

omit remembered in
theorem traceIff (f : PendingFile) (p : Path) : p ∈ u.trace f ↔ p = f.path ∧ p ∈ u.snapshot := by
  unfold trace
  split
  · rename_i here
    rw [List.mem_singleton]
    exact ⟨fun same => ⟨same,same ▸ here⟩,And.left⟩
  · rename_i away
    constructor
    · intro mem
      cases mem
    · rintro ⟨rfl,here⟩
      exact absurd here away

theorem Remembered.renewed {f : PendingFile} (listed : f ∈ u.files) (failed : f.status = .failed)
    (fresh : FileId) : ¬ u.Pledged (f.restaged fresh) ∧
      ∀ {origin request waiting}, u.batch ≠ some ⟨origin,.awaitingPolicy request waiting⟩ := by
  have sent : ∀ {origin request waiting},
      u.batch ≠ some ⟨origin,.awaitingPolicy request waiting⟩ := by
    intro origin request waiting awaiting
    obtain ⟨_,-,all⟩ := remembered.awaits awaiting
    have waits := (all f listed).1
    rw [failed] at waits
    cases waits
  refine ⟨?_,sent⟩
  unfold Pledged
  split
  · rename_i awaiting
    exact absurd awaiting sent
  · simp [Sent,PendingFile.restaged,PendingFile.staged]

theorem Remembered.close : Remembered u.closeDialog.1 stored lost := by
  have closed := closeCases u
  generalize u.closeDialog = result at closed
  cases closed with
  | busy running => exact remembered.same rfl rfl rfl
  | cleared free shown => exact remembered.same (remembered.idle free).symm rfl rfl
  | already free shown => exact remembered.same rfl rfl rfl

theorem Remembered.remove (sound : Sound u) (id : FileId) :
    Remembered (u.remove id).1 stored (u.lostBy lost (.remove id)) := by
  have removed := removeCases u id
  generalize u.remove id = result at removed
  simp only [lostBy]
  cases removed with
  | unknown absent =>
    rw [absent]
    exact remembered.same rfl rfl rfl
  | busy found sent =>
    simp only [found,if_pos sent]
    exact remembered.same rfl rfl rfl
  | @done f found free =>
    simp only [found,if_neg free]
    obtain ⟨listed,rfl⟩ := (foundIff sound.distinct).mp found
    exact remembered.edit (remembered.busy listed) rfl
      (remembered.pledges.remove listed sound.distinct (traceIff f))
      fun _ g mem => (List.mem_filter.mp mem).1

theorem Remembered.retry (sound : Sound u) (id : FileId) :
    Remembered (u.retry id).1 stored (u.lostBy lost (.retry id)) := by
  have renewed := retryCases u id
  generalize u.retry id = result at renewed
  simp only [lostBy]
  cases renewed with
  | unknown absent =>
    rw [absent]
    exact remembered.same rfl rfl rfl
  | refused found other =>
    simp only [found,if_neg other]
    exact remembered.same rfl rfl rfl
  | @done f found failed =>
    simp only [found,if_pos failed]
    obtain ⟨listed,rfl⟩ := (foundIff sound.distinct).mp found
    obtain ⟨outside,sent⟩ := remembered.renewed listed failed (u.lastId + 1)
    exact remembered.edit (remembered.busy listed) rfl
      (remembered.pledges.renew listed sound.distinct (traceIff f) outside)
      fun awaiting => absurd awaiting sent

theorem Remembered.start : Remembered (u.begin .start).1 stored lost := by
  have begun := beginCases u .start
  generalize u.begin .start = result at begun
  cases begun with
  | failed said quiet silent blocked => exact remembered.same rfl rfl rfl
  | idle free settled => exact remembered.same rfl rfl rfl
  | asked free waits made =>
    rw [remembered.idle free] at waits
    exact absurd rfl waits

theorem callRemembered (sound : Sound u) (single : u.config.multiple = false) {e : Event}
    {said : List Effect} (call : e.isCall = true) (step : u.step? e = some (v,said)) :
    Remembered v stored (u.lostBy lost e) := by
  cases e with
  | openDialog =>
    cases Option.some.inj step
    exact remembered.same rfl rfl rfl
  | closeDialog =>
    have after := remembered.close
    rwa [Option.some.inj step] at after
  | choose disk paths =>
    have after := remembered.choose sound single disk paths
    rwa [Option.some.inj step] at after
  | remove id =>
    have after := remembered.remove sound id
    rwa [Option.some.inj step] at after
  | retry id =>
    have after := remembered.retry sound id
    rwa [Option.some.inj step] at after
  | start =>
    have after := remembered.start
    rwa [Option.some.inj step] at after
  | policyAnswered reply now supply => cases call
  | fileRead position contents => cases call
  | postAnswered position reply => cases call

end Remembered

theorem pledgedUnder {u : Uploader} {origin : Origin} {t : Transfer}
    (under : u.batch = some ⟨origin,.transferring t⟩) : u.Pledged = Sent := by
  funext f
  simp only [Pledged,under]

theorem rememberedIdle {u : Uploader} {stored lost : List Path} (free : u.batch = none)
    (empty : u.files = []) (pledges : Pledges u.Pledged [] u.snapshot stored lost) :
    Remembered u stored lost where
  pledges := empty ▸ pledges
  idle := fun _ => empty
  awaits := by simp [free]

theorem advanceRemembered {u : Uploader} {origin : Origin} {t : Transfer} {stored lost : List Path}
    (single : u.config.multiple = false) (pledges : Pledges Sent u.files u.snapshot stored lost)
    (runs : Runs u.files t) : Remembered (u.advance origin t).1 stored lost := by
  rcases advanceCases u origin t with ⟨empty,finished⟩ | ⟨-,going⟩
  · rw [finished,reportEq]
    have unsent : ∀ f ∈ u.files, f.status ≠ .uploading := by
      intro f mem sent
      obtain ⟨job,pending,-⟩ := runs.all f mem sent
      rw [empty] at pending
      cases pending
    have failed : ∀ f ∈ u.files, Sent f ↔ decide (f.status = .failed) = true := by
      intro f mem
      simp [Sent,unsent f mem]
    rw [settledSingle single]
    exact rememberedIdle rfl rfl (pledges.forget failed _)
  · rw [going]
    refine ⟨?_,by simp [underWay],?_⟩
    · rw [pledgedUnder rfl]
      exact pledges
    · intro origin' request waiting awaiting
      cases awaiting

theorem dispatchPledges {u : Uploader} {origin : Origin} {request : Http.Request}
    {waiting : List FileId} {jobs : List Job} {sent : List PendingFile} {stored lost : List Path}
    (remembered : Remembered u stored lost)
    (awaiting : u.batch = some ⟨origin,.awaitingPolicy request waiting⟩)
    (d : Dispatched 0 u.files waiting jobs sent) : Pledges Sent sent u.snapshot stored lost := by
  obtain ⟨staged,-,all⟩ := remembered.awaits awaiting
  have own : ∀ f, u.Pledged f := by
    intro f
    simp [Pledged,awaiting]
  have path : ∀ f, (stamp jobs f).path = f.path := stampPath jobs
  have given : ∀ f ∈ u.files, Sent (stamp jobs f) := by
    intro f mem
    have waits : f.id ∈ waiting.filter fun id => (u.files.find? (·.id == id)).isSome :=
      List.mem_filter.mpr ⟨(all f mem).2.2,List.find?_isSome.mpr ⟨f,mem,by simp⟩⟩
    rw [← d.ids] at waits
    obtain ⟨job,here,named⟩ := List.mem_map.mp waits
    unfold stamp
    cases found : jobs.find? (·.id == f.id) with
    | none => simpa [named] using List.find?_eq_none.mp found job here
    | some job => exact .inl rfl
  rw [d.sent]
  refine ⟨remembered.pledges.held,?_,?_,?_⟩
  · rw [List.map_map]
    have same : u.files.map ((·.path) ∘ stamp jobs) = u.files.map (·.path) :=
      List.map_congr_left fun f _ => path f
    rw [same]
    exact remembered.pledges.paths
  · intro p mem
    rcases remembered.pledges.covered p mem with kept | gone | ⟨f,listed,-,its⟩
    · exact .inl kept
    · exact .inr (.inl gone)
    · exact .inr (.inr ⟨stamp jobs f,List.mem_map.mpr ⟨f,listed,rfl⟩,given f listed,(path f).trans its⟩)
  · intro g mem _
    obtain ⟨f,listed,rfl⟩ := List.mem_map.mp mem
    rw [path]
    exact remembered.pledges.apart f listed (own f)

theorem resolveRemembered {u : Uploader} {origin : Origin} {t : Transfer} {job : Job} {stage : Stage}
    {outcome : Except UploadError Unit} {stored lost new : List Path} (sound : Sound u)
    (single : u.config.multiple = false) (remembered : Remembered u stored lost)
    (under : u.batch = some ⟨origin,.transferring t⟩) (flies : ⟨job,stage⟩ ∈ t.flights)
    (kept : statusOf outcome = .succeeded → job.path ∈ new) :
    Remembered (u.resolve origin t job outcome).1 (new ++ stored) lost := by
  obtain ⟨⟨f,listed,carries,marked⟩,closed⟩ :=
    closeRuns sound.distinct (sound.runs under).1 u.config flies outcome
  have pledges : Pledges Sent u.files u.snapshot stored lost :=
    pledgedUnder under ▸ remembered.pledges
  have kept' : statusOf outcome = .succeeded → f.path ∈ new := fun done => carries.path ▸ kept done
  have after := pledges.mark sound.distinct listed carries.status (statusFinal outcome) kept'
  rw [carries.id,← marked] at after
  rw [resolveEq]
  exact advanceRemembered (u := { u with files := _ }) single after closed

theorem answerRemembered {u : Uploader} {e : Event} {result : Result} {stored lost : List Path}
    (sound : Sound u) (single : u.config.multiple = false) (remembered : Remembered u stored lost)
    (answered : Answered u e result) :
    Remembered result.1 (u.storedBy e ++ stored) (u.lostBy lost e) := by
  cases answered with
  | @denied origin request waiting _ _ _ failure awaiting denied =>
    obtain ⟨staged,rfl,all⟩ := remembered.awaits awaiting
    have own : ∀ f ∈ u.files, u.Pledged f ↔ staged.contains f.id = true := by
      intro f mem
      simpa [Pledged,awaiting] using (all f mem).2.1
    rw [policyFailedEq]
    refine rememberedIdle rfl ?_ (remembered.pledges.forget own _)
    simpa [takeBack,forget] using fun f mem => (all f mem).2.1
  | granted awaiting granted given =>
    have waits := sound.waits awaiting
    have d := dispatchExact sound.distinct waits.once waits.still given
    obtain ⟨-,runs⟩ := dispatchRuns sound awaiting _ d
    have pledges := dispatchPledges remembered awaiting d
    exact advanceRemembered (u := { u with files := _ }) single pledges runs
  | @unsent origin t position job contents error under flight broken =>
    obtain ⟨flies,-⟩ := (flightIff (sound.runs under).1.positions).mp flight
    exact resolveRemembered sound single remembered under flies (by simp [statusOf])
  | @posted origin t position job contents request under flight sent =>
    refine ⟨?_,by simp [underWay],?_⟩
    · rw [pledgedUnder rfl]
      exact pledgedUnder under ▸ remembered.pledges
    · intro origin' request' waiting awaiting
      cases awaiting
  | @replied origin t position job request reply under flight =>
    obtain ⟨flies,-⟩ := (flightIff (sound.runs under).1.positions).mp flight
    refine resolveRemembered sound single remembered under flies ?_
    simp only [storedBy,under,flight]
    cases Config.stored request reply with
    | ok _ => simp
    | error _ => simp [statusOf]

theorem historyRemembered {u : Uploader} {stored lost : List Path} (history : History u stored lost)
    (single : u.config.multiple = false) : Sound u ∧ Remembered u stored lost := by
  induction history with
  | rendered ready =>
    obtain ⟨kind,rfl⟩ := renderedFresh ready
    exact ⟨renderedSound ready,rememberedIdle rfl rfl ⟨by simp,List.nodup_nil,by simp,by simp⟩⟩
  | @step u v e said stored lost earlier next ih =>
    have sound := reachableSound earlier.reachable
    have single' : u.config.multiple = false := (stepLater sound next).config ▸ single
    have remembered := (ih single').2
    refine ⟨stepSound sound next,?_⟩
    cases call : e.isCall with
    | true =>
      have nothing : u.storedBy e = [] := by cases e <;> simp [Event.isCall] at call <;> rfl
      rw [nothing]
      exact callRemembered remembered sound single' call next
    | false => exact answerRemembered sound single' remembered (answerCases call next)

structure Recalled (u : Uploader) (stored lost : List Path) : Prop where
  kept : (∀ p ∈ u.snapshot, p ∈ stored) ↔ ∀ p ∈ lost, p ∈ stored
  -- A file that was never stored is staged and sent, unless its policy cannot be asked for.
  submitted : (∀ p ∈ lost, p ∈ stored) → ∀ {disk paths c}, c ∈ u.picked disk paths →
    c.path ∉ stored → ∃ v said, u.step? (.choose disk paths) = some (v,said) ∧
      ((∃ request staged waiting, .requestPolicy request ∈ said ∧
          v.batch = some ⟨.choice staged,.awaitingPolicy request waiting⟩ ∧
          ∃ f ∈ v.files, f.path = c.path ∧ f.id ∈ staged ∧ f.id ∈ waiting) ∨
        ∃ fault error, u.config.policyRequest = .error fault ∧ answers said = [.failed error])
  skipped : ∀ {disk paths}, (∀ c ∈ u.picked disk paths, c.path ∈ lost) →
    ∃ v said, u.step? (.choose disk paths) = some (v,said) ∧ v.batch = none ∧
      answers said = [.staged []]

theorem selectionKept {u : Uploader} {stored lost : List Path} (history : History u stored lost)
    (single : u.config.multiple = false) (idle : u.isUploading = false) : Recalled u stored lost := by
  obtain ⟨sound,remembered⟩ := historyRemembered history single
  have free := idleIff.mp idle
  have empty := remembered.idle free
  have backed : ∀ p ∈ u.snapshot, p ∈ stored ∨ p ∈ lost := by
    intro p mem
    rcases remembered.pledges.covered p mem with kept | gone | ⟨f,listed,-⟩
    · exact .inl kept
    · exact .inr gone
    · rw [empty] at listed
      cases listed
  refine ⟨⟨?_,?_⟩,?_,?_⟩
  · exact fun kept p mem => kept p (remembered.pledges.held p mem)
  · exact fun kept p mem => (backed p mem).elim id (kept p)
  · intro kept disk paths c picked unstored
    have new : c.path ∉ u.snapshot := fun mem => unstored ((backed _ mem).elim id (kept _))
    have chosen := chooseCases sound.toListed disk paths
    refine ⟨(u.choose disk paths).1,(u.choose disk paths).2,rfl,?_⟩
    generalize u.choose disk paths = result at chosen
    cases chosen with
    | listed notices ids multiple => simp [single] at multiple
    | seen notices single nothing =>
      exact absurd (List.filter_eq_nil_iff.mp nothing c picked) (by simpa using new)
    | failed said quiet silent single _ blocked =>
      obtain ⟨fault,unmade⟩ := blocked.resolve_left (fun busy => busy free)
      exact .inr ⟨fault,_,unmade,by rw [answersAppend,silent]; rfl⟩
    | asked notices single free made _ =>
      obtain ⟨f,staged,path⟩ := List.mem_map.mp
        ((submissionPath u disk paths c.path).mpr ⟨List.mem_map.mpr ⟨c,picked,rfl⟩,new⟩)
      have listed : f ∈ (u.submit disk paths).files := List.mem_append_right _ staged
      exact .inl ⟨_,_,_,by simp,rfl,f,listed,path,List.mem_map.mpr ⟨f,staged,rfl⟩,
        waitingIff.mpr ⟨f,listed,(stagedFile staged).1,rfl⟩⟩
  · intro disk paths gone
    have nothing : u.unseen disk paths = [] := by
      refine List.filter_eq_nil_iff.mpr fun c mem => ?_
      simpa using remembered.pledges.held _ (gone c mem)
    have chosen := chooseCases sound.toListed disk paths
    refine ⟨(u.choose disk paths).1,(u.choose disk paths).2,rfl,?_⟩
    generalize u.choose disk paths = result at chosen
    cases chosen with
    | listed notices ids multiple => simp [single] at multiple
    | seen notices single _ => exact ⟨free,by rw [answersAppend,answersNotices]; rfl⟩
    | failed said quiet silent single new _ => exact absurd nothing new
    | asked notices single free made new => exact absurd nothing new

-- One file is chosen, and either stored or removed before its policy comes.
def chosenOne : Uploader := ((sample false).next (.choose sampleDisk [[97]])).1

theorem chosenHistory : History chosenOne [] [] :=
  .step (.rendered (sampleRendered false)) (stepNext (by decide +kernel))

def onlyJob : Job := ⟨0,1,[97],"a","application/octet-stream","5-00000-a"⟩

def loadingOne : Uploader :=
  { sample false with
    files := [⟨1,[97],"a",0,"application/octet-stream",.uploading,some "5-00000-a"⟩]
    snapshot := [[97]]
    lastId := 1
    batch := some ⟨.choice [1],
      .transferring ⟨⟨"A","S","P",none⟩,[],[⟨onlyJob,.reading⟩],.start 1,none⟩⟩ }

def storedOne : Uploader :=
  ((loadingOne.next (.fileRead 0 (.ok []))).1.next (.postAnswered 0 (.whole 200 []))).1

theorem storedSelectionKept : History storedOne [[97]] [] ∧ storedOne.config.multiple = false ∧
    storedOne.isUploading = false ∧ Recalled storedOne [[97]] [] := by
  have accepted : chosenOne.step? sampleAccepted = some (loadingOne,[.loadFile onlyJob]) := by
    decide +kernel
  have read := (chosenHistory.step accepted).step (e := .fileRead 0 (.ok []))
    (stepNext (by decide +kernel))
  have history : History storedOne [[97]] [] :=
    read.step (e := .postAnswered 0 (.whole 200 [])) (stepNext (by decide +kernel))
  have one : storedOne.config.multiple = false := by decide +kernel
  have idle : storedOne.isUploading = false := by decide +kernel
  exact ⟨history,one,idle,selectionKept history one idle⟩

def droppedOne : Uploader := { sample false with snapshot := [[97]], lastId := 1 }

theorem removalLosesSelection : ¬ ∀ {u : Uploader} {stored lost : List Path}, History u stored lost →
    u.config.multiple = false → u.isUploading = false → ∀ p ∈ u.snapshot, p ∈ stored := by
  intro keepsStored
  have removed := chosenHistory.step (e := .remove 1) (stepNext (by decide +kernel))
  have accepted : (chosenOne.next (.remove 1)).1.step? sampleAccepted =
      some (droppedOne,[.allUploaded [],.answer (.staged [1])]) := by
    decide +kernel
  have history : History droppedOne [] [[97]] := removed.step accepted
  cases keepsStored history rfl rfl [97] List.mem_cons_self

end SignedUpload.Uploader

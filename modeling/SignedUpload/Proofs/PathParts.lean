import SignedUpload.Path
import SignedUpload.Proofs.Pieces

/-! The parts of a path. Its name is what stands last between slashes, behind which only slashes and
single dots follow; the extension is what stands behind the last dot of that name. The grammar of both
is apart from the readers, which cut the path into pieces. -/
namespace SignedUpload

namespace Path
variable {α : Type} [DecidableEq α]

inductive Trailing (marks : Marks α) : List α → Prop where
  | nil : Trailing marks []
  | slash {rest} (more : Trailing marks rest) : Trailing marks (marks.slash :: rest)
  | dot {rest} (more : Trailing marks rest) : Trailing marks (marks.slash :: marks.dot :: rest)

def Located (marks : Marks α) (path name : List α) : Prop :=
  ∃ before after, path = before ++ name ++ after ∧
    (before = [] ∨ ∃ front, before = front ++ [marks.slash]) ∧ Trailing marks after

structure Names (marks : Marks α) (path name : List α) : Prop where
  located : Located marks path name
  nonempty : name ≠ []
  plain : marks.slash ∉ name
  noDot : name ≠ [marks.dot]
  noDots : name ≠ [marks.dot,marks.dot]

def Extends (marks : Marks α) (path extension : List α) : Prop :=
  ∃ name stem, Names marks path name ∧ name = stem ++ marks.dot :: extension ∧ stem ≠ [] ∧
    marks.dot ∉ extension

omit [DecidableEq α] in
theorem Trailing.append {marks : Marks α} {xs ys : List α} (first : Trailing marks xs)
    (second : Trailing marks ys) : Trailing marks (xs ++ ys) := by
  induction first with
  | nil => exact second
  | slash _ ih => exact .slash ih
  | dot _ ih => exact .dot ih

omit [DecidableEq α] in
theorem Located.followed {marks : Marks α} {path name after : List α}
    (located : Located marks path name) (trailing : Trailing marks after) :
    Located marks (path ++ after) name := by
  obtain ⟨before,rest,rfl,edge,earlier⟩ := located
  exact ⟨before,rest ++ after,by simp,edge,earlier.append trailing⟩

def counted (marks : Marks α) (path : List α) : List (List α) :=
  (pieces marks.slash path).reverse.dropWhile (stays marks)

section Counted
variable {marks : Marks α} {path name : List α}

theorem staysIff {component : List α} :
    stays marks component = true ↔ component = [] ∨ component = [marks.dot] := by
  simp [stays]

theorem countedLast (front : List α) {last : List α} (plain : marks.slash ∉ last) :
    counted marks (front ++ marks.slash :: last) =
      if stays marks last then counted marks front
      else last :: (pieces marks.slash front).reverse := by
  rw [counted,piecesAppend,piecesPlain plain,List.reverse_append]
  simp only [List.reverse_singleton,List.singleton_append,List.dropWhile_cons,counted]

theorem countedPlain (plain : marks.slash ∉ path) :
    counted marks path = if stays marks path then [] else [path] := by
  rw [counted,piecesPlain plain]
  simp [List.dropWhile_cons]

theorem countedTrailing (apart : marks.slash ≠ marks.dot) {after : List α}
    (trailing : Trailing marks after) (front : List α) :
    counted marks (front ++ after) = counted marks front := by
  -- over any front, since what was passed over belongs to the front of the rest
  induction trailing generalizing front with
  | nil => rw [List.append_nil]
  | slash more ih =>
    rw [List.append_cons,ih,countedLast front List.not_mem_nil,if_pos (staysIff.mpr (.inl rfl))]
  | dot more ih =>
    have one : marks.slash ∉ [marks.dot] := by simpa using apart
    have split : ∀ rest, front ++ marks.slash :: marks.dot :: rest =
        (front ++ [marks.slash,marks.dot]) ++ rest := by simp
    rw [split,ih,countedLast front one,if_pos (staysIff.mpr (.inr rfl))]

theorem countedAt (apart : marks.slash ≠ marks.dot) (located : Located marks path name)
    (plain : marks.slash ∉ name) (counts : stays marks name = false) :
    ∃ others, counted marks path = name :: others := by
  obtain ⟨before,after,rfl,edge,trailing⟩ := located
  rw [countedTrailing apart trailing]
  rcases edge with rfl | ⟨front,rfl⟩
  · exact ⟨[],by simp [countedPlain plain,counts]⟩
  · exact ⟨_,by rw [List.append_assoc,List.singleton_append,countedLast front plain,counts]; rfl⟩

theorem lastCounted (marks : Marks α) (path : List α) : counted marks path = [] ∨
    ∃ name, Located marks path name ∧ marks.slash ∉ name ∧ stays marks name = false := by
  induction path using lastInduct marks.slash with
  | plain path plain =>
    cases stay : stays marks path with
    | true => exact .inl (by rw [countedPlain plain,if_pos stay])
    | false => exact .inr ⟨path,⟨[],[],by simp,.inl rfl,.nil⟩,plain,stay⟩
  | cut front last plain ih =>
    cases stay : stays marks last with
    | false =>
      exact .inr ⟨last,⟨front ++ [marks.slash],[],by simp,.inr ⟨front,rfl⟩,.nil⟩,plain,stay⟩
    | true =>
      have tail : Trailing marks (marks.slash :: last) := by
        rcases staysIff.mp stay with rfl | rfl
        · exact .slash .nil
        · exact .dot .nil
      rcases ih with uncounted | ⟨name,located,rest⟩
      · exact .inl (by rw [countedLast front plain,if_pos stay,uncounted])
      · exact .inr ⟨name,located.followed tail,rest⟩

end Counted

theorem bytesApart : byteMarks.slash ≠ byteMarks.dot := by decide

theorem charsApart : charMarks.slash ≠ charMarks.dot := by decide

section Readers
variable {marks : Marks α} {path name extension : List α} (apart : marks.slash ≠ marks.dot)

theorem fileNameCounted : fileName? marks path = match counted marks path with
    | [] => none
    | name :: _ => if name = [marks.dot,marks.dot] then none else some name := rfl

include apart

theorem fileNameIff : fileName? marks path = some name ↔ Names marks path name := by
  rw [fileNameCounted]
  constructor
  · intro named
    rcases lastCounted marks path with nothing | ⟨last,located,plain,counts⟩
    · rw [nothing] at named
      cases named
    · obtain ⟨others,found⟩ := countedAt apart located plain counts
      rw [found] at named
      simp only at named
      split at named
      · cases named
      · rename_i noDots
        cases named
        have real := mt staysIff.mpr (Bool.eq_false_iff.mp counts)
        exact ⟨located,fun nothing => real (.inl nothing),plain,fun dot => real (.inr dot),noDots⟩
  · intro names
    have counts : stays marks name = false := Bool.eq_false_iff.mpr fun stay =>
      (staysIff.mp stay).elim names.nonempty names.noDot
    obtain ⟨others,found⟩ := countedAt apart names.located names.plain counts
    rw [found]
    exact if_neg names.noDots

theorem namesOne {other : List α} (first : Names marks path name) (second : Names marks path other) :
    name = other :=
  Option.some.inj ((fileNameIff apart).mpr first ▸ (fileNameIff apart).mpr second)

omit apart [DecidableEq α] in
theorem Names.self (names : Names marks path name) : Names marks name name :=
  { names with located := ⟨[],[],by simp,.inl rfl,.nil⟩ }

theorem extensionCut {stem last : List α} (names : Names marks path (stem ++ marks.dot :: last))
    (plain : marks.dot ∉ last) : extension? marks path = if stem = [] then none else some last := by
  have cut : (pieces marks.dot (stem ++ marks.dot :: last)).reverse =
      last :: (pieces marks.dot stem).reverse := by
    rw [piecesAppend,piecesPlain plain,List.reverse_append]
    rfl
  rw [extension?,(fileNameIff apart).mpr names]
  simp only [cut]
  split
  · rename_i absent
    cases absent
  · rename_i one
    obtain ⟨first,others,pieced⟩ := piecesSome marks.dot stem
    simp [pieced] at one
  · rename_i two
    have alone : pieces marks.dot stem = [[]] := by simpa using (List.cons.inj two).2
    rw [if_pos (piecesEmpty.mp alone)]
  · rename_i after others _ more same
    obtain ⟨rfl,rfl⟩ := List.cons.inj same
    rw [if_neg fun empty => more (by rw [empty]; rfl)]

theorem extensionIff : extension? marks path = some extension ↔ Extends marks path extension := by
  constructor
  · intro found
    cases named : fileName? marks path with
    | none => simp [extension?,named] at found
    | some name =>
      have names := (fileNameIff apart).mp named
      rcases lastCut marks.dot name with plain | ⟨stem,last,rfl,plain⟩
      · simp [extension?,named,piecesPlain plain] at found
      · rw [extensionCut apart names plain] at found
        split at found
        · cases found
        · rename_i nonempty
          cases found
          exact ⟨_,stem,names,rfl,nonempty,plain⟩
  · rintro ⟨name,stem,names,rfl,nonempty,plain⟩
    rw [extensionCut apart names plain,if_neg nonempty]

theorem extensionOfName (names : Names marks path name) :
    extension? marks path = extension? marks name := by
  rw [extension?,extension?,(fileNameIff apart).mpr names,(fileNameIff apart).mpr names.self]

end Readers

structure Spelling {β : Type} (marks : Marks α) (marks' : Marks β) (spell : α → List β) : Prop where
  spelled : ∀ c, spell c ≠ []
  slash : spell marks.slash = [marks'.slash]
  dot : spell marks.dot = [marks'.dot]
  slashOnly : ∀ {c}, marks'.slash ∈ spell c → c = marks.slash
  dotOnly : ∀ {c}, marks'.dot ∈ spell c → c = marks.dot

section Spelling
variable {β : Type} [DecidableEq β] {marks : Marks α} {marks' : Marks β} {spell : α → List β}

theorem piecesSpelled {separator : α} {separator' : β} (own : spell separator = [separator'])
    (only : ∀ {c}, separator' ∈ spell c → c = separator) (xs : List α) :
    pieces separator' (xs.flatMap spell) = (pieces separator xs).map (·.flatMap spell) := by
  induction xs with
  | nil => rfl
  | cons c rest ih =>
    obtain ⟨first,others,cut⟩ := piecesSome separator rest
    by_cases same : c = separator
    · simp [piecesCons,same,own,ih]
    · rw [List.flatMap_cons,piecesBehind fun mem => same (only mem),ih,piecesCons,if_neg same,cut]
      simp

variable (spelling : Spelling marks marks' spell)
include spelling

omit [DecidableEq α] [DecidableEq β] in
theorem Spelling.none {xs : List α} : xs.flatMap spell = [] ↔ xs = [] := by
  rw [List.flatMap_eq_nil_iff]
  cases xs with
  | nil => simp
  | cons c rest => simp [spelling.spelled c]

omit [DecidableEq α] [DecidableEq β] in
theorem Spelling.dotFirst {xs : List α} {ys : List β} : xs.flatMap spell = marks'.dot :: ys ↔
    ∃ rest, xs = marks.dot :: rest ∧ rest.flatMap spell = ys := by
  constructor
  · intro spelled
    cases xs with
    | nil => cases spelled
    | cons c rest =>
      rw [List.flatMap_cons] at spelled
      obtain ⟨d,more,first⟩ := List.exists_cons_of_ne_nil (spelling.spelled c)
      have lead : d = marks'.dot := by
        rw [first] at spelled
        exact (List.cons.inj spelled).1
      have dot : c = marks.dot := spelling.dotOnly (by rw [first,lead]; exact List.mem_cons_self)
      subst dot
      rw [spelling.dot] at spelled
      exact ⟨rest,rfl,(List.cons.inj spelled).2⟩
  · rintro ⟨rest,rfl,rfl⟩
    rw [List.flatMap_cons,spelling.dot]
    rfl

theorem staysSpelled (component : List α) :
    stays marks' (component.flatMap spell) = stays marks component := by
  rw [Bool.eq_iff_iff,staysIff,staysIff,spelling.none,spelling.dotFirst]
  simp [spelling.none]

theorem fileNameSpelled (path : List α) :
    fileName? marks' (path.flatMap spell) = (fileName? marks path).map (·.flatMap spell) := by
  have same : counted marks' (path.flatMap spell) =
      (counted marks path).map (·.flatMap spell) := by
    rw [counted,piecesSpelled spelling.slash spelling.slashOnly,← List.map_reverse,List.dropWhile_map,
      counted]
    congr 2
    exact funext fun component => staysSpelled spelling component
  rw [fileNameCounted,fileNameCounted,same]
  cases counted marks path with
  | nil => rfl
  | cons name others =>
    have dots : name.flatMap spell = [marks'.dot,marks'.dot] ↔ name = [marks.dot,marks.dot] := by
      simp [spelling.dotFirst,spelling.none]
    simp only [List.map_cons,dots]
    split <;> rfl

theorem extensionSpelled (path : List α) :
    extension? marks' (path.flatMap spell) = (extension? marks path).map (·.flatMap spell) := by
  rw [extension?,extension?,fileNameSpelled spelling]
  cases fileName? marks path with
  | none => rfl
  | some name =>
    simp only [Option.map_some,piecesSpelled spelling.dot spelling.dotOnly,← List.map_reverse]
    generalize (pieces marks.dot name).reverse = parts
    rcases parts with _ | ⟨after,_ | ⟨stem,others⟩⟩
    · rfl
    · rfl
    -- two pieces with nothing before the dot are the one case that has no extension
    cases stem with
    | nil => cases others <;> rfl
    | cons c rest =>
      obtain ⟨d,more,first⟩ :=
        List.exists_cons_of_ne_nil (mt spelling.none.mp (List.cons_ne_nil c rest))
      simp only [List.map_cons,first,Option.map_some]

end Spelling
end Path
end SignedUpload

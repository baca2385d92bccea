import SignedUpload.Text.Blank
import SignedUpload.Text.Case
import Mathlib.Data.List.TakeWhile

/-! Spellings of one text: with blanks at its ends or without, and in either case of its ASCII letters.
A trimmed text is what is left between all the blanks at the ends, and lower case does not tell the case
of ASCII letters, in no surroundings of a sigma either. -/
namespace SignedUpload.Text

theorem trimBefore {before : List Char} (blank : before.all isBlank = true) (s : List Char) :
    trimChars (before ++ s) = trimChars s := by
  rw [trimChars,List.dropWhile_append_of_pos (List.all_eq_true.mp blank),trimChars]

theorem trimAfter {after : List Char} (blank : after.all isBlank = true) (s : List Char) :
    trimChars (s ++ after) = trimChars s := by
  have each := List.all_eq_true.mp blank
  have blanks : after.dropWhile isBlank = [] := List.dropWhile_eq_nil_iff.mpr each
  have back : ∀ c ∈ after.reverse, isBlank c = true := fun c mem => each c (List.mem_reverse.mp mem)
  rw [trimChars,List.dropWhile_append]
  split
  · rename_i empty
    rw [blanks,trimChars,List.isEmpty_iff.mp empty]
  · rw [List.reverse_append,List.dropWhile_append_of_pos back,trimChars]

theorem trimPadded {before after : String} (blank : Text.blank before = true)
    (blank' : Text.blank after = true) (s : String) : trim (before ++ s ++ after) = trim s := by
  simp only [trim,String.toList_append]
  rw [trimAfter blank',trimBefore blank]

def Bare (s : List Char) : Prop :=
  (∀ c ∈ s.head?, isBlank c = false) ∧ ∀ c ∈ s.getLast?, isBlank c = false

theorem dropBare {s : List Char} (bare : ∀ c ∈ s.head?, isBlank c = false) :
    s.dropWhile isBlank = s := by
  cases s with
  | nil => rfl
  | cons c rest => exact List.dropWhile_cons_of_neg (by simp [bare c rfl])

theorem trimBare {s : List Char} (bare : Bare s) : trimChars s = s := by
  rw [trimChars,dropBare bare.1,dropBare (by simpa using bare.2),List.reverse_reverse]

theorem trimShown {s : String} (shown : ∀ c ∈ s.toList, isBlank c = false) : trim s = s := by
  have bare : Bare s.toList := ⟨fun c head => shown c (List.mem_of_mem_head? head),
    fun c last => shown c (List.mem_of_mem_getLast? last)⟩
  rw [trim,trimBare bare,String.ofList_toList]

theorem headDropped (s : List Char) : ∀ c ∈ (s.dropWhile isBlank).head?, isBlank c = false := by
  intro c head
  have solid := List.head?_dropWhile_not isBlank s
  rw [Option.mem_def.mp head] at solid
  simpa using solid

theorem trimIff {s t : List Char} : trimChars s = t ↔ ∃ before after, s = before ++ t ++ after ∧
    before.all isBlank = true ∧ after.all isBlank = true ∧ Bare t := by
  constructor
  · rintro rfl
    have split : s.dropWhile isBlank =
        trimChars s ++ ((s.dropWhile isBlank).reverse.takeWhile isBlank).reverse := by
      rw [trimChars,← List.reverse_append,List.takeWhile_append_dropWhile,List.reverse_reverse]
    refine ⟨s.takeWhile isBlank,((s.dropWhile isBlank).reverse.takeWhile isBlank).reverse,?_,
      List.all_takeWhile,by rw [List.all_reverse]; exact List.all_takeWhile,fun c head => ?_,?_⟩
    · rw [List.append_assoc,← split,List.takeWhile_append_dropWhile]
    · refine headDropped s c ?_
      rw [split,List.head?_append,Option.mem_def.mp head]
      rfl
    · rw [trimChars,List.getLast?_reverse]
      exact headDropped _
  · rintro ⟨before,after,rfl,blank,blank',bare⟩
    rw [trimAfter blank',trimBefore blank,trimBare bare]

theorem asciiAbove {c : Char} (above : 0x80 ≤ c.toNat) : asciiLower c = c ∧ asciiUpper c = c := by
  constructor
  · refine if_neg fun between => ?_
    have low : c.toNat ≤ 'Z'.toNat := between.2
    exact absurd (Nat.le_trans above low) (by decide)
  · refine if_neg fun between => ?_
    have low : c.toNat ≤ 'z'.toNat := between.2
    exact absurd (Nat.le_trans above low) (by decide)

theorem asciiCases (c : Char) : (∃ n : Fin 0x80, c = Char.ofNat n) ∨ 0x80 ≤ c.toNat := by
  rcases Nat.lt_or_ge c.toNat 0x80 with below | above
  · exact .inl ⟨⟨c.toNat,below⟩,(Char.ofNat_toNat c).symm⟩
  · exact .inr above

theorem lowerOfUpper (c : Char) : asciiLower (asciiUpper c) = asciiLower c := by
  rcases asciiCases c with ⟨n,rfl⟩ | above
  · revert n
    decide
  · rw [(asciiAbove above).2]

theorem upperOfLower (c : Char) : asciiUpper (asciiLower c) = asciiUpper c := by
  rcases asciiCases c with ⟨n,rfl⟩ | above
  · revert n
    decide
  · rw [(asciiAbove above).1]

theorem capitalCases (c : Char) : (∃ n : Fin 26, c = Char.ofNat (65 + n)) ∨ asciiLower c = c := by
  by_cases capital : 'A' ≤ c ∧ c ≤ 'Z'
  · have low : 65 ≤ c.toNat := capital.1
    have high : c.toNat ≤ 90 := capital.2
    have back : 65 + (c.toNat - 65) = c.toNat := by omega
    exact .inl ⟨⟨c.toNat - 65,by omega⟩,by rw [back,Char.ofNat_toNat]⟩
  · exact .inr (if_neg capital)

theorem foldUnseen {α : Type} (look : Char → α)
    (capitals : ∀ n : Fin 26, look (asciiLower (Char.ofNat (65 + n))) = look (Char.ofNat (65 + n)))
    (c : Char) : look (asciiLower c) = look c := by
  rcases capitalCases c with ⟨n,rfl⟩ | small
  · exact capitals n
  · rw [small]

theorem markFold {mark c : Char}
    (capitals : ∀ n : Fin 26, decide (asciiLower (Char.ofNat (65 + n)) = mark) =
      decide (Char.ofNat (65 + n) = mark)) : asciiLower c = mark ↔ c = mark :=
  decide_eq_decide.mp (foldUnseen (fun c => decide (c = mark)) capitals c)

theorem blankFold (c : Char) : isBlank (asciiLower c) = isBlank c :=
  foldUnseen isBlank (by decide) c

theorem trimFold (s : List Char) : trimChars (s.map asciiLower) = (trimChars s).map asciiLower := by
  have unseen : isBlank ∘ asciiLower = isBlank := funext blankFold
  simp only [trimChars,List.dropWhile_map,← List.map_reverse,unseen]

theorem capitalCode : ∀ n : Fin 26, (Char.ofNat (65 + n)).toNat = 65 + n ∧
    (asciiLower (Char.ofNat (65 + n))).toNat = 97 + n := by
  decide

theorem ignorableLetters : ∀ r ∈ Case.ignorableRanges,
    (r.2 < 65 ∨ 90 < r.1) ∧ (r.2 < 97 ∨ 122 < r.1) := by
  decide +kernel

theorem ignorableFold (c : Char) : Case.within Case.ignorableRanges (asciiLower c).toNat =
    Case.within Case.ignorableRanges c.toNat := by
  refine foldUnseen (fun c => Case.within Case.ignorableRanges c.toNat) (fun n => ?_) c
  have outside : ∀ code, 65 ≤ code ∧ code ≤ 90 ∨ 97 ≤ code ∧ code ≤ 122 →
      Case.within Case.ignorableRanges code = false := by
    intro code letter
    refine List.any_eq_false.mpr fun r mem => ?_
    have clear := ignorableLetters r mem
    simp only [Bool.and_eq_true,decide_eq_true_eq]
    omega
  rw [outside _ (.inr (by rw [(capitalCode n).2]; omega)),
    outside _ (.inl (by rw [(capitalCode n).1]; omega))]

theorem casedFold (c : Char) : Case.within Case.casedRanges (asciiLower c).toNat =
    Case.within Case.casedRanges c.toNat :=
  foldUnseen (fun c => Case.within Case.casedRanges c.toNat) (by decide) c

theorem lowerFold (c : Char) : lowerChar (asciiLower c) = lowerChar c :=
  foldUnseen lowerChar (by decide) c

theorem sigmaFold (c : Char) : (asciiLower c = 'Σ') = (c = 'Σ') :=
  propext (markFold (by decide))

theorem metCasedFold (s : List Char) : metCased (s.map asciiLower) = metCased s := by
  have unseen : (fun c => Case.within Case.ignorableRanges c.toNat) ∘ asciiLower =
      fun c => Case.within Case.ignorableRanges c.toNat := funext ignorableFold
  rw [metCased,metCased,List.dropWhile_map,unseen]
  cases s.dropWhile fun c => Case.within Case.ignorableRanges c.toNat with
  | nil => rfl
  | cons c rest => exact casedFold c

theorem lowerFromFold (seen s : List Char) :
    lowerFrom (seen.map asciiLower) (s.map asciiLower) = lowerFrom seen s := by
  induction s generalizing seen with
  | nil => rfl
  | cons c rest ih =>
    have next := ih (c :: seen)
    simp only [List.map_cons] at next
    simp only [List.map_cons,lowerFrom,next,sigmaFold,metCasedFold,lowerFold]

theorem lowerCharsFold (s : List Char) : lowerChars (s.map asciiLower) = lowerChars s :=
  lowerFromFold [] s

theorem lowerFolded {s t : List Char} (same : s.map asciiLower = t.map asciiLower) :
    lowerChars s = lowerChars t := by
  rw [← lowerCharsFold s,same,lowerCharsFold]

def blankCodes : List Nat := [9,10,11,12,13,0x20,0x85,0xA0,0x1680,0x2000,0x2001,0x2002,0x2003,0x2004,
  0x2005,0x2006,0x2007,0x2008,0x2009,0x200A,0x2028,0x2029,0x202F,0x205F,0x3000]

theorem blankCoded {c : Char} (blank : isBlank c = true) : c.toNat ∈ blankCodes := by
  simp only [isBlank,Bool.or_eq_true,Bool.and_eq_true,decide_eq_true_eq,beq_iff_eq] at blank
  simp only [blankCodes,List.mem_cons,List.not_mem_nil,or_false]
  omega

theorem blankEach {motive : Char → Prop} (each : ∀ n ∈ blankCodes, motive (Char.ofNat n)) {c : Char}
    (blank : isBlank c = true) : motive c := by
  have its := each _ (blankCoded blank)
  rwa [Char.ofNat_toNat] at its

theorem blankLowered {c : Char} (blank : isBlank c = true) : lowerChar c = [c] :=
  blankEach (motive := fun c => lowerChar c = [c]) (by decide +kernel) blank

theorem lowerBlanks {s : List Char} (blank : s.all isBlank = true) (seen : List Char) :
    lowerFrom seen s = s := by
  induction s generalizing seen with
  | nil => rfl
  | cons c s ih =>
    obtain ⟨first,rest⟩ := Bool.and_eq_true_iff.mp blank
    have other : c ≠ 'Σ' := by
      rintro rfl
      cases first
    simp only [lowerFrom,if_neg other,blankLowered first,ih rest,List.singleton_append]

theorem blankWord {s word : String} (blank : Text.blank s = true) (shown : Text.blank word = false) :
    lower s ≠ word ∧ s ≠ word := by
  have same : lower s = s := by
    rw [lower,lowerChars,lowerBlanks blank,String.ofList_toList]
  rw [same,and_self]
  rintro rfl
  rw [blank] at shown
  cases shown

end SignedUpload.Text

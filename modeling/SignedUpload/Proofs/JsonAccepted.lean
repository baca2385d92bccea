import SignedUpload.Proofs.JsonText

/-! What the JSON readers take is a text of the grammar: strings and objects of strings are read only where
they are spelled. -/
namespace SignedUpload.Json

section Blanks
variable {s rest : List Char} {c : Char}

theorem skipGap (s : List Char) : Gap s (skipBlanks s) := by
  induction s with
  | nil => exact .none _
  | cons c s ih =>
    cases blank : isBlank c with
    | true =>
      rw [skipBlanks,List.dropWhile_cons_of_pos blank]
      exact .blank blank ih
    | false =>
      rw [skipBlanks,List.dropWhile_cons_of_neg (by simp [blank])]
      exact .none _

theorem skipped (skip : skipBlanks s = rest) : Gap s rest := skip ▸ skipGap s

theorem colonSpelled (read : colon s = .ok rest) : Gap s (':' :: rest) := by
  unfold colon at read
  split at read <;> cases read
  exact skipped ‹_›

theorem closeSpelled (read : closeObject s = .ok rest) : Gap s ('}' :: rest) := by
  unfold closeObject at read
  split at read <;> cases read
  exact skipped ‹_›

theorem expectSpelled (read : expect c s = .ok rest) : s = c :: rest := by
  cases s with
  | nil => cases read
  | cons d s =>
    rw [expect] at read
    split at read
    case isTrue same =>
      cases read
      rw [same]
    · cases read

end Blanks

section Strings
variable {s rest : List Char} {c : Char}

theorem hexFourSpelled {n : Nat} (read : hexFour s = .ok (n,rest)) :
    ∃ a b c d, s = a :: b :: c :: d :: rest ∧ hexOf? a b c d = some n := by
  unfold hexFour at read
  split at read
  · rename_i a b c d rest
    split at read
    · rename_i w x y z first second third fourth
      cases read
      exact ⟨a,b,c,d,rfl,by simp only [hexOf?,first,second,third,fourth]⟩
    · cases read
  · cases read

theorem unicodeSpelled (read : unicodeEscape s = .ok (c,rest)) : Letter ('\\' :: 'u' :: s) c rest := by
  simp only [unicodeEscape,bind,Except.bind] at read
  split at read
  · cases read
  rename_i first high
  obtain ⟨n,behind⟩ := first
  obtain ⟨_,_,_,_,rfl,digits⟩ := hexFourSpelled high
  dsimp only at read
  split at read
  · cases read
  rename_i leads
  split at read
  · rename_i whole
    cases read
    exact .numbered digits (by omega)
  rename_i half
  split at read
  · cases read
  rename_i slash
  split at read
  · cases read
  rename_i letter
  split at read
  · cases read
  rename_i second low
  obtain ⟨n',behind'⟩ := second
  obtain rfl := expectSpelled slash
  obtain rfl := expectSpelled letter
  obtain ⟨_,_,_,_,rfl,digits'⟩ := hexFourSpelled low
  dsimp only at read
  split at read
  · cases read
  rename_i follows
  obtain ⟨rfl,rfl⟩ := Prod.mk.inj (Except.ok.inj read)
  exact .halves digits digits' (by omega) (by omega)

theorem escapeSpelled (read : escape s = .ok (c,rest)) : Letter ('\\' :: s) c rest := by
  unfold escape at read
  split at read
  · cases read
  · exact unicodeSpelled read
  · split at read
    · rename_i means
      cases read
      exact .short means
    · cases read

theorem lettersSpelled {fuel : Nat} {seen : List Char} {v : String}
    (read : stringFrom fuel seen s = .ok (v,rest)) :
    ∃ cs, Letters s cs rest ∧ v = String.ofList (seen.reverse ++ cs) := by
  -- on the characters left to read, with any that were read before
  induction fuel generalizing seen s with
  | zero => cases read
  | succ fuel ih =>
    have onward : ∀ {c t}, Letter s c t → stringFrom fuel (c :: seen) t = .ok (v,rest) →
        ∃ cs, Letters s cs rest ∧ v = String.ofList (seen.reverse ++ cs) := by
      intro c t letter read
      obtain ⟨cs,more,same⟩ := ih read
      refine ⟨c :: cs,.letter letter more,?_⟩
      rw [same,List.reverse_cons,List.append_assoc,List.singleton_append]
    cases s with
    | nil => cases read
    | cons c s =>
      by_cases quote : c = '"'
      · subst quote
        cases read
        exact ⟨[],.close,by rw [List.append_nil]⟩
      by_cases slash : c = '\\'
      · subst slash
        simp only [stringFrom] at read
        split at read
        · cases read
        · exact onward (escapeSpelled ‹_›) read
      · simp only [stringFrom] at read
        split at read
        · cases read
        · rename_i control
          exact onward (.plain quote slash (Nat.not_lt.mp control)) read

theorem bodySpelled {v : String} (read : stringBody s = .ok (v,rest)) : Letters s v.toList rest := by
  obtain ⟨cs,letters,rfl⟩ := lettersSpelled read
  rwa [List.reverse_nil,List.nil_append,String.toList_ofList]

theorem textSpelled {v : String} (read : text s = .ok (v,rest)) : SpellsText v s rest := by
  unfold text at read
  split at read
  · exact ⟨_,skipped ‹_›,bodySpelled read⟩
  · cases read

end Strings

section Objects
variable {first : Bool} {s rest : List Char}

theorem namedSpelled {name : String} {body : List Char}
    (read : (stringBody body).map some = .ok (some (name,rest))) : Letters body name.toList rest := by
  cases named : stringBody body with
  | error fault =>
    rw [named] at read
    cases read
  | ok found =>
    rw [named] at read
    cases read
    exact bodySpelled named

theorem keySpelled {name : String} (read : nextKey first s = .ok (some (name,rest))) :
    ∃ body, Before first s ('"' :: body) ∧ Letters body name.toList rest := by
  unfold nextKey at read
  split at read
  · cases read
  · cases read
  · rename_i quote
    cases first with
    | true => exact ⟨_,.first (skipped quote),namedSpelled read⟩
    | false => cases read
  · rename_i comma
    cases first with
    | true => cases read
    | false =>
      simp only [Bool.false_eq_true,if_false] at read
      split at read
      · cases read
      · exact ⟨_,.next (skipped comma) (skipped ‹_›),namedSpelled read⟩
      · cases read
  · cases read

theorem entriesSpelled {fuel : Nat} {seen m : TextMap} {last : List Char}
    (read : entriesFrom fuel first seen s = .ok (m,last)) (close : closeObject last = .ok rest) :
    ∃ entries, entries.foldl (fun m e => m.insert e.1 e.2) seen = m ∧
      Members Prod.fst (fun e : String × String => SpellsText e.2) first s entries rest := by
  -- on the members left to read; what closes the object stays where the last of them left it
  induction fuel generalizing first seen s with
  | zero => cases read
  | succ fuel ih =>
    unfold entriesFrom at read
    split at read
    · cases read
    · cases read
      exact ⟨[],rfl,.close (closeSpelled close)⟩
    rename_i name behind found
    split at read
    · cases read
    rename_i sign
    split at read
    · cases read
    rename_i v behind' its
    obtain ⟨entries,same,more⟩ := ih read
    obtain ⟨body,before,named⟩ := keySpelled found
    exact ⟨(name,v) :: entries,same,.member before named (colonSpelled sign) (textSpelled its) more⟩

theorem mapSpelled {m : TextMap} (read : textMap s = .ok (m,rest)) : SpellsMap m s rest := by
  unfold textMap at read
  split at read
  · simp only [bind,Except.bind] at read
    split at read
    · cases read
    rename_i found
    split at read
    · cases read
    rename_i close
    cases read
    obtain ⟨entries,same,members⟩ := entriesSpelled found close
    exact ⟨entries,same,_,skipped ‹_›,members⟩
  · cases read

theorem mapIff {text : String} {m : TextMap} : whole textMap text = .ok m ↔
    ∃ rest, SpellsMap m text.toList rest ∧ Gap rest [] := by
  constructor
  · intro read
    unfold whole at read
    split at read
    · cases read
    rename_i front
    split at read
    · rename_i blank
      cases read
      exact ⟨_,mapSpelled front,skipped blank⟩
    · cases read
  · rintro ⟨rest,spells,gap⟩
    exact wholeRead (mapRead spells) gap

end Objects
end SignedUpload.Json

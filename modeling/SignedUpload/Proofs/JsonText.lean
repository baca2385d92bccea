import SignedUpload.Json.Record

/-! What a JSON text spells. The grammar stands apart from the readers: it relates a text to a value
and to what of the text is left. The readers take every spelling, however it is blanked, escaped and
ordered. Only what options are written with is covered: strings, flags, natural numbers and
objects. -/
namespace SignedUpload.Json

open Decimal (isDigit digitValue ofDigits)
open Text (hexValue?)

inductive Gap : List Char → List Char → Prop where
  | none (s) : Gap s s
  | blank {c s rest} (blank : isBlank c = true) (more : Gap s rest) : Gap (c :: s) rest

theorem Gap.skip {s rest : List Char} (gap : Gap s rest) : skipBlanks s = skipBlanks rest := by
  induction gap with
  | none s => rfl
  | blank blank more ih => rw [← ih,skipBlanks,List.dropWhile_cons_of_pos blank,skipBlanks]

theorem Gap.token {s rest : List Char} {c : Char} (gap : Gap s (c :: rest))
    (solid : isBlank c = false) : skipBlanks s = c :: rest := by
  rw [gap.skip,skipBlanks,List.dropWhile_cons_of_neg (by simp [solid])]

theorem Gap.length {s rest : List Char} (gap : Gap s rest) : rest.length ≤ s.length := by
  induction gap with
  | none s => exact Nat.le_refl _
  | blank blank more ih => exact Nat.le_succ_of_le ih

theorem Gap.holds {s rest : List Char} (gap : Gap s rest) : ∀ c ∈ rest, c ∈ s := by
  induction gap with
  | none s => exact fun _ mem => mem
  | blank blank more ih => exact fun c mem => List.mem_cons_of_mem _ (ih c mem)

def hexOf? (a b c d : Char) : Option Nat :=
  match hexValue? a,hexValue? b,hexValue? c,hexValue? d with
  | some w,some x,some y,some z => some (((w * 16 + x) * 16 + y) * 16 + z)
  | _,_,_,_ => none

inductive Letter : List Char → Char → List Char → Prop where
  | plain {c rest} (quote : c ≠ '"') (slash : c ≠ '\\') (printed : 0x20 ≤ c.toNat) :
      Letter (c :: rest) c rest
  | short {c d rest} (means : shortEscape? c = some d) : Letter ('\\' :: c :: rest) d rest
  | numbered {a b c d n rest} (digits : hexOf? a b c d = some n) (whole : n < 0xD800 ∨ 0xDFFF < n) :
      Letter ('\\' :: 'u' :: a :: b :: c :: d :: rest) (Char.ofNat n) rest
  | halves {a b c d a' b' c' d' high low rest} (digits : hexOf? a b c d = some high)
      (digits' : hexOf? a' b' c' d' = some low) (first : 0xD800 ≤ high ∧ high ≤ 0xDBFF)
      (second : 0xDC00 ≤ low ∧ low ≤ 0xDFFF) :
      Letter ('\\' :: 'u' :: a :: b :: c :: d :: '\\' :: 'u' :: a' :: b' :: c' :: d' :: rest)
        (Char.ofNat ((high - 0xD800) * 0x400 + (low - 0xDC00) + 0x10000)) rest

inductive Letters : List Char → List Char → List Char → Prop where
  | close {rest} : Letters ('"' :: rest) [] rest
  | letter {s c t cs rest} (first : Letter s c t) (more : Letters t cs rest) :
      Letters s (c :: cs) rest

theorem hexFourOf {a b c d : Char} {n : Nat} (digits : hexOf? a b c d = some n)
    (rest : List Char) : hexFour (a :: b :: c :: d :: rest) = .ok (n,rest) := by
  unfold hexOf? at digits
  split at digits
  · rename_i w x y z first second third fourth
    cases digits
    simp only [hexFour,first,second,third,fourth]
  · cases digits

theorem numberedRead {a b c d : Char} {n : Nat} (digits : hexOf? a b c d = some n)
    (whole : n < 0xD800 ∨ 0xDFFF < n) (rest : List Char) :
    unicodeEscape (a :: b :: c :: d :: rest) = .ok (Char.ofNat n,rest) := by
  have alone : ¬ (0xDC00 ≤ n ∧ n ≤ 0xDFFF) := by omega
  have outside : n < 0xD800 ∨ 0xDBFF < n := by omega
  simp only [unicodeEscape,hexFourOf digits,bind,Except.bind,if_neg alone,if_pos outside]

theorem halvesRead {a b c d a' b' c' d' : Char} {high low : Nat}
    (digits : hexOf? a b c d = some high) (digits' : hexOf? a' b' c' d' = some low)
    (first : 0xD800 ≤ high ∧ high ≤ 0xDBFF) (second : 0xDC00 ≤ low ∧ low ≤ 0xDFFF)
    (rest : List Char) :
    unicodeEscape (a :: b :: c :: d :: '\\' :: 'u' :: a' :: b' :: c' :: d' :: rest) =
      .ok (Char.ofNat ((high - 0xD800) * 0x400 + (low - 0xDC00) + 0x10000),rest) := by
  have leads : ¬ (0xDC00 ≤ high ∧ high ≤ 0xDFFF) := by omega
  have inside : ¬ (high < 0xD800 ∨ 0xDBFF < high) := by omega
  have follows : ¬ (low < 0xDC00 ∨ 0xDFFF < low) := by omega
  simp only [unicodeEscape,hexFourOf digits,hexFourOf digits',expect,bind,Except.bind,if_neg leads,
    if_neg inside,if_neg follows,if_true]

theorem letterRead {s rest : List Char} {c : Char} (letter : Letter s c rest) (fuel : Nat)
    (seen : List Char) : stringFrom (fuel + 1) seen s = stringFrom fuel (c :: seen) rest := by
  cases letter with
  | plain quote slash printed => simp [stringFrom,Nat.not_lt.mpr printed]
  | @short x d _ means =>
    have other : x ≠ 'u' := by
      rintro rfl
      cases means
    simp [stringFrom,escape,means]
  | numbered digits whole => simp only [stringFrom,escape,numberedRead digits whole]
  | halves digits digits' first second =>
    simp only [stringFrom,escape,halvesRead digits digits' first second]

theorem Letter.length {s rest : List Char} {c : Char} (letter : Letter s c rest) :
    rest.length < s.length := by
  cases letter <;> simp only [List.length_cons] <;> omega

theorem Letters.length {s cs rest : List Char} (letters : Letters s cs rest) :
    cs.length + rest.length < s.length := by
  induction letters with
  | close => simp
  | letter first more ih =>
    have shorter := first.length
    rw [List.length_cons]
    omega

theorem lettersRead {s cs rest : List Char} (letters : Letters s cs rest) {fuel : Nat}
    (enough : cs.length < fuel) (seen : List Char) :
    stringFrom fuel seen s = .ok (String.ofList (seen.reverse ++ cs),rest) := by
  induction letters generalizing fuel seen with
  | close =>
    obtain ⟨fuel,rfl⟩ := Nat.exists_eq_succ_of_ne_zero (Nat.ne_of_gt enough)
    simp [stringFrom]
  | @letter s c t cs rest first more ih =>
    obtain ⟨fuel,rfl⟩ := Nat.exists_eq_succ_of_ne_zero (Nat.ne_of_gt (Nat.zero_lt_of_lt enough))
    rw [letterRead first,ih (Nat.lt_of_succ_lt_succ enough)]
    simp

theorem bodyRead {s rest : List Char} {v : String} (letters : Letters s v.toList rest) :
    stringBody s = .ok (v,rest) := by
  have length := letters.length
  rw [stringBody,lettersRead letters (by omega)]
  simp

def SpellsText (v : String) (s rest : List Char) : Prop :=
  ∃ body, Gap s ('"' :: body) ∧ Letters body v.toList rest

theorem textRead {v : String} {s rest : List Char} (spells : SpellsText v s rest) :
    text s = .ok (v,rest) := by
  obtain ⟨body,gap,letters⟩ := spells
  simp only [text,gap.token (c := '"') rfl,bodyRead letters]

theorem optionalRead {v : String} {s rest : List Char} (spells : SpellsText v s rest) :
    optional text s = .ok (some v,rest) := by
  obtain ⟨body,gap,letters⟩ := spells
  have again : text ('"' :: body) = .ok (v,rest) := textRead ⟨body,.none _,letters⟩
  simp [optional,gap.token (c := '"') rfl,again,Except.map]

theorem SpellsText.length {v : String} {s rest : List Char} (spells : SpellsText v s rest) :
    rest.length ≤ s.length := by
  obtain ⟨body,gap,letters⟩ := spells
  have before := gap.length
  have after := letters.length
  rw [List.length_cons] at before
  omega

def SpellsFlag (b : Bool) (s rest : List Char) : Prop :=
  Gap s ((if b then ['t','r','u','e'] else ['f','a','l','s','e']) ++ rest)

theorem flagRead {b : Bool} {s rest : List Char} (spells : SpellsFlag b s rest) :
    flag s = .ok (b,rest) := by
  cases b with
  | true => simp [flag,Gap.token (c := 't') spells rfl,word,Except.map]
  | false => simp [flag,Gap.token (c := 'f') spells rfl,word,Except.map]

theorem SpellsFlag.length {b : Bool} {s rest : List Char} (spells : SpellsFlag b s rest) :
    rest.length ≤ s.length := by
  have before := Gap.length spells
  rw [List.length_append] at before
  omega

def Ends (rest : List Char) : Prop :=
  ∀ c ∈ rest.head?, isDigit c = false ∧ c ≠ '.' ∧ isExponentMark c = false

def SpellsNatural (n : Nat) (s rest : List Char) : Prop :=
  ∃ d ds, Gap s (d :: ds ++ rest) ∧ isDigit d = true ∧ ds.all isDigit = true ∧
    (d = '0' → ds = []) ∧ ofDigits (d :: ds) = n ∧ Ends rest

theorem foldGrows (ds : List Char) (n : Nat) :
    n ≤ ds.foldl (fun n c => n * 10 + digitValue c) n := by
  induction ds generalizing n with
  | nil => exact Nat.le_refl _
  | cons c ds ih =>
    have first : n ≤ n * 10 + digitValue c := by omega
    exact Nat.le_trans first (ih _)

theorem fittingAll {ds rest : List Char} (digits : ds.all isDigit = true) (ends : Ends rest)
    {n : Nat} (fits : ds.foldl (fun n c => n * 10 + digitValue c) n < Decimal.unsignedBound)
    (count : Nat) : fitting n count (ds ++ rest) =
      (ds.foldl (fun n c => n * 10 + digitValue c) n,count + ds.length,rest) := by
  induction ds generalizing n count with
  | nil =>
    cases rest with
    | nil => rfl
    | cons c rest =>
      have other := (ends c rfl).1
      simp [fitting,other]
  | cons c ds ih =>
    obtain ⟨digit,digits⟩ : isDigit c = true ∧ ds.all isDigit = true := by simpa using digits
    have next := Nat.lt_of_le_of_lt (foldGrows ds (n * 10 + digitValue c)) fits
    rw [List.cons_append,fitting,if_pos ⟨digit,next⟩,ih digits fits,List.length_cons]
    simp only [List.foldl_cons,Nat.add_assoc,Nat.add_comm 1]

theorem afterDigits {rest : List Char} (ends : Ends rest) (n : Nat) :
    afterWhole false n 0 rest = .ok (.integer n,rest) := by
  cases rest with
  | nil => rfl
  | cons c rest =>
    obtain ⟨-,point,mark⟩ := ends c rfl
    simp [afterWhole,point,mark,wholeNumber]

theorem endsDigits {rest : List Char} (ends : Ends rest) :
    rest.takeWhile isDigit = [] ∧ rest.dropWhile isDigit = rest ∧ startsWithDigit rest = false := by
  cases rest with
  | nil => exact ⟨rfl,rfl,rfl⟩
  | cons c rest =>
    have other := (ends c rfl).1
    exact ⟨List.takeWhile_cons_of_neg (by simp [other]),
      List.dropWhile_cons_of_neg (by simp [other]),other⟩

theorem numberRead {d : Char} {ds rest : List Char} (digit : isDigit d = true)
    (digits : ds.all isDigit = true) (lead : d = '0' → ds = []) (ends : Ends rest)
    (fits : ofDigits (d :: ds) < Decimal.unsignedBound) :
    number (d :: ds ++ rest) = .ok (.integer (ofDigits (d :: ds)),rest) := by
  obtain ⟨taken,dropped,starts⟩ := endsDigits ends
  have unsigned : d ≠ '-' := by
    rintro rfl
    cases digit
  have body : number (d :: ds ++ rest) = numberBody false (d :: ds ++ rest) := by
    simp [number,unsigned]
  rw [body,List.cons_append,numberBody]
  split
  · rename_i zero
    obtain rfl := lead zero
    subst zero
    simp only [List.nil_append,starts,Bool.false_eq_true,if_false]
    exact afterDigits ends 0
  · have all : (d :: ds).all isDigit = true := by simp [digit,digits]
    have fitted := fittingAll all ends (n := 0) fits 0
    rw [List.cons_append] at fitted
    simp only [fitted,taken,dropped]
    exact afterDigits ends _

theorem digitSolid {c : Char} (digit : isDigit c = true) : isBlank c = false := by
  cases blank : isBlank c with
  | false => rfl
  | true =>
    simp only [isBlank,Bool.or_eq_true,beq_iff_eq] at blank
    rcases blank with ((rfl | rfl) | rfl) | rfl <;> cases digit

theorem naturalRead {n : Nat} {s rest : List Char} (spells : SpellsNatural n s rest)
    (fits : n < Decimal.unsignedBound) : natural Decimal.unsignedBound s = .ok (n,rest) := by
  obtain ⟨d,ds,gap,digit,digits,lead,rfl,ends⟩ := spells
  have solid := digitSolid digit
  have read := numberRead digit digits lead ends fits
  rw [List.cons_append] at gap read
  simp only [natural,gap.token solid,digit,or_true,if_true,read]
  simp [fits]

theorem SpellsNatural.length {n : Nat} {s rest : List Char} (spells : SpellsNatural n s rest) :
    rest.length ≤ s.length := by
  obtain ⟨d,ds,gap,-⟩ := spells
  have before := gap.length
  rw [List.length_append] at before
  omega

inductive Before : Bool → List Char → List Char → Prop where
  | first {s rest} (gap : Gap s rest) : Before true s rest
  | next {s t rest} (comma : Gap s (',' :: t)) (gap : Gap t rest) : Before false s rest

section Members
variable {β : Type} (key : β → String) (item : β → List Char → List Char → Prop)

inductive Members : Bool → List Char → List β → List Char → Prop where
  | close {first s rest} (gap : Gap s ('}' :: rest)) : Members first s [] rest
  | member {first s s₁ s₂ s₃ s₄ b bs rest} (before : Before first s ('"' :: s₁))
      (named : Letters s₁ (key b).toList s₂) (colon : Gap s₂ (':' :: s₃)) (its : item b s₃ s₄)
      (more : Members false s₄ bs rest) : Members first s (b :: bs) rest

def SpellsObject (bs : List β) (s rest : List Char) : Prop :=
  ∃ inner, Gap s ('{' :: inner) ∧ Members key item true inner bs rest

end Members

theorem nextKeyClose {s rest : List Char} (gap : Gap s ('}' :: rest)) (first : Bool) :
    nextKey first s = .ok none ∧ closeObject s = .ok rest := by
  have token := gap.token rfl
  simp [nextKey,closeObject,token]

theorem nextKeyMember {first : Bool} {s s₁ s₂ : List Char} {name : String}
    (before : Before first s ('"' :: s₁)) (named : Letters s₁ name.toList s₂) :
    nextKey first s = .ok (some (name,s₂)) := by
  cases before with
  | first gap => simp [nextKey,gap.token rfl,bodyRead named,Except.map]
  | next comma gap => simp [nextKey,comma.token rfl,gap.token rfl,bodyRead named,Except.map]

theorem colonRead {s rest : List Char} (gap : Gap s (':' :: rest)) : colon s = .ok rest := by
  simp only [colon,gap.token (c := ':') rfl]

theorem Before.length {first : Bool} {s rest : List Char} (before : Before first s rest) :
    rest.length ≤ s.length := by
  cases before with
  | first gap => exact gap.length
  | next comma gap =>
    have outer := comma.length
    have inner := gap.length
    rw [List.length_cons] at outer
    omega

section Members
variable {β : Type} {key : β → String} {item : β → List Char → List Char → Prop}
  (shorter : ∀ ⦃b s rest⦄, item b s rest → rest.length ≤ s.length)
include shorter

theorem Members.length {first : Bool} {s rest : List Char} {bs : List β}
    (members : Members key item first s bs rest) : bs.length + rest.length < s.length := by
  induction members with
  | close gap =>
    have brace := gap.length
    simpa [Nat.succ_le_iff] using brace
  | member before named colon its more ih =>
    have outer := before.length
    have body := named.length
    have sign := colon.length
    have value := shorter its
    simp only [List.length_cons] at outer sign ⊢
    omega

theorem SpellsObject.length {bs : List β} {s rest : List Char}
    (spells : SpellsObject key item bs s rest) : rest.length ≤ s.length := by
  obtain ⟨inner,gap,members⟩ := spells
  have outer := gap.length
  have inside := members.length shorter
  rw [List.length_cons] at outer
  omega

end Members

theorem entriesRead {first : Bool} {s rest : List Char} {entries : List (String × String)}
    (members : Members Prod.fst (fun e => SpellsText e.2) first s entries rest) {fuel : Nat}
    (enough : entries.length < fuel) (seen : TextMap) :
    ∃ last, entriesFrom fuel first seen s =
        .ok (entries.foldl (fun m e => m.insert e.1 e.2) seen,last) ∧
      closeObject last = .ok rest := by
  induction members generalizing fuel seen with
  | @close first s rest gap =>
    obtain ⟨fuel,rfl⟩ := Nat.exists_eq_succ_of_ne_zero (Nat.ne_of_gt enough)
    obtain ⟨ended,closed⟩ := nextKeyClose gap first
    exact ⟨s,by simp only [entriesFrom,ended,List.foldl_nil],closed⟩
  | @member first s _ _ _ _ e entries rest before named colon its more ih =>
    obtain ⟨fuel,rfl⟩ := Nat.exists_eq_succ_of_ne_zero (Nat.ne_of_gt (Nat.zero_lt_of_lt enough))
    obtain ⟨last,read,closed⟩ := ih (Nat.lt_of_succ_lt_succ enough) (seen.insert e.1 e.2)
    refine ⟨last,?_,closed⟩
    rw [entriesFrom]
    simp only [nextKeyMember before named,colonRead colon,textRead its,read,List.foldl_cons]

def SpellsMap (m : TextMap) (s rest : List Char) : Prop :=
  ∃ entries, TextMap.ofList entries = m ∧
    SpellsObject Prod.fst (fun e : String × String => SpellsText e.2) entries s rest

theorem mapRead {m : TextMap} {s rest : List Char} (spells : SpellsMap m s rest) :
    textMap s = .ok (m,rest) := by
  obtain ⟨entries,rfl,inner,gap,members⟩ := spells
  have length := members.length fun _ _ _ its => its.length
  have enough : entries.length < inner.length + 1 := by omega
  obtain ⟨last,read,closed⟩ := entriesRead members enough TextMap.empty
  simp only [textMap,gap.token (c := '{') rfl,read,bind,Except.bind,closed]
  rfl

section Record
variable {σ β : Type} {fields : List (RecordField σ)} {key : β → String}
  {item : β → List Char → List Char → Prop} {put : σ → β → σ}
  (shorter : ∀ ⦃b s rest⦄, item b s rest → rest.length ≤ s.length)
  (reads : ∀ ⦃b s rest⦄, item b s rest → ∃ field, fields.find? (·.key == key b) = some field ∧
    ∀ record, field.read record s = .ok (put record b,rest))

include reads in
theorem fieldsRead {first : Bool} {s rest : List Char} {bs : List β}
    (members : Members key item first s bs rest) (distinct : (bs.map key).Nodup) {fuel : Nat}
    (enough : bs.length < fuel) {seen : List String} (fresh : ∀ b ∈ bs, key b ∉ seen) (record : σ) :
    ∃ keys last, fieldsByKey fields fuel first seen record s =
        .ok ((bs.foldl put record,keys),last) ∧ closeObject last = .ok rest := by
  induction members generalizing fuel seen record with
  | @close first s rest gap =>
    obtain ⟨fuel,rfl⟩ := Nat.exists_eq_succ_of_ne_zero (Nat.ne_of_gt enough)
    obtain ⟨ended,closed⟩ := nextKeyClose gap first
    exact ⟨seen,s,by simp only [fieldsByKey,ended,List.foldl_nil],closed⟩
  | @member first s _ _ _ _ b bs rest before named colon its more ih =>
    obtain ⟨fuel,rfl⟩ := Nat.exists_eq_succ_of_ne_zero (Nat.ne_of_gt (Nat.zero_lt_of_lt enough))
    obtain ⟨apart,distinct⟩ := List.nodup_cons.mp distinct
    obtain ⟨field,found,read⟩ := reads its
    have later : ∀ b' ∈ bs, key b' ∉ key b :: seen := by
      intro b' mem old
      rcases List.mem_cons.mp old with same | old
      · exact apart (List.mem_map.mpr ⟨b',mem,same⟩)
      · exact fresh b' (List.mem_cons_of_mem _ mem) old
    obtain ⟨keys,last,others,closed⟩ :=
      ih distinct (Nat.lt_of_succ_lt_succ enough) later (put record b)
    refine ⟨keys,last,?_,closed⟩
    rw [fieldsByKey]
    simp only [nextKeyMember before named,found,fresh b List.mem_cons_self,if_false,colonRead colon,
      read,others,List.foldl_cons]

include shorter reads in
theorem recordRead {bs : List β} {s rest : List Char} (spells : SpellsObject key item bs s rest)
    (distinct : (bs.map key).Nodup) (initial : σ) :
    record fields [] initial s = .ok (bs.foldl put initial,rest) := by
  obtain ⟨inner,gap,members⟩ := spells
  have length := members.length shorter
  have enough : bs.length < inner.length + 1 := by omega
  have fresh : ∀ b ∈ bs, key b ∉ [] := fun _ _ => List.not_mem_nil
  obtain ⟨keys,last,read,closed⟩ := fieldsRead reads members distinct enough fresh initial
  simp [record,gap.token (c := '{') rfl,read,bind,Except.bind,closed]

end Record

theorem wholeRead {α : Type} {read : Read α} {text : String} {a : α} {rest : List Char}
    (front : read text.toList = .ok (a,rest)) (gap : Gap rest []) : whole read text = .ok a := by
  have blank : skipBlanks rest = [] := gap.skip
  simp only [whole,front,blank,if_true]

end SignedUpload.Json

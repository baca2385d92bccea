import SignedUpload.Decimal.Literal
import SignedUpload.Proofs.IntegerText
import SignedUpload.Proofs.Rounding

/-! Numbers in decimal text: digits around an optional point, with an optional sign and an optional
power of ten. The grammar stands apart from the reader. Every text of it is read, and comes to the
number that is nearest to the value it stands for. -/
namespace SignedUpload.Decimal

inductive Mantissa : List Char → Nat → Nat → Prop where
  | whole {ds} (nonempty : ds ≠ []) (all : ds.all isDigit = true) : Mantissa ds (ofDigits ds) 0
  | point {ds fraction} (nonempty : ds ++ fraction ≠ []) (all : ds.all isDigit = true)
      (all' : fraction.all isDigit = true) :
      Mantissa (ds ++ '.' :: fraction) (ofDigits (ds ++ fraction)) fraction.length

inductive Power : List Char → Int → Prop where
  | none : Power [] 0
  | marked {mark a ds negative} (marks : mark = 'e' ∨ mark = 'E') (sign : Sign a negative)
      (nonempty : ds ≠ []) (all : ds.all isDigit = true) :
      Power (mark :: (a ++ ds)) (signedInteger negative (ofDigits ds))

inductive Spells : List Char → Bool → Nat → Int → Prop where
  | of {a b c negative m places e} (sign : Sign a negative) (mantissa : Mantissa b m places)
      (power : Power c e) : Spells (a ++ (b ++ c)) negative m (e - places)

def Denotes (t : String) (r : ℚ) : Prop :=
  ∃ negative m e, Spells t.toList negative m e ∧ r = Binary64.signed negative (m * 10 ^ e)

theorem Integral.denotes {t : String} {n : Int} (integral : Integral t.toList n) : Denotes t n := by
  generalize same : t.toList = s at integral
  obtain ⟨sign,nonempty,all⟩ := integral
  rename_i a ds negative
  refine ⟨negative,ofDigits ds,0,?_,?_⟩
  · have spells := Spells.of sign (.whole nonempty all) .none
    rw [List.append_nil] at spells
    rwa [same]
  · cases negative <;> simp [Binary64.signed,signedInteger]

theorem Sign.split {a rest : List Char} {negative : Bool} (sign : Sign a negative)
    (plain : ∀ c more, rest = c :: more → c ≠ '-' ∧ c ≠ '+') :
    Literal.splitSign (a ++ rest) = (negative,rest) := by
  cases sign with
  | none =>
    unfold Literal.splitSign
    split
    · rename_i more same
      exact absurd rfl (plain _ more same).1
    · rename_i more same
      exact absurd rfl (plain _ more same).2
    · rfl
  | plus => rfl
  | minus => rfl

theorem digitLower {c : Char} (digit : isDigit c = true) : Text.asciiLower c = c := by
  refine if_neg fun letter => ?_
  simp only [isDigit,Bool.and_eq_true,decide_eq_true_eq] at digit
  exact absurd (Char.le_trans letter.1 digit.2) (by decide)

theorem digitsUnsigned {ds : List Char} (all : ds.all isDigit = true) :
    ∀ c more, ds = c :: more → c ≠ '-' ∧ c ≠ '+' := by
  rintro c more rfl
  exact digitUnsigned (List.all_eq_true.mp all c List.mem_cons_self)

theorem Power.read {c : List Char} {e : Int} (power : Power c e) : Literal.exponent? c = some e := by
  cases power with
  | none => rfl
  | marked marks sign nonempty all =>
    simp only [Literal.exponent?,if_pos marks,sign.split (digitsUnsigned all),
      naturalShown nonempty all]
    rfl

theorem Power.ends {c : List Char} {e : Int} (power : Power c e) :
    ∀ d rest, c = d :: rest → isDigit d = false ∧ d ≠ '.' := by
  rintro d rest rfl
  cases power with
  | marked marks sign nonempty all => rcases marks with rfl | rfl <;> decide

theorem Mantissa.leads {b : List Char} {m places : Nat} (mantissa : Mantissa b m places) :
    ∃ c rest, b = c :: rest ∧ (isDigit c = true ∨ c = '.') := by
  cases mantissa with
  | whole nonempty all =>
    obtain ⟨c,rest,rfl⟩ := List.exists_cons_of_ne_nil nonempty
    exact ⟨c,rest,rfl,.inl (List.all_eq_true.mp all c List.mem_cons_self)⟩
  | @point ds fraction nonempty all all' =>
    cases ds with
    | nil => exact ⟨_,_,rfl,.inr rfl⟩
    | cons c rest => exact ⟨_,_,rfl,.inl (List.all_eq_true.mp all c List.mem_cons_self)⟩

theorem digitsTake {ds rest : List Char} (all : ds.all isDigit = true)
    (ends : ∀ d more, rest = d :: more → isDigit d = false) :
    (ds ++ rest).takeWhile isDigit = ds ∧ (ds ++ rest).dropWhile isDigit = rest := by
  have each := List.all_eq_true.mp all
  rw [List.takeWhile_append_of_pos each,List.dropWhile_append_of_pos each]
  cases rest with
  | nil => simp
  | cons d more => simp [ends d more rfl]

theorem Mantissa.read {b c : List Char} {m places : Nat} {e : Int} (mantissa : Mantissa b m places)
    (power : Power c e) (negative : Bool) :
    Literal.mantissa? negative (b ++ c) = some (.number negative m (e - places)) := by
  have ends : ∀ d more, c = d :: more → isDigit d = false :=
    fun d more same => (power.ends d more same).1
  cases mantissa with
  | @whole ds nonempty all =>
    obtain ⟨taken,left⟩ := digitsTake all ends
    unfold Literal.mantissa?
    simp only [taken,left]
    split
    · rename_i more
      exact absurd rfl (power.ends _ more rfl).2
    · simp [nonempty,power.read]
  | @point ds fraction nonempty all all' =>
    have pointed : ∀ d more, '.' :: (fraction ++ c) = d :: more → isDigit d = false := by
      intro d more same
      cases same
      rfl
    obtain ⟨taken,left⟩ := digitsTake all pointed
    obtain ⟨taken',left'⟩ := digitsTake all' ends
    have nonempty : ¬(ds = [] ∧ fraction = []) := fun both => nonempty (by simp [both])
    rw [List.append_assoc,List.cons_append]
    unfold Literal.mantissa?
    simp only [taken,left,taken',left',if_neg nonempty,power.read,Option.map_some]

theorem spellsRead {t : String} {negative : Bool} {m : Nat} {e : Int}
    (spells : Spells t.toList negative m e) : Literal.read? t = some (.number negative m e) := by
  generalize same : t.toList = s at spells
  obtain ⟨sign,mantissa,power⟩ := spells
  rename_i a b c places e
  obtain ⟨d,rest,lead,digit⟩ := mantissa.leads
  have plain : ∀ x more, b ++ c = x :: more → x ≠ '-' ∧ x ≠ '+' := by
    rintro x more first
    rw [lead] at first
    cases first
    rcases digit with digit | rfl
    · exact digitUnsigned digit
    · decide
  -- No word of letters starts with a digit or a point.
  have wordless : ∀ w : String, (∃ x, w.toList.head? = some x ∧ isDigit x = false ∧ x ≠ '.') →
      String.ofList ((b ++ c).map Text.asciiLower) ≠ w := by
    rintro w ⟨x,head,letter,other⟩ rfl
    rw [String.toList_ofList,lead,List.cons_append,List.map_cons,List.head?_cons] at head
    obtain rfl := Option.some.inj head
    rcases digit with digit | rfl
    · rw [digitLower digit,digit] at letter
      cases letter
    · exact other rfl
  unfold Literal.read?
  rw [same,sign.split plain]
  simp only []
  rw [if_neg (wordless _ ⟨'n',by decide,by decide,by decide⟩),
    if_neg (not_or.mpr ⟨wordless _ ⟨'i',by decide,by decide,by decide⟩,
      wordless _ ⟨'i',by decide,by decide,by decide⟩⟩)]
  exact mantissa.read power negative

theorem ofRatioDecimal (negative : Bool) (m : Nat) (e : Int) :
    (if e < 0 then Binary64.ofRatio negative m (Nat.pow 10 e.natAbs)
      else Binary64.ofRatio negative (m * Nat.pow 10 e.natAbs) 1) =
    Binary64.rounded negative (m * 10 ^ e) := by
  have positive : 0 < 10 ^ e.natAbs := by positivity
  split
  · rw [Nat.pow_eq,Binary64.ofRatioRounded negative m positive]
    obtain ⟨k,hk⟩ : ∃ k : ℕ, e = -k := ⟨e.natAbs,by omega⟩
    subst hk
    simp only [Int.natAbs_neg,Int.natAbs_natCast,Nat.cast_pow,Nat.cast_ofNat,zpow_neg,zpow_natCast,
      div_eq_mul_inv]
  · rw [Binary64.ofRatioRounded negative _ (by decide)]
    obtain ⟨k,hk⟩ : ∃ k : ℕ, e = k := ⟨e.natAbs,by omega⟩
    subst hk
    simp only [Int.natAbs_natCast,Nat.pow_eq,Nat.cast_mul,Nat.cast_pow,Nat.cast_ofNat,zpow_natCast,
      Nat.cast_one,div_one]

theorem farPower : (2 : ℚ) ^ (1024 : ℤ) ≤ 10 ^ (311 : ℤ) := by
  have whole : 2 ^ 1024 ≤ 10 ^ 311 := by decide +kernel
  rw [zpow_ofNat,zpow_ofNat]
  exact_mod_cast whole

theorem tinyPower : (10 : ℚ) ^ (-401 : ℤ) < 2 ^ (-1075 : ℤ) := by
  have whole : 2 ^ 1075 < 10 ^ 401 := by decide +kernel
  rw [zpow_neg,zpow_neg,zpow_ofNat,zpow_ofNat]
  exact inv_strictAnti₀ (by positivity) (by exact_mod_cast whole)

theorem literalRounded (negative : Bool) (m : Nat) (e : Int) :
    (Literal.number negative m e).toBinary64 = Binary64.rounded negative (m * 10 ^ e) := by
  simp only [Literal.toBinary64]
  rcases Nat.eq_zero_or_pos m with rfl | above
  · simp [Binary64.rounded,Binary64.ofRatio]
  rw [if_neg above.ne']
  obtain ⟨low,high⟩ := digitsSize above
  have positive : 0 < (digits m).length := Nat.length_toDigits_pos
  have low : (10 : ℚ) ^ ((digits m).length - 1 : ℤ) ≤ m := by
    rw [← Nat.cast_one,← Nat.cast_sub positive,zpow_natCast]
    exact_mod_cast low
  have high : (m : ℚ) < 10 ^ ((digits m).length : ℤ) := by
    rw [zpow_natCast]
    exact_mod_cast high
  split
  · rename_i far
    refine (Binary64.roundedFar negative ?_).symm
    calc (2 : ℚ) ^ (1024 : ℤ) ≤ 10 ^ (311 : ℤ) := farPower
      _ ≤ 10 ^ ((digits m).length - 1 + e : ℤ) := zpow_le_zpow_right₀ (by norm_num) (by omega)
      _ = 10 ^ ((digits m).length - 1 : ℤ) * 10 ^ e := zpow_add₀ (by norm_num) _ _
      _ ≤ m * 10 ^ e := by gcongr
  split
  · rename_i tiny
    refine (Binary64.roundedTiny negative (by positivity) ?_).symm
    calc (m : ℚ) * 10 ^ e < 10 ^ ((digits m).length : ℤ) * 10 ^ e := by gcongr
      _ = 10 ^ ((digits m).length + e : ℤ) := (zpow_add₀ (by norm_num) _ _).symm
      _ ≤ 10 ^ (-401 : ℤ) := zpow_le_zpow_right₀ (by norm_num) (by omega)
      _ < 2 ^ (-1075 : ℤ) := tinyPower
  exact ofRatioDecimal negative m e

theorem Denotes.binary {t : String} {r : ℚ} (denotes : Denotes t r) :
    ∃ x, binary64? t = some x ∧ x.same (Binary64.nearest r) = true := by
  obtain ⟨negative,m,e,spells,rfl⟩ := denotes
  refine ⟨_,by rw [binary64?,spellsRead spells]; rfl,?_⟩
  rw [literalRounded]
  exact Binary64.roundedNearest negative (by positivity)

end SignedUpload.Decimal

import SignedUpload.Json.Printer
import SignedUpload.Proofs.DecimalText

/-! Binary numbers as they are printed. The decimal that is chosen is rounded back to the number, and
its text spells that decimal in every layout, so what is printed reads back. -/
namespace SignedUpload.Decimal

open Binary64 (Normal rounded)

namespace Scientific

def value (d : Scientific) : ℚ := d.digits * 10 ^ d.exponent

theorem roundsValue (d : Scientific) : d.toBinary64 = rounded false d.value := by
  rw [value,← ofRatioDecimal,toBinary64,ratio]
  split <;> rfl

theorem stripValue (fuel : Nat) (d : Scientific) : (d.strip fuel).value = d.value := by
  induction fuel generalizing d with
  | zero => rfl
  | succ fuel ih =>
    unfold strip
    split
    · rename_i zero
      obtain ⟨k,hk⟩ : ∃ k, d.digits = k * 10 := ⟨d.digits / 10,by omega⟩
      rw [ih]
      simp only [value,hk,Nat.mul_div_cancel _ (by decide : 0 < 10)]
      rw [zpow_add_one₀ (by norm_num)]
      push_cast
      ring
    · rfl

end Scientific

theorem exactValue (m : Nat) (e : Int) : (exactDecimal m e).value = m * 2 ^ e := by
  unfold exactDecimal Scientific.value
  split
  · obtain ⟨k,hk⟩ : ∃ k : ℕ, e = -k := ⟨e.natAbs,by omega⟩
    subst hk
    simp only [Int.natAbs_neg,Int.natAbs_natCast,Nat.pow_eq,Nat.cast_mul,Nat.cast_pow,Nat.cast_ofNat,
      zpow_neg,zpow_natCast]
    rw [mul_assoc,show (10 : ℚ) = 5 * 2 by norm_num,mul_pow]
    field_simp
  · obtain ⟨k,hk⟩ : ∃ k : ℕ, e = k := ⟨e.natAbs,by omega⟩
    subst hk
    simp

theorem shortestFromNext (m : Nat) (e : Int) (more places : Nat) :
    let (num,den) := Binary64.ratio m e
    shortestFrom m e (more + 1) places =
      match (neighbours num den (decimalLead num den - places + 1)).find? (readsBack m e) with
      | some d => some d
      | none => shortestFrom m e more (places + 1) := by
  -- The equations of the search are too slow to make, so it is opened by hand.
  delta shortestFrom
  exact rfl

theorem shortestFromReads {m : Nat} {e : Int} {more places : Nat} {d : Scientific}
    (found : shortestFrom m e more places = some d) : readsBack m e d = true := by
  induction more generalizing places with
  | zero =>
    have exhausted : shortestFrom m e 0 places = none := rfl
    rw [exhausted] at found
    exact absurd found (by simp)
  | succ more ih =>
    rw [shortestFromNext] at found
    generalize neighbours _ _ _ = grid at found
    split at found
    · rename_i here
      cases found
      exact List.find?_some here
    · exact ih found

theorem shortestRounds (negative : Bool) {m : Nat} {e : Int} (normal : Normal m e) :
    rounded negative (shortest m e).value = .finite negative m e := by
  simp only [shortest,Scientific.stripValue]
  cases found : shortestFrom m e 17 1 with
  | none =>
    rw [Option.getD_none,exactValue]
    exact Binary64.roundedExact negative normal
  | some d =>
    have reads := shortestFromReads found
    rw [readsBack,beq_iff_eq] at reads
    rw [d.roundsValue] at reads
    exact Binary64.roundedSign negative reads

def Writes (text : List Char) (q : ℚ) : Prop :=
  ∃ b c m places e, text = b ++ c ∧ Mantissa b m places ∧ Power c e ∧ (m : ℚ) * 10 ^ (e - places : ℤ) = q

theorem powerWritten (lead : Int) :
    Power ('e' :: (if lead < 0 then '-' else '+') :: digits lead.natAbs) lead := by
  have written : ∀ {a negative}, Sign a negative → signedInteger negative lead.natAbs = lead →
      Power ('e' :: (a ++ digits lead.natAbs)) lead := by
    intro a negative sign same
    have nonempty : digits lead.natAbs ≠ [] := Nat.toDigits_ne_nil
    have power := Power.marked (.inl rfl) sign nonempty (digitsAll lead.natAbs)
    rwa [ofDigitsShown,same] at power
  split
  · exact written .minus (by simp only [signedInteger,if_true]; omega)
  · exact written .plus (by simp only [signedInteger,Bool.false_eq_true,if_false]; omega)

theorem behindWritten {ds : List Char} (all : ds.all isDigit = true) (k : Nat) :
    Writes ('0' :: '.' :: List.replicate k '0' ++ ds)
    (ofDigits ds * 10 ^ (-(k + ds.length : ℤ))) := by
  have zeros : (List.replicate k '0' ++ ds).all isDigit = true := by
    rw [List.all_append,List.all_replicate,all]
    simp [isDigit]
  refine ⟨['0'] ++ '.' :: (List.replicate k '0' ++ ds),[],_,_,0,by simp,
    .point (by simp) (by decide) zeros,.none,?_⟩
  have same : ofDigits (['0'] ++ (List.replicate k '0' ++ ds)) = ofDigits ds :=
    ofDigitsAfterZeros ds (k + 1)
  rw [same,List.length_append,List.length_replicate,zero_sub]
  push_cast
  rfl

section Layouts
variable {ds : List Char} (nonempty : ds ≠ []) (all : ds.all isDigit = true)
include nonempty all

theorem markedWritten (lead : Int) :
    Writes (ds.take 1 ++ (if ds.length ≤ 1 then [] else '.' :: ds.drop 1) ++
      'e' :: (if lead < 0 then '-' else '+') :: digits lead.natAbs)
      (ofDigits ds * 10 ^ (lead + 1 - ds.length)) := by
  refine ⟨_,_,ofDigits ds,ds.length - 1,lead,rfl,?_,powerWritten lead,?_⟩
  · obtain ⟨c,rest,rfl⟩ := List.exists_cons_of_ne_nil nonempty
    cases rest with
    | nil => exact .whole nonempty all
    | cons d more =>
      have parts : [c].all isDigit = true ∧ (d :: more).all isDigit = true := by
        rwa [← Bool.and_eq_true,← List.all_append]
      have point : Mantissa ([c] ++ '.' :: d :: more) (ofDigits ([c] ++ d :: more)) _ :=
        .point (by simp) parts.1 parts.2
      exact point
  · have one : 1 ≤ ds.length := List.length_pos_of_ne_nil nonempty
    push_cast [one]
    congr 2
    ring

theorem aroundWritten (before : Nat) :
    Writes (ds.take before ++ List.replicate (before - ds.length) '0' ++
      '.' :: if ds.drop before = [] then ['0'] else ds.drop before)
      (ofDigits ds * 10 ^ (before - ds.length : ℤ)) := by
  rcases Nat.lt_or_ge before ds.length with short | long
  · have parts := all
    rw [← List.take_append_drop before ds,List.all_append,Bool.and_eq_true] at parts
    have more : ds.drop before ≠ [] := by simpa using short
    rw [Nat.sub_eq_zero_of_le short.le,List.replicate_zero,List.append_nil,if_neg more]
    refine ⟨_,[],_,_,0,(List.append_nil _).symm,
      .point (by rwa [List.take_append_drop]) parts.1 parts.2,.none,?_⟩
    rw [List.take_append_drop,List.length_drop]
    congr 2
    omega
  · obtain ⟨k,rfl⟩ := Nat.exists_eq_add_of_le long
    rw [List.take_of_length_le long,List.drop_of_length_le long,if_pos rfl,Nat.add_sub_cancel_left]
    have zeros : (ds ++ List.replicate k '0').all isDigit = true := by
      rw [List.all_append,List.all_replicate,all]
      simp [isDigit]
    refine ⟨_,[],_,_,0,(List.append_nil _).symm,.point (by simp) zeros (by decide),.none,?_⟩
    have same : ofDigits (ds ++ List.replicate k '0' ++ ['0']) = ofDigits ds * 10 ^ (k + 1) := by
      rw [List.append_assoc,← List.replicate_succ',ofDigitsZeros]
    have one : ((['0'].length : ℕ) : ℤ) = 1 := rfl
    have more : ((ds.length + k : ℕ) : ℤ) - ds.length = k := by omega
    rw [same,one,more,Nat.cast_mul,Nat.cast_pow,pow_succ,zero_sub,zpow_neg_one,zpow_natCast]
    push_cast
    field_simp

end Layouts

theorem layoutWritten (layout : Layout) (d : Scientific) :
    Writes (layout.write d).toList d.value := by
  have nonempty : digits d.digits ≠ [] := Nat.toDigits_ne_nil
  have all := digitsAll d.digits
  have number := ofDigitsShown d.digits
  unfold Layout.write
  obtain ⟨lead,hlead⟩ : ∃ lead, lead = d.exponent + (digits d.digits).length - 1 := ⟨_,rfl⟩
  simp only [← hlead]
  split
  · rw [String.toList_ofList]
    convert markedWritten nonempty all lead using 1
    rw [number,hlead,Scientific.value]
    congr 2
    ring
  split
  · rename_i negative
    rw [String.toList_ofList]
    convert behindWritten all (lead.natAbs - 1) using 1
    rw [number,Scientific.value]
    congr 2
    omega
  · rw [String.toList_ofList]
    convert aroundWritten nonempty all (lead.natAbs + 1) using 1
    rw [number,Scientific.value]
    congr 2
    omega

theorem writesRead {t : String} {a text : List Char} {negative : Bool} {q : ℚ}
    (sign : Sign a negative) (writes : Writes text q) (same : t.toList = a ++ text) :
    binary64? t = some (rounded negative q) := by
  obtain ⟨b,c,m,places,e,rfl,mantissa,power,rfl⟩ := writes
  rw [binary64?,spellsRead (same ▸ Spells.of sign mantissa power),Option.map_some,literalRounded]

theorem realPrinted (negative : Bool) {m : Nat} {e : Int} (normal : Normal m e) :
    binary64? (Json.Number.text (.real (.finite negative m e))) = some (.finite negative m e) := by
  have printed : ∃ q, Writes (if m = 0 then "0.0" else
      Json.realLayout.write (shortest m e)).toList q ∧ rounded negative q = .finite negative m e := by
    split
    · rename_i vanishes
      subst vanishes
      refine ⟨_,⟨['0'] ++ '.' :: ['0'],[],_,_,0,rfl,.point (by simp) (by decide) (by decide),.none,
        ?_⟩,Binary64.roundedExact negative normal⟩
      simp [ofDigits,digitValue]
    · exact ⟨_,layoutWritten _ _,shortestRounds negative normal⟩
  obtain ⟨q,writes,back⟩ := printed
  rw [← congrArg some back]
  cases negative with
  | false => exact writesRead .none writes (by simp [Json.Number.text])
  | true => exact writesRead .minus writes (by simp [Json.Number.text])

end SignedUpload.Decimal

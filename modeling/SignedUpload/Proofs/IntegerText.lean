import SignedUpload.Decimal.Integer
import SignedUpload.Text.Blank
import Mathlib.Tactic.Ring

/-! Integers in decimal text: digits after an optional sign. The grammar stands apart from the reader
and from the printer, which take and make only texts of it. -/
namespace SignedUpload.Decimal

theorem digitsDigit {n : Nat} {c : Char} (mem : c ∈ digits n) : isDigit c = true :=
  Nat.isDigit_of_mem_toDigits (by decide) (by decide) mem

theorem digitsAll (n : Nat) : (digits n).all isDigit = true :=
  List.all_eq_true.mpr fun _ mem => digitsDigit mem

theorem digitShown {c : Char} (digit : isDigit c = true) : Text.isBlank c = false := by
  simp only [isDigit,Bool.and_eq_true,decide_eq_true_eq] at digit
  have low : 48 ≤ c.toNat := digit.1
  have high : c.toNat ≤ 57 := digit.2
  simp only [Text.isBlank,Bool.or_eq_false_iff,Bool.and_eq_false_iff,decide_eq_false_iff_not,
    beq_eq_false_iff_ne]
  omega

theorem digitUnsigned {c : Char} (digit : isDigit c = true) : c ≠ '-' ∧ c ≠ '+' := by
  constructor <;> (rintro rfl; cases digit)

theorem ofDigitsChars (ds : List Char) : ofDigits ds = Nat.ofDigitChars 10 ds 0 := by
  rw [Nat.ofDigitChars_eq_foldl,ofDigits]
  congr 1
  funext n c
  rw [Nat.mul_comm,digitValue]

theorem ofDigitsShown (n : Nat) : ofDigits (digits n) = n := by
  rw [ofDigitsChars]
  exact Nat.ofDigitChars_toDigits (by decide) (by decide)

theorem ofDigitsZeros (ds : List Char) (k : Nat) :
    ofDigits (ds ++ List.replicate k '0') = ofDigits ds * 10 ^ k := by
  rw [ofDigitsChars,Nat.ofDigitChars_append,Nat.ofDigitChars_replicate_zero,ofDigitsChars,Nat.mul_comm]

theorem ofDigitsAfterZeros (ds : List Char) (k : Nat) :
    ofDigits (List.replicate k '0' ++ ds) = ofDigits ds := by
  rw [ofDigitsChars,Nat.ofDigitChars_append,Nat.ofDigitChars_replicate_zero,ofDigitsChars,
    Nat.mul_zero]

theorem digitsSize {n : Nat} (above : 0 < n) :
    10 ^ ((digits n).length - 1) ≤ n ∧ n < 10 ^ (digits n).length := by
  have positive : 0 < (digits n).length := Nat.length_toDigits_pos
  refine ⟨?_,(Nat.length_toDigits_le_iff (by decide) positive).mp (Nat.le_refl _)⟩
  rcases Nat.eq_zero_or_pos ((digits n).length - 1) with one | more
  · rw [one]
    exact above
  · by_contra less
    have short := (Nat.length_toDigits_le_iff (by decide) more).mpr (Nat.not_le.mp less)
    change (digits n).length ≤ (digits n).length - 1 at short
    omega

inductive Sign : List Char → Bool → Prop where
  | none : Sign [] false
  | plus : Sign ['+'] false
  | minus : Sign ['-'] true

theorem Sign.shown {a : List Char} {negative : Bool} (sign : Sign a negative) :
    ∀ c ∈ a, Text.isBlank c = false := by
  cases sign <;> simp <;> decide

def signedInteger (negative : Bool) (n : Nat) : Int := if negative then -n else n

inductive Integral : List Char → Int → Prop where
  | of {a ds negative} (sign : Sign a negative) (nonempty : ds ≠ []) (all : ds.all isDigit = true) :
      Integral (a ++ ds) (signedInteger negative (ofDigits ds))

theorem naturalShown {ds : List Char} (nonempty : ds ≠ []) (all : ds.all isDigit = true) :
    natural? ds = some (ofDigits ds) := if_pos ⟨nonempty,all⟩

theorem intTextIntegral (n : Int) : Integral (intText n).toList n := by
  have written : ∀ {a negative}, Sign a negative → signedInteger negative n.natAbs = n →
      Integral (a ++ digits n.natAbs) n := by
    intro a negative sign same
    have nonempty : digits n.natAbs ≠ [] := Nat.toDigits_ne_nil
    have integral := Integral.of sign nonempty (digitsAll n.natAbs)
    rwa [ofDigitsShown,same] at integral
  unfold intText
  split
  · rw [String.toList_append,natText,String.toList_ofList (l := digits n.natAbs)]
    exact written .minus (by simp only [signedInteger,if_true]; omega)
  · rw [natText,String.toList_ofList]
    exact written .none (by simp only [signedInteger,Bool.false_eq_true,if_false]; omega)

theorem Integral.shown {s : List Char} {n : Int} (integral : Integral s n) :
    ∀ c ∈ s, Text.isBlank c = false := by
  obtain ⟨sign,-,all⟩ := integral
  intro c mem
  rcases List.mem_append.mp mem with first | digit
  · exact sign.shown c first
  · exact digitShown (List.all_eq_true.mp all c digit)

theorem signedRead {s : List Char} {n : Int} (integral : Integral s n) {bound : Nat}
    (above : 0 < bound) :
    signed? bound s = if -(bound : Int) ≤ n ∧ n < bound then some n else none := by
  obtain ⟨sign,nonempty,all⟩ := integral
  rename_i a ds negative
  obtain ⟨c,rest,lead⟩ := List.exists_cons_of_ne_nil nonempty
  have unsigned := digitUnsigned (List.all_eq_true.mp all c (lead ▸ List.mem_cons_self))
  cases sign <;>
    simp only [List.cons_append,List.nil_append,signed?,naturalShown nonempty all,Option.filter_some] <;>
    grind [signedInteger]

inductive Unsigned : List Char → Nat → Prop where
  | of {a ds} (sign : Sign a false) (nonempty : ds ≠ []) (all : ds.all isDigit = true) :
      Unsigned (a ++ ds) (ofDigits ds)

theorem naturalIff {s : List Char} {n : Nat} :
    natural? s = some n ↔ s ≠ [] ∧ s.all isDigit = true ∧ ofDigits s = n := by
  unfold natural?
  split <;> simp_all

theorem unsignedIff {s : List Char} {n bound : Nat} :
    unsigned? bound s = some n ↔ Unsigned s n ∧ n < bound := by
  constructor
  · intro read
    obtain ⟨digits,fits⟩ := Option.filter_eq_some_iff.mp read
    refine ⟨?_,of_decide_eq_true fits⟩
    split at digits <;> obtain ⟨nonempty,all,rfl⟩ := naturalIff.mp digits
    · exact .of .plus nonempty all
    · exact .of .none nonempty all
  · rintro ⟨⟨sign,nonempty,all⟩,fits⟩
    rename_i a ds
    obtain ⟨c,rest,lead⟩ := List.exists_cons_of_ne_nil nonempty
    have unsigned := digitUnsigned (List.all_eq_true.mp all c (lead ▸ List.mem_cons_self))
    cases sign with
    | plus => simp [unsigned?,naturalShown nonempty all,fits]
    | none =>
      subst lead
      simp [unsigned?,unsigned.2,naturalShown nonempty all,fits]

theorem Unsigned.solid {s : List Char} {n : Nat} (integral : Unsigned s n) :
    ∃ c ∈ s, Text.isBlank c = false := by
  obtain ⟨-,nonempty,all⟩ := integral
  obtain ⟨c,rest,rfl⟩ := List.exists_cons_of_ne_nil nonempty
  exact ⟨c,by simp,digitShown (List.all_eq_true.mp all c List.mem_cons_self)⟩

end SignedUpload.Decimal

import SignedUpload.Decimal.Binary64
import Mathlib.Algebra.Order.Field.Power
import Mathlib.Data.Int.Log
import Mathlib.Data.Rat.Floor
import Mathlib.Tactic.FieldSimp
import Mathlib.Tactic.Linarith
import Mathlib.Tactic.NormNum
import Mathlib.Tactic.Positivity
import Mathlib.Tactic.Ring

/-! Rounding to binary floating point. What a quotient is rounded to depends on its value alone; it is a
number that no other one is nearer to, and a value that has a number of its own is rounded to that. -/
namespace SignedUpload.Decimal

structure Nearest (x : ℚ) (m : ℕ) : Prop where
  close : |(m : ℚ) - x| ≤ 1 / 2
  even : |(m : ℚ) - x| = 1 / 2 → m % 2 = 0

theorem nearestWhole (m : ℕ) : Nearest m m := by
  constructor <;> norm_num

theorem Nearest.unique {x : ℚ} {m n : ℕ} (first : Nearest x m) (second : Nearest x n) : m = n := by
  obtain ⟨below,above⟩ := abs_le.mp first.close
  obtain ⟨below',above'⟩ := abs_le.mp second.close
  have up : (m : ℚ) ≤ n + 1 := by linarith
  have down : (n : ℚ) ≤ m + 1 := by linarith
  have up : m ≤ n + 1 := by exact_mod_cast up
  have down : n ≤ m + 1 := by exact_mod_cast down
  -- Neighbours are both at a half from `x`, and only one of them is even.
  rcases Nat.lt_trichotomy m n with less | same | more
  · have next : n = m + 1 := by omega
    subst next
    push_cast at below' above'
    have even := first.even (by rw [abs_of_nonpos (by linarith)]; linarith)
    have even' := second.even (by push_cast; rw [abs_of_nonneg (by linarith)]; linarith)
    omega
  · exact same
  · have next : m = n + 1 := by omega
    subst next
    push_cast at below above
    have even := second.even (by rw [abs_of_nonpos (by linarith)]; linarith)
    have even' := first.even (by push_cast; rw [abs_of_nonneg (by linarith)]; linarith)
    omega

theorem Nearest.above {x : ℚ} {k m : ℕ} (near : Nearest x m) (least : (k : ℚ) ≤ x) : k ≤ m := by
  by_contra less
  have next : (m : ℚ) + 1 ≤ k := by exact_mod_cast Nat.not_le.mp less
  obtain ⟨below,-⟩ := abs_le.mp near.close
  linarith

theorem Nearest.below {x : ℚ} {k m : ℕ} (near : Nearest x m) (most : x ≤ k) : m ≤ k := by
  by_contra more
  have next : (k : ℚ) + 1 ≤ m := by exact_mod_cast Nat.not_le.mp more
  obtain ⟨-,above⟩ := abs_le.mp near.close
  linarith

theorem quotientNearest (num : ℕ) {den : ℕ} (positive : 0 < den) :
    Nearest (num / den) (roundQuotient num den) := by
  have above : (0 : ℚ) < den := by exact_mod_cast positive
  obtain ⟨q,hq⟩ : ∃ q, q = num / den := ⟨_,rfl⟩
  obtain ⟨r,hr⟩ : ∃ r, r = num % den := ⟨_,rfl⟩
  have parts : num = den * q + r := by rw [hq,hr,Nat.div_add_mod]
  have value : (num : ℚ) / den = q + r / den := by
    rw [parts]
    push_cast
    field_simp
  have nonneg : (0 : ℚ) ≤ r / den := by positivity
  have below : (r : ℚ) / den < 1 := by
    rw [div_lt_one above]
    exact_mod_cast hr ▸ Nat.mod_lt num positive
  rw [value]
  unfold roundQuotient
  simp only [← hq,← hr]
  split
  · rename_i low
    have half : (r : ℚ) / den < 1 / 2 := by
      rw [div_lt_div_iff₀ above (by norm_num)]
      exact_mod_cast (by omega : r * 2 < 1 * den)
    have far : |(q : ℚ) - (q + r / den)| = r / den := by
      rw [sub_add_cancel_left,abs_neg,abs_of_nonneg nonneg]
    exact ⟨by rw [far]; exact half.le,fun tie => by rw [far] at tie; linarith⟩
  · split
    · rename_i high
      have half : 1 / 2 < (r : ℚ) / den := by
        rw [div_lt_div_iff₀ (by norm_num) above]
        exact_mod_cast (by omega : 1 * den < r * 2)
      have far : |((q + 1 : ℕ) : ℚ) - (q + r / den)| = 1 - r / den := by
        push_cast
        rw [add_sub_add_left_eq_sub,abs_of_nonneg (by linarith)]
      exact ⟨by rw [far]; linarith,fun tie => by rw [far] at tie; linarith⟩
    · rename_i low high
      have half : (r : ℚ) / den = 1 / 2 := by
        rw [div_eq_div_iff above.ne' (by norm_num)]
        exact_mod_cast (by omega : r * 2 = 1 * den)
      have far : |((q + q % 2 : ℕ) : ℚ) - (q + r / den)| = 1 / 2 := by
        rw [half]
        rcases Nat.mod_two_eq_zero_or_one q with even | odd
        · rw [even]
          norm_num
        · rw [odd]
          push_cast
          norm_num
      exact ⟨far.le,fun _ => by omega⟩

namespace Binary64

/-- The exponent of the numbers around `q`: the least one, or the one that leaves 53 bits before the
point. -/
def binade (q : ℚ) : ℤ := max leastExponent (Int.log 2 q - 52)

theorem scaledPositive (num : ℕ) {den : ℕ} (positive : 0 < den) (e : ℤ) :
    0 < (scaled num den e).2 := by
  unfold scaled
  split
  · exact positive
  · exact Nat.mul_pos positive (Nat.pow_pos (by decide))

theorem scaledValue (num den : ℕ) (e : ℤ) :
    ((scaled num den e).1 : ℚ) / (scaled num den e).2 = num / den / 2 ^ e := by
  unfold scaled
  split
  · rename_i negative
    obtain ⟨k,hk⟩ : ∃ k : ℕ, e = -k := ⟨e.natAbs,by omega⟩
    subst hk
    simp only [Int.natAbs_neg,Int.natAbs_natCast,Nat.pow_eq,Nat.cast_mul,Nat.cast_pow,Nat.cast_ofNat,
      zpow_neg,zpow_natCast,div_inv_eq_mul]
    ring
  · rename_i positive
    obtain ⟨k,hk⟩ : ∃ k : ℕ, e = k := ⟨e.natAbs,by omega⟩
    subst hk
    simp only [Int.natAbs_natCast,Nat.pow_eq,Nat.cast_mul,Nat.cast_pow,Nat.cast_ofNat,
      zpow_natCast,div_div]

theorem logOf {q : ℚ} {k : ℤ} (least : (2 : ℚ) ^ k ≤ q) (most : q < 2 ^ (k + 1)) :
    Int.log 2 q = k := by
  have positive : 0 < q := lt_of_lt_of_le (by positivity) least
  have low := (Int.zpow_le_iff_le_log Nat.one_lt_two positive).mp (by exact_mod_cast least)
  have high := (Int.lt_zpow_iff_log_lt Nat.one_lt_two positive).mp (by exact_mod_cast most)
  omega

theorem exponentBinade {num den : ℕ} (above : 0 < num) (positive : 0 < den) :
    exponentFor num den = binade (num / den) := by
  have low : (2 : ℚ) ^ (Nat.log2 num : ℤ) ≤ num := by
    rw [zpow_natCast]
    exact_mod_cast Nat.log2_self_le above.ne'
  have high : (num : ℚ) < 2 ^ ((Nat.log2 num : ℤ) + 1) := by
    exact_mod_cast Nat.lt_log2_self
  have low' : (2 : ℚ) ^ (Nat.log2 den : ℤ) ≤ den := by
    rw [zpow_natCast]
    exact_mod_cast Nat.log2_self_le positive.ne'
  have high' : (den : ℚ) < 2 ^ ((Nat.log2 den : ℤ) + 1) := by
    exact_mod_cast Nat.lt_log2_self
  have here : (0 : ℚ) < den := by exact_mod_cast positive
  obtain ⟨a,ha⟩ : ∃ a : ℤ, a = Nat.log2 num := ⟨_,rfl⟩
  obtain ⟨b,hb⟩ : ∃ b : ℤ, b = Nat.log2 den := ⟨_,rfl⟩
  rw [← ha] at low high
  rw [← hb] at low' high'
  have least : (2 : ℚ) ^ (a - b - 1) ≤ num / den := by
    rw [le_div_iff₀ here]
    calc (2 : ℚ) ^ (a - b - 1) * den ≤ 2 ^ (a - b - 1) * 2 ^ (b + 1) := by gcongr
      _ = 2 ^ a := by rw [← zpow_add₀ two_ne_zero]; congr 1; ring
      _ ≤ num := low
  have most : (num : ℚ) / den < 2 ^ (a - b + 1) := by
    rw [div_lt_iff₀ here]
    calc (num : ℚ) < 2 ^ (a + 1) := high
      _ = 2 ^ (a - b + 1) * 2 ^ b := by rw [← zpow_add₀ two_ne_zero]; congr 1; ring
      _ ≤ 2 ^ (a - b + 1) * den := by gcongr
  have bits : (scaled num den (a - b - 52)).1 < (scaled num den (a - b - 52)).2 * Nat.pow 2 52 ↔
      (num : ℚ) / den < 2 ^ (a - b) := by
    have width : (0 : ℚ) < (scaled num den (a - b - 52)).2 := by
      exact_mod_cast scaledPositive num positive _
    have whole : (2 : ℚ) ^ (a - b) = 2 ^ (52 : ℕ) * 2 ^ (a - b - 52) := by
      rw [← zpow_natCast,← zpow_add₀ two_ne_zero]
      congr 1
      omega
    rw [whole,← div_lt_iff₀ (by positivity),← scaledValue,div_lt_iff₀ width,mul_comm]
    exact_mod_cast Iff.rfl
  unfold exponentFor binade
  simp only [← ha,← hb,bits]
  split
  · rename_i less
    rw [logOf least (by rw [sub_add_cancel]; exact less)]
    congr 1
    ring
  · rename_i more
    rw [logOf (not_lt.mp more) most]

theorem binadeBits {q : ℚ} (above : 0 < q) : leastExponent ≤ binade q ∧ q / 2 ^ binade q < 2 ^ 53 ∧
    (binade q = leastExponent ∨ 2 ^ 52 ≤ q / 2 ^ binade q) := by
  have low := Int.zpow_log_le_self (b := 2) Nat.one_lt_two above
  have high := Int.lt_zpow_succ_log_self (b := 2) Nat.one_lt_two q
  have unit : (0 : ℚ) < 2 ^ binade q := by positivity
  refine ⟨le_max_left _ _,?_,?_⟩
  · rw [div_lt_iff₀ unit]
    calc q < 2 ^ (Int.log 2 q + 1) := by exact_mod_cast high
      _ ≤ 2 ^ (53 + binade q) :=
        zpow_le_zpow_right₀ one_le_two (by unfold binade; omega)
      _ = 2 ^ 53 * 2 ^ binade q := by rw [zpow_add₀ two_ne_zero]; rfl
  · rcases max_choice leastExponent (Int.log 2 q - 52) with least | lead
    · exact .inl least
    · refine .inr ((le_div_iff₀ unit).mpr ?_)
      calc (2 : ℚ) ^ 52 * 2 ^ binade q = 2 ^ (52 + binade q) := by rw [zpow_add₀ two_ne_zero]; rfl
        _ = 2 ^ Int.log 2 q := by rw [binade,lead]; congr 1; ring
        _ ≤ q := by exact_mod_cast low

theorem binadeOf {q : ℚ} {m : ℕ} {e : ℤ} (value : q = m * 2 ^ e) (above : m ≠ 0)
    (bits : m < 2 ^ 53) (least : leastExponent ≤ e) (full : e = leastExponent ∨ 2 ^ 52 ≤ m) :
    binade q = e := by
  have one : (1 : ℚ) ≤ m := by exact_mod_cast Nat.one_le_iff_ne_zero.mpr above
  have positive : 0 < q := by rw [value]; positivity
  have most : q < 2 ^ (e + 53) := by
    rw [value,zpow_add₀ two_ne_zero,mul_comm]
    gcongr
    exact_mod_cast bits
  have high := (Int.lt_zpow_iff_log_lt Nat.one_lt_two positive).mp (by exact_mod_cast most)
  rcases full with same | full
  · unfold binade
    omega
  · have low : (2 : ℚ) ^ (e + 52) ≤ q := by
      rw [value,zpow_add₀ two_ne_zero,mul_comm]
      gcongr
      exact_mod_cast full
    have low := (Int.zpow_le_iff_le_log Nat.one_lt_two positive).mp (by exact_mod_cast low)
    unfold binade
    omega

def placed (negative : Bool) (m : ℕ) (e : ℤ) : Binary64 :=
  let (m,e) := if m = 2 ^ 53 then (2 ^ 52,e + 1) else (m,e)
  if greatestExponent < e then .infinite negative
  else if m = 0 then zero negative
  else .finite negative m e

theorem placedCarry (negative : Bool) (e : ℤ) : placed negative (2 ^ 53) e =
    if greatestExponent < e + 1 then .infinite negative else .finite negative (2 ^ 52) (e + 1) := by
  simp only [placed,if_true]
  split <;> rfl

theorem placedPlain (negative : Bool) {m : ℕ} (e : ℤ) (plain : m ≠ 2 ^ 53) : placed negative m e =
    if greatestExponent < e then .infinite negative
    else if m = 0 then zero negative else .finite negative m e := by
  simp only [placed,if_neg plain]

theorem ofRatioPlaced (negative : Bool) {num den : ℕ} (above : 0 < num) (positive : 0 < den) :
    ∃ m, Nearest (num / den / 2 ^ binade (num / den)) m ∧
      ofRatio negative num den = placed negative m (binade (num / den)) := by
  have near := quotientNearest (scaled num den (binade (num / den))).1
    (scaledPositive num positive (binade (num / den)))
  rw [scaledValue] at near
  refine ⟨_,near,?_⟩
  unfold ofRatio
  rw [if_neg above.ne',exponentBinade above positive]
  rfl

def rounded (negative : Bool) (q : ℚ) : Binary64 := ofRatio negative q.num.natAbs q.den

theorem roundedPlaced (negative : Bool) {q : ℚ} (above : 0 < q) :
    ∃ m, Nearest (q / 2 ^ binade q) m ∧ rounded negative q = placed negative m (binade q) := by
  have whole : ((q.num.natAbs : ℕ) : ℚ) / q.den = q := by
    rw [Nat.cast_natAbs,abs_of_pos (Rat.num_pos.mpr above),Rat.num_div_den]
  have placed := ofRatioPlaced negative (Int.natAbs_pos.mpr (Rat.num_pos.mpr above).ne') q.den_pos
  rwa [whole] at placed

theorem ofRatioRounded (negative : Bool) (num : ℕ) {den : ℕ} (positive : 0 < den) :
    ofRatio negative num den = rounded negative (num / den) := by
  rcases Nat.eq_zero_or_pos num with rfl | above
  · simp [rounded,ofRatio]
  · have value : (0 : ℚ) < num / den := by positivity
    obtain ⟨m,near,first⟩ := ofRatioPlaced negative above positive
    obtain ⟨n,near',second⟩ := roundedPlaced negative value
    rw [first,second,near.unique near']

structure Normal (m : ℕ) (e : ℤ) : Prop where
  bits : m < 2 ^ 53
  least : leastExponent ≤ e
  greatest : e ≤ greatestExponent
  full : e = leastExponent ∨ 2 ^ 52 ≤ m

theorem roundedExact (negative : Bool) {m : ℕ} {e : ℤ} (normal : Normal m e) :
    rounded negative (m * 2 ^ e) = .finite negative m e := by
  rcases Nat.eq_zero_or_pos m with rfl | above
  · have least : e = leastExponent := normal.full.resolve_right (by norm_num)
    simp [rounded,ofRatio,zero,least]
  · have value : (0 : ℚ) < m * 2 ^ e := by
      have : (0 : ℚ) < m := by exact_mod_cast above
      positivity
    obtain ⟨n,near,same⟩ := roundedPlaced negative value
    rw [binadeOf rfl above.ne' normal.bits normal.least normal.full] at near same
    rw [mul_div_cancel_right₀ _ (zpow_ne_zero e two_ne_zero)] at near
    obtain rfl := near.unique (nearestWhole m)
    rw [same,placedPlain _ _ normal.bits.ne,if_neg (not_lt.mpr normal.greatest),if_neg above.ne']

theorem roundedFinite {negative sign : Bool} {q : ℚ} {m : ℕ} {e : ℤ} (above : 0 < q)
    (same : rounded negative q = .finite sign m e) : sign = negative ∧ Normal m e ∧
      ∃ n, Nearest (q / 2 ^ binade q) n ∧ (m : ℚ) * 2 ^ e = n * 2 ^ binade q := by
  obtain ⟨n,near,placing⟩ := roundedPlaced negative above
  obtain ⟨least,high,low⟩ := binadeBits above
  have bits : n ≤ 2 ^ 53 := near.below (by push_cast; exact high.le)
  have full : binade q = leastExponent ∨ 2 ^ 52 ≤ n :=
    low.imp_right fun low => near.above (by push_cast; exact low)
  rw [placing] at same
  by_cases carry : n = 2 ^ 53
  · rw [carry,placedCarry] at same
    split at same
    · cases same
    rename_i reach
    cases same
    refine ⟨rfl,⟨by norm_num,by omega,not_lt.mp reach,.inr (le_refl _)⟩,n,near,?_⟩
    rw [carry,zpow_add_one₀ two_ne_zero]
    push_cast
    ring
  · rw [placedPlain _ _ carry] at same
    split at same
    · cases same
    rename_i reach
    split at same
    · rename_i vanishes
      cases same
      refine ⟨rfl,⟨by norm_num,le_refl _,by decide,.inl rfl⟩,n,near,?_⟩
      simp [vanishes]
    · cases same
      exact ⟨rfl,⟨by omega,least,not_lt.mp reach,full⟩,m,near,rfl⟩

theorem roundedSign (negative : Bool) {q : ℚ} {m : ℕ} {e : ℤ}
    (same : rounded false q = .finite false m e) : rounded negative q = .finite negative m e := by
  rcases Nat.eq_zero_or_pos q.num.natAbs with vanishes | above
  · rw [rounded,ofRatio,if_pos vanishes] at same ⊢
    cases same
    rfl
  · obtain ⟨n,near,placing⟩ := ofRatioPlaced false above q.den_pos
    obtain ⟨k,near',placing'⟩ := ofRatioPlaced negative above q.den_pos
    rw [rounded,placing] at same
    rw [rounded,placing',near'.unique near]
    by_cases carry : n = 2 ^ 53
    · rw [carry,placedCarry] at same ⊢
      split_ifs at same ⊢
      cases same
      rfl
    · rw [placedPlain _ _ carry] at same ⊢
      split_ifs at same ⊢ <;> (cases same; rfl)

theorem roundedFar (negative : Bool) {q : ℚ} (far : (2 : ℚ) ^ (1024 : ℤ) ≤ q) :
    rounded negative q = .infinite negative := by
  have above : 0 < q := lt_of_lt_of_le (by positivity) far
  obtain ⟨n,-,placing⟩ := roundedPlaced negative above
  have lead := (Int.zpow_le_iff_le_log Nat.one_lt_two above).mp (by rwa [Nat.cast_ofNat])
  have reach : greatestExponent < binade q := by
    unfold greatestExponent binade
    omega
  rw [placing]
  by_cases carry : n = 2 ^ 53
  · rw [carry,placedCarry,if_pos (by omega)]
  · rw [placedPlain _ _ carry,if_pos reach]

theorem roundedTiny (negative : Bool) {q : ℚ} (nonneg : 0 ≤ q) (tiny : q < 2 ^ (-1075 : ℤ)) :
    rounded negative q = zero negative := by
  rcases nonneg.eq_or_lt with rfl | above
  · simp [rounded,ofRatio]
  obtain ⟨n,near,placing⟩ := roundedPlaced negative above
  have high := (Int.lt_zpow_iff_log_lt Nat.one_lt_two above).mp (by rwa [Nat.cast_ofNat])
  have least : binade q = leastExponent := by
    unfold binade leastExponent
    omega
  have half : q / 2 ^ binade q < 1 / 2 := by
    rw [least,div_lt_iff₀ (by positivity)]
    refine tiny.trans_eq ?_
    rw [show (-1075 : ℤ) = leastExponent - 1 from rfl,zpow_sub_one₀ two_ne_zero]
    ring
  have vanishes : n = 0 := by
    by_contra counts
    have one : (1 : ℚ) ≤ n := by exact_mod_cast Nat.one_le_iff_ne_zero.mpr counts
    obtain ⟨-,high⟩ := abs_le.mp near.close
    linarith
  rw [placing,vanishes,least]
  rfl

def signed (negative : Bool) (q : ℚ) : ℚ := if negative then -q else q

def value? : Binary64 → Option ℚ
  | .finite negative m e => some (signed negative (m * 2 ^ e))
  | _ => none

def nearest (q : ℚ) : Binary64 := rounded (decide (q < 0)) |q|

theorem sameSelf {x : Binary64} (number : x ≠ .nan) : x.same x = true := by
  cases x <;> simp_all [Binary64.same]

theorem sameSymm {x y : Binary64} (same : x.same y = true) : y.same x = true := by
  cases x <;> cases y <;> simp only [Binary64.same] at * <;> grind

theorem sameTrans {x y z : Binary64} (first : x.same y = true) (second : y.same z = true) :
    x.same z = true := by
  cases x <;> cases y <;> cases z <;> simp_all [Binary64.same]
  grind

theorem sameValue {x y : Binary64} (same : x.same y = true) : x.value? = y.value? := by
  cases x <;> cases y <;> simp_all [Binary64.same,value?,signed]
  rcases same with ⟨rfl,rfl⟩ | ⟨⟨rfl,rfl⟩,rfl⟩ <;> simp

theorem roundedNumber (negative : Bool) (q : ℚ) : rounded negative q ≠ .nan := by
  rcases Nat.eq_zero_or_pos q.num.natAbs with vanishes | above
  · simp [rounded,ofRatio,vanishes,zero]
  · obtain ⟨n,-,placing⟩ := ofRatioPlaced negative above q.den_pos
    rw [rounded,placing]
    by_cases carry : n = 2 ^ 53
    · rw [carry,placedCarry]
      split <;> exact Binary64.noConfusion
    · rw [placedPlain _ _ carry]
      split_ifs <;> exact Binary64.noConfusion

theorem nearestSelf (q : ℚ) : (nearest q).same (nearest q) = true := sameSelf (roundedNumber _ _)

theorem roundedNearest (negative : Bool) {q : ℚ} (nonneg : 0 ≤ q) :
    (rounded negative q).same (nearest (signed negative q)) = true := by
  rcases nonneg.eq_or_lt with rfl | above
  · cases negative <;> rfl
  · have sign : decide (signed negative q < 0) = negative := by
      cases negative
      · simpa [signed] using nonneg
      · simpa [signed] using above
    have size : |signed negative q| = q := by
      cases negative <;> simp [signed,abs_of_nonneg nonneg]
    rw [nearest,sign,size]
    exact sameSelf (roundedNumber _ _)

theorem nearestExact (negative : Bool) {m : ℕ} {e : ℤ} (normal : Normal m e) :
    (Binary64.finite negative m e).same (nearest (signed negative (m * 2 ^ e))) = true := by
  rw [← roundedExact negative normal]
  exact roundedNearest negative (by positivity)

theorem integerNormal {n : ℕ} (above : 0 < n) (small : n < 2 ^ 53) :
    ∃ m e, Normal m e ∧ (m : ℚ) * 2 ^ e = n := by
  have low := Nat.log2_self_le above.ne'
  have high : n < 2 ^ (n.log2 + 1) := Nat.lt_log2_self
  have log : n.log2 ≤ 52 := Nat.le_of_lt_succ ((Nat.log2_lt above.ne').mpr small)
  obtain ⟨k,hk⟩ : ∃ k, n.log2 + k = 52 := ⟨52 - n.log2,by omega⟩
  refine ⟨n * 2 ^ k,-k,⟨?_,?_,?_,.inr ?_⟩,?_⟩
  · calc n * 2 ^ k < 2 ^ (n.log2 + 1) * 2 ^ k := by gcongr
      _ = 2 ^ 53 := by rw [← pow_add]; congr 1; omega
  · unfold leastExponent
    omega
  · unfold greatestExponent
    omega
  · calc 2 ^ 52 = 2 ^ n.log2 * 2 ^ k := by rw [← pow_add,hk]
      _ ≤ n * 2 ^ k := by gcongr
  · push_cast
    rw [mul_assoc,← zpow_natCast,← zpow_add₀ two_ne_zero,add_neg_cancel,zpow_zero,mul_one]

theorem nearestSmall {n : ℤ} (small : n.natAbs < 2 ^ 53) : (nearest n).value? = some (n : ℚ) := by
  rcases eq_or_ne n 0 with rfl | nonzero
  · simp [nearest,rounded,ofRatio,zero,value?,signed]
  · obtain ⟨m,e,normal,value⟩ := integerNormal (Int.natAbs_pos.mpr nonzero) small
    rw [nearest,← Int.cast_abs,Int.abs_eq_natAbs,Int.cast_natCast,← value,roundedExact _ normal,value?,
      value,Nat.cast_natAbs,signed]
    rcases lt_or_ge n 0 with negative | positive
    · simp [negative,abs_of_neg]
    · simp [not_lt.mpr positive,abs_of_nonneg positive]

theorem roundedLarge {negative sign : Bool} {q : ℚ} {m : ℕ} {e : ℤ} (large : 2 ^ 53 ≤ q)
    (same : rounded negative q = .finite sign m e) : (2 : ℚ) ^ 53 ≤ m * 2 ^ e := by
  have above : 0 < q := lt_of_lt_of_le (by positivity) large
  obtain ⟨-,-,n,near,value⟩ := roundedFinite above same
  have log : 53 ≤ Int.log 2 q :=
    (Int.zpow_le_iff_le_log Nat.one_lt_two above).mp (by rw [Nat.cast_ofNat]; exact large)
  have lead : 1 ≤ binade q := by
    unfold binade
    omega
  have full : (2 : ℚ) ^ 52 ≤ q / 2 ^ binade q := by
    obtain ⟨-,-,least | full⟩ := binadeBits above
    · rw [least] at lead
      exact absurd lead (by decide)
    · exact full
  have bits : 2 ^ 52 ≤ n := near.above (by push_cast; exact full)
  calc (2 : ℚ) ^ 53 = (2 ^ 52 : ℕ) * 2 ^ (1 : ℤ) := by norm_num
    _ ≤ n * 2 ^ binade q := by
      gcongr
      · exact one_le_two
    _ = m * 2 ^ e := value.symm

theorem nearestLarge {n : ℤ} (large : 2 ^ 53 ≤ n.natAbs) {r : ℚ}
    (value : (nearest n).value? = some r) : 2 ^ 53 ≤ |r| := by
  have size : (2 : ℚ) ^ 53 ≤ |(n : ℚ)| := by
    rw [← Int.cast_abs,Int.abs_eq_natAbs,Int.cast_natCast]
    exact_mod_cast large
  unfold nearest at value
  generalize made : rounded (decide ((n : ℚ) < 0)) |(n : ℚ)| = x at value
  cases x with
  | nan => cases value
  | infinite _ => cases value
  | finite sign m e =>
    cases Option.some.inj value
    have reach := roundedLarge size made
    have nonneg : (0 : ℚ) ≤ m * 2 ^ e := by positivity
    cases sign <;> simpa [signed,abs_of_nonneg nonneg] using reach

theorem nearestApart {n m : ℤ} (small : n.natAbs < 2 ^ 53)
    (same : (nearest n).same (nearest m) = true) : n = m := by
  have value := sameValue same
  rw [nearestSmall small] at value
  by_cases small' : m.natAbs < 2 ^ 53
  · rw [nearestSmall small'] at value
    exact_mod_cast Option.some.inj value
  · have large := nearestLarge (not_lt.mp small') value.symm
    rw [← Int.cast_abs,Int.abs_eq_natAbs,Int.cast_natCast] at large
    have large : 2 ^ 53 ≤ n.natAbs := by exact_mod_cast large
    omega

end Binary64
end SignedUpload.Decimal

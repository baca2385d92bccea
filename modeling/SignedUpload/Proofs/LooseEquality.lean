import SignedUpload.Policy.Response
import SignedUpload.Proofs.ShortestText
import SignedUpload.Proofs.Spellings

/-! Loose equality of a status and the expected text: the same text without blanks at its ends, or two
spellings of one binary number. It is an equivalence, and no spelling of a number is told from
another. Integers are told apart as long as they are rounded to different numbers. -/
namespace SignedUpload

namespace Decimal

theorem digitsBare {ds : List Char} (all : ds.all isDigit = true) :
    ∀ c ∈ ds, Text.isBlank c = false :=
  fun c mem => digitShown (List.all_eq_true.mp all c mem)

theorem Mantissa.shown {b : List Char} {m places : Nat} (mantissa : Mantissa b m places) :
    ∀ c ∈ b, Text.isBlank c = false := by
  cases mantissa with
  | whole nonempty all => exact digitsBare all
  | point nonempty all all' =>
    intro c mem
    rcases List.mem_append.mp mem with first | last
    · exact digitsBare all c first
    · rcases List.mem_cons.mp last with rfl | last
      · decide
      · exact digitsBare all' c last

theorem Power.shown {c : List Char} {e : Int} (power : Power c e) :
    ∀ d ∈ c, Text.isBlank d = false := by
  cases power with
  | none => simp
  | marked marks sign nonempty all =>
    intro d mem
    rcases List.mem_cons.mp mem with rfl | mem
    · rcases marks with rfl | rfl <;> decide
    · rcases List.mem_append.mp mem with first | last
      · exact sign.shown d first
      · exact digitsBare all d last

theorem Denotes.trimmed {t : String} {r : ℚ} (denotes : Denotes t r) : Text.trim t = t := by
  obtain ⟨negative,m,e,spells,-⟩ := denotes
  refine Text.trimShown ?_
  generalize t.toList = s at spells
  obtain ⟨sign,mantissa,power⟩ := spells
  intro c mem
  rcases List.mem_append.mp mem with first | mem
  · exact sign.shown c first
  · rcases List.mem_append.mp mem with first | last
    · exact mantissa.shown c first
    · exact power.shown c last

def Alike (a b : String) : Prop :=
  a = b ∨ ∃ x y, binary64? a = some x ∧ binary64? b = some y ∧ x.same y = true

theorem Alike.symm {a b : String} (alike : Alike a b) : Alike b a := by
  rcases alike with rfl | ⟨x,y,left,right,same⟩
  · exact .inl rfl
  · exact .inr ⟨y,x,right,left,Binary64.sameSymm same⟩

theorem Alike.trans {a b c : String} (first : Alike a b) (second : Alike b c) : Alike a c := by
  rcases first with rfl | ⟨x,y,left,right,same⟩
  · exact second
  rcases second with rfl | ⟨y',z,left',right',same'⟩
  · exact .inr ⟨x,y,left,right,same⟩
  -- The text in the middle is read as one number, so both sides are compared with that one.
  · obtain rfl := Option.some.inj (right.symm.trans left')
    exact .inr ⟨x,z,left,right',Binary64.sameTrans same same'⟩

def Nears (t : String) (r : ℚ) : Prop :=
  ∃ x, binary64? t = some x ∧ x.same (Binary64.nearest r) = true

theorem Nears.alike {a b : String} {q r : ℚ} (first : Nears a q) (second : Nears b r) :
    Alike a b ↔ (Binary64.nearest q).same (Binary64.nearest r) = true := by
  obtain ⟨x,left,near⟩ := first
  obtain ⟨y,right,near'⟩ := second
  constructor
  · rintro (rfl | ⟨x',y',left',right',same⟩)
    · obtain rfl := Option.some.inj (left.symm.trans right)
      exact Binary64.sameTrans (Binary64.sameSymm near) near'
    · obtain rfl := Option.some.inj (left.symm.trans left')
      obtain rfl := Option.some.inj (right.symm.trans right')
      exact Binary64.sameTrans (Binary64.sameSymm near) (Binary64.sameTrans same near')
  · intro same
    exact .inr ⟨x,y,left,right,
      Binary64.sameTrans near (Binary64.sameTrans same (Binary64.sameSymm near'))⟩

end Decimal

open Json (Value)
open Decimal (Alike Nears Denotes Integral Binary64)

theorem matchesAlike (actual : Value) (expected : String) :
    statusMatches actual expected = true ↔ Alike (looseText actual) (Text.trim expected) := by
  simp only [statusMatches,Bool.or_eq_true,beq_iff_eq,Alike,sameNumber]
  refine or_congr_right ?_
  split
  · rename_i x y left right
    simp [left,right]
  · rename_i other
    refine iff_of_false (by simp) ?_
    rintro ⟨x,y,left,right,-⟩
    exact other x y left right

namespace Json

inductive Number.Holds : Number → ℚ → Prop where
  | integer {n : Int} : Holds (.integer n) n
  | real {negative m e} (normal : Binary64.Normal m e) :
      Holds (.real (.finite negative m e)) (Binary64.signed negative (m * 2 ^ e))

theorem Number.Holds.printed {n : Number} {r : ℚ} (holds : n.Holds r) : Nears n.text r := by
  cases holds with
  | integer => exact (Decimal.intTextIntegral _).denotes.binary
  | real normal => exact ⟨_,Decimal.realPrinted _ normal,Binary64.nearestExact _ normal⟩

inductive Value.Whole : Value → Int → Prop where
  | number {n} : Whole (.number (.integer n)) n
  | text {s n} (integral : Integral (Text.trimChars s.toList) n) : Whole (.string s) n

end Json

theorem wholePrinted {v : Value} {n : Int} (whole : v.Whole n) : Nears (looseText v) n := by
  cases whole with
  | number => exact Json.Number.Holds.integer.printed
  | @text s n integral =>
    have spelled : Integral (looseText (.string s)).toList n := by
      rwa [looseText,Text.trim,String.toList_ofList]
    exact spelled.denotes.binary

/-- Loose equality is reflexive, symmetric and transitive on texts, blanks at the ends of either side
do not count, and a number equals every spelling of its value. -/
theorem looseEquivalence :
    (∀ a, statusMatches (.string a) a = true) ∧
    (∀ a b, statusMatches (.string a) b = true → statusMatches (.string b) a = true) ∧
    (∀ a b c, statusMatches (.string a) b = true → statusMatches (.string b) c = true →
      statusMatches (.string a) c = true) ∧
    (∀ a b before after, Text.blank before = true → Text.blank after = true →
      statusMatches (.string (before ++ a ++ after)) b = statusMatches (.string a) b) ∧
    (∀ v b before after, Text.blank before = true → Text.blank after = true →
      statusMatches v (before ++ b ++ after) = statusMatches v b) ∧
    ∀ (n : Json.Number) r t, n.Holds r → Denotes t r → statusMatches (.number n) t = true := by
  refine ⟨?_,?_,?_,?_,?_,?_⟩
  · intro a
    exact (matchesAlike _ _).mpr (.inl rfl)
  · intro a b same
    exact (matchesAlike _ _).mpr ((matchesAlike _ _).mp same).symm
  · intro a b c first second
    exact (matchesAlike _ _).mpr (((matchesAlike _ _).mp first).trans ((matchesAlike _ _).mp second))
  · intro a b before after blank blank'
    simp only [statusMatches,looseText,Text.trimPadded blank blank']
  · intro v b before after blank blank'
    simp only [statusMatches,Text.trimPadded blank blank']
  · intro n r t holds denotes
    rw [matchesAlike,denotes.trimmed]
    exact (holds.printed.alike denotes.binary).mpr (Binary64.nearestSelf r)

theorem halfSpelled : Denotes "15e-1" (3 / 2) := by
  have text : "15e-1".toList = [] ++ (['1','5'] ++ 'e' :: (['-'] ++ ['1'])) := by decide
  have mantissa : Decimal.Mantissa ['1','5'] 15 0 := .whole (by decide) (by decide)
  have power : Decimal.Power ('e' :: (['-'] ++ ['1'])) (-1) :=
    .marked (.inl rfl) .minus (by decide) (by decide)
  refine ⟨false,15,-1,?_,by norm_num [Binary64.signed]⟩
  rw [text]
  exact .of .none mantissa power

theorem halfHeld : Json.Number.Holds (.real (.finite false (3 * 2 ^ 51) (-52))) (3 / 2) := by
  have normal : Binary64.Normal (3 * 2 ^ 51) (-52) :=
    ⟨by norm_num,by decide,by decide,.inr (by norm_num)⟩
  have value : Binary64.signed false ((3 * 2 ^ 51 : ℕ) * 2 ^ (-52 : ℤ)) = 3 / 2 := by
    norm_num [Binary64.signed]
  exact value ▸ .real normal

theorem halfMatches :
    Text.blank " " = true ∧ statusMatches (.string "1.50") ".15E1" = true ∧
    statusMatches (.string ".15E1") "15e-1" = true ∧
    statusMatches (.string "1.50") "15e-1" = true ∧
    statusMatches (.string "15e-1") "1.50" = true ∧
    statusMatches (.string (" " ++ "15e-1" ++ " ")) (" " ++ "1.50" ++ " ") = true ∧
    statusMatches (.number (.real (.finite false (3 * 2 ^ 51) (-52)))) "15e-1" = true := by
  obtain ⟨-,symmetric,transitive,actual,expected,numbers⟩ := looseEquivalence
  have blank : Text.blank " " = true := by decide
  have first : statusMatches (.string "1.50") ".15E1" = true := by decide +kernel
  have second : statusMatches (.string ".15E1") "15e-1" = true := by decide +kernel
  have across := transitive _ _ _ first second
  have back := symmetric _ _ across
  refine ⟨blank,first,second,across,back,?_,numbers _ _ _ halfHeld halfSpelled⟩
  rw [actual _ _ _ _ blank blank,expected _ _ _ _ blank blank]
  exact back

/-- An integer equals the expected one just when both are rounded to one number, so an integer below
53 bits is confused with no other. -/
theorem integerMatches {v : Value} {n m : Int} {expected : String} (whole : v.Whole n)
    (integral : Integral (Text.trimChars expected.toList) m) :
    (statusMatches v expected = true ↔
      (Binary64.nearest n).same (Binary64.nearest m) = true) ∧
    ((statusMatches v expected = true ↔ n = m) ↔
      n = m ∨ (Binary64.nearest n).same (Binary64.nearest m) = false) ∧
    (n.natAbs < 2 ^ 53 ∨ m.natAbs < 2 ^ 53 → (statusMatches v expected = true ↔ n = m)) := by
  have asked : Value.Whole (.string expected) m := .text integral
  have spelled := wholePrinted asked
  rw [looseText] at spelled
  have rounds := (matchesAlike v expected).trans ((wholePrinted whole).alike spelled)
  refine ⟨rounds,?_,?_⟩
  · rw [rounds]
    by_cases same : n = m
    · subst same
      simp [Binary64.nearestSelf]
    · simp [same]
  · intro small
    rw [rounds]
    constructor
    · intro same
      rcases small with small | small
      · exact Binary64.nearestApart small same
      · exact (Binary64.nearestApart small (Binary64.sameSymm same)).symm
    · rintro rfl
      exact Binary64.nearestSelf n

theorem zeroPadded : Integral (Text.trimChars " 0200 ".toList) 200 := by
  have text : Text.trimChars " 0200 ".toList = [] ++ ['0','2','0','0'] := by decide +kernel
  have value : Decimal.signedInteger false (Decimal.ofDigits ['0','2','0','0']) = 200 := by decide
  rw [text,← value]
  exact .of .none (by decide) (by decide)

theorem smallCodeMatches : Value.Whole (.number (.integer 200)) 200 ∧
    Integral (Text.trimChars " 0200 ".toList) 200 ∧
    statusMatches (.number (.integer 200)) " 0200 " = true := by
  have whole : Value.Whole (.number (.integer 200)) 200 := .number
  have integral : Integral (Text.trimChars " 0200 ".toList) 200 :=
    zeroPadded
  exact ⟨whole,integral,((integerMatches whole integral).2.2 (.inl (by decide))).mpr rfl⟩

theorem neighboursConfused : ¬∀ n m : Int, -2 ^ 63 ≤ n → n < 2 ^ 64 →
    (statusMatches (.number (.integer n)) (Decimal.intText m) = true ↔ n = m) := by
  intro textual
  have same := (textual (2 ^ 53) (2 ^ 53 + 1) (by decide) (by decide)).mp (by decide +kernel)
  exact absurd same (by decide)

end SignedUpload

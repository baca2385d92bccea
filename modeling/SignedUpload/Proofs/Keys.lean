import SignedUpload.Proofs.Dispatch
import SignedUpload.Proofs.IntegerText
import Mathlib.Data.List.Nodup

/-! The keys of a batch. A key is new among the keys of its batch, however often it had to be drawn, and
is spelled from its own reading of the clock, five digits and the name of its file. -/
namespace SignedUpload

namespace Decimal

theorem paddedLength {width n : Nat} (positive : 0 < width) (fits : n < Nat.pow 10 width) :
    (padded width n).toList.length = width := by
  have short := (Nat.length_toDigits_le_iff (by decide) positive).mpr fits
  simp only [padded,String.toList_ofList,List.length_append,List.length_replicate,digits]
  omega

theorem paddedDigit {width n : Nat} {c : Char} (mem : c ∈ (padded width n).toList) :
    isDigit c = true := by
  rw [padded,String.toList_ofList] at mem
  rcases List.mem_append.mp mem with zero | digit
  · rw [List.eq_of_mem_replicate zero]
    rfl
  · exact digitsDigit digit

theorem natTextDigit {n : Nat} {c : Char} (mem : c ∈ (natText n).toList) : isDigit c = true := by
  rw [natText,String.toList_ofList] at mem
  exact digitsDigit mem

theorem intTextSign {n : Int} {c : Char} (mem : c ∈ (intText n).toList) :
    c = '-' ∨ isDigit c = true := by
  unfold intText at mem
  split at mem
  · rw [String.toList_append] at mem
    rcases List.mem_append.mp mem with minus | digit
    · exact .inl (List.mem_singleton.mp minus)
    · exact .inr (natTextDigit digit)
  · exact .inr (natTextDigit mem)

end Decimal

open Decimal (intText padded isDigit)

def Spelled (leading : String) (millis : Int) (name key : String) : Prop :=
  ∃ five : String, key = leading ++ intText millis ++ "-" ++ five ++ "-" ++ name ∧
    five.toList.length = 5 ∧ ∀ c ∈ five.toList, isDigit c = true

theorem keySpelled (leading : String) (millis : Int) (suffix : Suffix) (name : String) :
    Spelled leading millis name (objectKey leading millis suffix name) :=
  ⟨padded 5 suffix.val,rfl,Decimal.paddedLength (by decide) suffix.isLt,
    fun _ mem => Decimal.paddedDigit mem⟩

theorem Spelled.flat {leading name key : String} {millis : Int}
    (spelled : Spelled leading millis name key) (plain : '/' ∉ name.toList) :
    ∃ rest, key = leading ++ rest ∧ '/' ∉ rest.toList := by
  obtain ⟨five,rfl,-,digit⟩ := spelled
  refine ⟨intText millis ++ "-" ++ five ++ "-" ++ name,by simp only [String.append_assoc],?_⟩
  have sign : '/' ∉ (intText millis).toList := fun mem =>
    absurd (Decimal.intTextSign mem) (by decide)
  have digits : '/' ∉ five.toList := fun mem => absurd (digit _ mem) (by decide)
  simp only [String.toList_append,List.mem_append,not_or]
  exact ⟨⟨⟨⟨sign,by decide⟩,digits⟩,by decide⟩,plain⟩

namespace KeyIssuer

theorem nextNew {issuer later : KeyIssuer} {millis : Int} {name key : String}
    {draws rest : List Suffix} (drawn : issuer.next? millis name draws = some (key,later,rest)) :
    key ∉ issuer.issued ∧ later = { issuer with issued := key :: issuer.issued } ∧
      ∃ suffix ∈ draws, key = objectKey issuer.leading millis suffix name := by
  induction draws with
  | nil => cases drawn
  | cons suffix draws ih =>
    simp only [next?] at drawn
    split at drawn
    · obtain ⟨new,same,suffix',mem,spelled⟩ := ih drawn
      exact ⟨new,same,suffix',List.mem_cons_of_mem _ mem,spelled⟩
    · rename_i new
      simp only [Option.some.injEq,Prod.mk.injEq] at drawn
      obtain ⟨rfl,rfl,rfl⟩ := drawn
      exact ⟨new,rfl,suffix,List.mem_cons_self,rfl⟩

end KeyIssuer

namespace Uploader

inductive Keyed (leading : String) : List String → List Int → List Job → Prop where
  | nil {issued clock} : Keyed leading issued clock []
  | cons {issued millis clock job jobs suffix}
      (spelled : job.key = objectKey leading millis suffix job.name) (new : job.key ∉ issued)
      (later : Keyed leading (job.key :: issued) clock jobs) :
      Keyed leading issued (millis :: clock) (job :: jobs)

theorem dispatchKeyed {issuer : KeyIssuer} {supply : Supply} {position : Nat}
    {files sent : List PendingFile} {ids : List FileId} {jobs : List Job}
    (given : dispatch issuer supply position files ids = some (jobs,sent)) :
    Keyed issuer.leading issuer.issued supply.clock jobs := by
  induction ids generalizing issuer supply position files jobs sent with
  | nil =>
    simp only [dispatch,Option.some.injEq,Prod.mk.injEq] at given
    obtain ⟨rfl,-⟩ := given
    exact .nil
  | cons id ids ih =>
    simp only [dispatch] at given
    split at given
    · exact ih given
    split at given
    · exact ih given
    split at given <;> try contradiction
    rename_i millis clock ticks
    split at given <;> try contradiction
    rename_i key issuer' draws drawn
    split at given <;> try contradiction
    rename_i later
    simp only [Option.some.injEq,Prod.mk.injEq] at given
    obtain ⟨rfl,rfl⟩ := given
    obtain ⟨new,rfl,suffix,-,spelled⟩ := KeyIssuer.nextNew drawn
    rw [ticks]
    exact .cons spelled new (ih later)

section Keyed
variable {leading : String} {issued : List String} {clock : List Int} {jobs : List Job}

theorem Keyed.apart (keyed : Keyed leading issued clock jobs) :
    ∀ job ∈ jobs, job.key ∉ issued := by
  induction keyed with
  | nil => simp
  | cons _ new _ ih =>
    intro j mem
    rcases List.mem_cons.mp mem with rfl | later
    · exact new
    · exact fun old => ih j later (List.mem_cons_of_mem _ old)

theorem Keyed.distinct (keyed : Keyed leading issued clock jobs) : (jobs.map (·.key)).Nodup := by
  induction keyed with
  | nil => exact List.nodup_nil
  | cons _ _ later ih =>
    refine List.nodup_cons.mpr ⟨fun again => ?_,ih⟩
    obtain ⟨j,mem,same⟩ := List.mem_map.mp again
    exact later.apart j mem (by simp [same])

theorem Keyed.spelled (keyed : Keyed leading issued clock jobs) : jobs.length ≤ clock.length ∧
    ∀ pair ∈ jobs.zip clock, Spelled leading pair.2 pair.1.name pair.1.key := by
  induction keyed with
  | nil => simp
  | cons spelled _ _ ih =>
    refine ⟨Nat.succ_le_succ ih.1,?_⟩
    intro pair mem
    rcases List.mem_cons.mp mem with rfl | later
    · rw [spelled]
      exact keySpelled _ _ _ _
    · exact ih.2 pair later

end Keyed

end Uploader
end SignedUpload

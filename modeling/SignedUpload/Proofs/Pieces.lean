import SignedUpload.Text.Pieces
import Mathlib.Data.List.Basic

/-! Lists cut at a separator. A piece is what stands between two separators, or between one and an end,
with no separator in it. -/
namespace SignedUpload

section Pieces
variable {α : Type} [DecidableEq α] {separator : α}

theorem piecesCons (c : α) (rest : List α) : pieces separator (c :: rest) =
    if c = separator then [] :: pieces separator rest
    else match pieces separator rest with
      | [] => [[c]]
      | p :: ps => (c :: p) :: ps := rfl

theorem piecesPlain {xs : List α} (plain : separator ∉ xs) : pieces separator xs = [xs] := by
  induction xs with
  | nil => rfl
  | cons c rest ih =>
    obtain ⟨other,plain⟩ := List.ne_and_not_mem_of_not_mem_cons plain
    rw [piecesCons,if_neg (Ne.symm other),ih plain]

theorem piecesSome (separator : α) (xs : List α) : ∃ first others,
    pieces separator xs = first :: others := by
  induction xs with
  | nil => exact ⟨_,_,rfl⟩
  | cons c rest ih =>
    obtain ⟨first,others,cut⟩ := ih
    rw [piecesCons,cut]
    split <;> exact ⟨_,_,rfl⟩

theorem piecesAppend (xs ys : List α) :
    pieces separator (xs ++ separator :: ys) = pieces separator xs ++ pieces separator ys := by
  induction xs with
  | nil => exact if_pos rfl
  | cons c rest ih =>
    obtain ⟨first,others,cut⟩ := piecesSome separator rest
    simp only [List.cons_append,piecesCons,ih,cut]
    split <;> rfl

theorem cutFirst {xs : List α} (plain : separator ∉ xs) (ys : List α) :
    cut separator (xs ++ separator :: ys) = (xs,ys) := by
  induction xs with
  | nil => exact if_pos rfl
  | cons c rest ih =>
    obtain ⟨other,plain⟩ := List.ne_and_not_mem_of_not_mem_cons plain
    simp only [List.cons_append,cut,if_neg (Ne.symm other),ih plain]

theorem piecesEmpty {xs : List α} : pieces separator xs = [[]] ↔ xs = [] := by
  constructor
  · intro empty
    cases xs with
    | nil => rfl
    | cons c rest =>
      obtain ⟨first,others,cut⟩ := piecesSome separator rest
      rw [piecesCons,cut] at empty
      split at empty <;> simp at empty
  · rintro rfl
    rfl

theorem piecesBehind {xs : List α} (plain : separator ∉ xs) (ys : List α) :
    pieces separator (xs ++ ys) = (pieces separator ys).modifyHead (xs ++ ·) := by
  obtain ⟨first,others,cut⟩ := piecesSome separator ys
  induction xs with
  | nil => simp [cut]
  | cons c rest ih =>
    obtain ⟨other,plain⟩ := List.ne_and_not_mem_of_not_mem_cons plain
    rw [List.cons_append,piecesCons,if_neg (Ne.symm other),ih plain,cut]
    rfl

theorem lastCut (separator : α) (xs : List α) : separator ∉ xs ∨
    ∃ front last, xs = front ++ separator :: last ∧ separator ∉ last := by
  induction xs with
  | nil => exact .inl List.not_mem_nil
  | cons c rest ih =>
    rcases ih with plain | ⟨front,last,rfl,plain⟩
    · by_cases same : c = separator
      · exact .inr ⟨[],rest,by rw [same]; rfl,plain⟩
      · exact .inl (List.not_mem_cons_of_ne_of_not_mem (Ne.symm same) plain)
    · exact .inr ⟨c :: front,last,rfl,plain⟩

theorem lastInduct (separator : α) {motive : List α → Prop}
    (plain : ∀ xs, separator ∉ xs → motive xs)
    (cut : ∀ front last, separator ∉ last → motive front → motive (front ++ separator :: last))
    (xs : List α) : motive xs := by
  generalize size : xs.length = n
  induction n using Nat.strongRecOn generalizing xs with
  | ind n ih =>
    rcases lastCut separator xs with whole | ⟨front,last,rfl,whole⟩
    · exact plain xs whole
    · have shorter : front.length < n := by
        rw [← size,List.length_append,List.length_cons]
        omega
      exact cut front last whole (ih _ shorter front rfl)

def Between (separator : α) (xs piece : List α) : Prop :=
  ∃ before after, xs = before ++ piece ++ after ∧
    (before = [] ∨ ∃ front, before = front ++ [separator]) ∧
    (after = [] ∨ ∃ rest, after = separator :: rest) ∧ separator ∉ piece

theorem pieceIff {xs piece : List α} : piece ∈ pieces separator xs ↔ Between separator xs piece := by
  constructor
  · induction xs using lastInduct separator with
    | plain xs plain =>
      rw [piecesPlain plain,List.mem_singleton]
      rintro rfl
      exact ⟨[],[],by simp,.inl rfl,.inl rfl,plain⟩
    | cut front last plain ih =>
      rw [piecesAppend,piecesPlain plain,List.mem_append,List.mem_singleton]
      rintro (earlier | rfl)
      · obtain ⟨before,after,rfl,edge,edge',whole⟩ := ih earlier
        refine ⟨before,after ++ separator :: last,by simp,edge,.inr ?_,whole⟩
        rcases edge' with rfl | ⟨rest,rfl⟩
        · exact ⟨last,rfl⟩
        · exact ⟨rest ++ separator :: last,by simp⟩
      · exact ⟨front ++ [separator],[],by simp,.inr ⟨front,rfl⟩,.inl rfl,plain⟩
  · rintro ⟨before,after,rfl,edge,edge',plain⟩
    have here : piece ∈ pieces separator (piece ++ after) := by
      rcases edge' with rfl | ⟨rest,rfl⟩
      · rw [List.append_nil,piecesPlain plain]
        exact List.mem_singleton_self _
      · rw [piecesAppend,piecesPlain plain]
        exact List.mem_append_left _ (List.mem_singleton_self _)
    rcases edge with rfl | ⟨front,rfl⟩
    · exact here
    · rw [List.append_assoc,List.append_assoc,List.singleton_append,piecesAppend]
      exact List.mem_append_right _ here

end Pieces
end SignedUpload

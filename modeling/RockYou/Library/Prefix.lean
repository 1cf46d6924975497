import Mathlib.Data.List.TakeWhile

/-! Conditions that hold on a beginning of a list and nowhere behind it, as comparisons with a
bound do on a sorted list. -/

namespace Prefix

variable {α : Type*} {holds : α → Bool} {list : List α}

def Initial (holds : α → Bool) (list : List α) : Prop :=
  list.Pairwise fun first later => holds later = true → holds first = true

theorem Initial.of_pairwise {precedes : α → α → Prop} (sorted : list.Pairwise precedes)
    (closed : ∀ first later, precedes first later → holds later = true → holds first = true) :
    Initial holds list :=
  sorted.imp (closed _ _)

theorem fails_behind (initial : Initial holds list) : ∀ x ∈ list.dropWhile holds, holds x = false := by
  induction list with
  | nil => simp
  | cons first list ih =>
    obtain ⟨head, tail⟩ := List.pairwise_cons.mp initial
    rw [List.dropWhile_cons]
    split
    · exact ih tail
    · next fails =>
      intro x member
      rcases List.mem_cons.mp member with rfl | behind
      · exact Bool.eq_false_iff.mpr fails
      · exact Bool.eq_false_iff.mpr fun later => fails (head x behind later)

theorem map_takeWhile (initial : Initial holds list) (update : α → α) :
    (list.takeWhile holds).map update ++ list.dropWhile holds =
      list.map fun x => if holds x then update x else x := by
  have front : (list.takeWhile holds).map update =
      (list.takeWhile holds).map fun x => if holds x then update x else x := by
    refine List.map_congr_left fun x member => ?_
    rw [if_pos (List.mem_takeWhile_imp member)]
  have back : ((list.dropWhile holds).map fun x => if holds x then update x else x) =
      list.dropWhile holds := by
    refine (List.map_congr_left fun x member => ?_).trans (List.map_id _)
    rw [fails_behind initial x member]
    rfl
  calc (list.takeWhile holds).map update ++ list.dropWhile holds
    _ = (list.takeWhile holds ++ list.dropWhile holds).map fun x =>
          if holds x then update x else x := by rw [List.map_append, front, back]
    _ = list.map fun x => if holds x then update x else x := by
          rw [List.takeWhile_append_dropWhile]

theorem insert_pairwise {precedes : α → α → Prop} (sorted : list.Pairwise precedes)
    (initial : Initial holds list) {x : α} (before : ∀ y, holds y = true → precedes y x)
    (behind : ∀ y, holds y = false → precedes x y) :
    (list.takeWhile holds ++ x :: list.dropWhile holds).Pairwise precedes := by
  rw [← List.takeWhile_append_dropWhile (p := holds) (l := list)] at sorted
  obtain ⟨front, back, across⟩ := List.pairwise_append.mp sorted
  refine List.pairwise_append.mpr ⟨front, ?_, ?_⟩
  · exact List.pairwise_cons.mpr ⟨fun y member => behind y (fails_behind initial y member), back⟩
  · intro y first z later
    rcases List.mem_cons.mp later with rfl | rest
    · exact before y (List.mem_takeWhile_imp first)
    · exact across y first z rest

theorem take_length (holds : α → Bool) (list : List α) :
    list.take (list.takeWhile holds).length = list.takeWhile holds := by
  have whole := List.takeWhile_append_dropWhile (p := holds) (l := list)
  calc list.take (list.takeWhile holds).length
    _ = (list.takeWhile holds ++ list.dropWhile holds).take (list.takeWhile holds).length := by
          rw [whole]
    _ = list.takeWhile holds := List.take_left' rfl

theorem drop_length (holds : α → Bool) (list : List α) :
    list.drop (list.takeWhile holds).length = list.dropWhile holds := by
  have whole := List.takeWhile_append_dropWhile (p := holds) (l := list)
  calc list.drop (list.takeWhile holds).length
    _ = (list.takeWhile holds ++ list.dropWhile holds).drop (list.takeWhile holds).length := by
          rw [whole]
    _ = list.dropWhile holds := List.drop_left' rfl

end Prefix

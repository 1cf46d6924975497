import Mathlib.Data.List.Basic

/-! Checksums that combine the words of a message by an associative and commutative operation. -/

namespace Checksum

variable {α : Type*} (op : α → α → α) {unit : α}

def total (unit : α) (message : List α) : α := message.foldl op unit

section Total

variable [Std.Associative op] [Std.LawfulIdentity op unit]

theorem total_from (start : α) (message : List α) :
    message.foldl op start = op start (total op unit message) := by
  induction message generalizing start with
  | nil => exact (Std.LawfulRightIdentity.right_id start).symm
  | cons word message ih =>
    have first : total op unit (word :: message) = op word (total op unit message) := by
      rw [total, List.foldl_cons, @Std.LawfulLeftIdentity.left_id _ _ op unit, ih]
    rw [List.foldl_cons, ih, first]
    exact Std.Associative.assoc ..

theorem total_cons (word : α) (message : List α) :
    total op unit (word :: message) = op word (total op unit message) := by
  rw [total, List.foldl_cons, @Std.LawfulLeftIdentity.left_id _ _ op unit, total_from]

theorem total_append (left right : List α) :
    total op unit (left ++ right) = op (total op unit left) (total op unit right) := by
  rw [total, List.foldl_append, total_from]
  rfl

/-- Where the operation cancels, every replacement of one word is detected. -/
theorem total_replace [Std.Commutative op]
    (cancel : ∀ start left right, op start left = op start right → left = right)
    (front back : List α) {word other : α} :
    total op unit (front ++ word :: back) = total op unit (front ++ other :: back) ↔
      word = other := by
  constructor
  · intro same
    rw [total_append, total_append, total_cons, total_cons] at same
    have swapped := cancel _ _ _ same
    rw [@Std.Commutative.comm _ op _ word, @Std.Commutative.comm _ op _ other] at swapped
    exact cancel _ _ _ swapped
  · rintro rfl
    rfl

end Total

end Checksum

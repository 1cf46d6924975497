import Mathlib.Algebra.Order.Ring.Nat
import Mathlib.Tactic.Ring

/-! Numerals in a base, the most significant digit first: the value that a reader accumulates from
left to right, and the numerals of a fixed width that a writer prints. -/

namespace Positional

variable {base : Nat}

def value (base : Nat) (digits : List Nat) : Nat :=
  digits.foldl (fun read digit => read * base + digit) 0

def padded (base : Nat) : Nat → Nat → List Nat
  | 0, _ => []
  | width + 1, number => padded base width (number / base) ++ [number % base]

@[simp] theorem value_nil : value base [] = 0 := rfl

theorem value_from (digits : List Nat) (read : Nat) :
    digits.foldl (fun read digit => read * base + digit) read =
      read * base ^ digits.length + value base digits := by
  induction digits generalizing read with
  | nil => simp
  | cons digit digits ih =>
    have first : value base (digit :: digits) = digit * base ^ digits.length + value base digits := by
      rw [value, List.foldl_cons, ih, Nat.zero_mul, Nat.zero_add]
    rw [List.foldl_cons, ih, first, List.length_cons, pow_succ]
    ring

theorem value_cons (digit : Nat) (digits : List Nat) :
    value base (digit :: digits) = digit * base ^ digits.length + value base digits := by
  rw [value, List.foldl_cons, value_from, Nat.zero_mul, Nat.zero_add]

theorem value_append (left right : List Nat) :
    value base (left ++ right) = value base left * base ^ right.length + value base right := by
  rw [value, List.foldl_append, value_from]
  rfl

theorem value_lt {digits : List Nat} (small : ∀ digit ∈ digits, digit < base) :
    value base digits < base ^ digits.length := by
  induction digits with
  | nil => simp
  | cons digit digits ih =>
    rw [List.forall_mem_cons] at small
    have rest := ih small.2
    have first : (digit + 1) * base ^ digits.length ≤ base * base ^ digits.length :=
      Nat.mul_le_mul_right _ small.1
    rw [value_cons, List.length_cons, pow_succ, Nat.mul_comm (base ^ _)]
    rw [Nat.add_mul, Nat.one_mul] at first
    omega

@[simp] theorem padded_length (width number : Nat) : (padded base width number).length = width := by
  induction width generalizing number with
  | zero => rfl
  | succ width ih => rw [padded, List.length_append, ih, List.length_singleton]

theorem padded_lt (positive : 0 < base) {width number digit : Nat}
    (member : digit ∈ padded base width number) : digit < base := by
  induction width generalizing number with
  | zero => exact absurd member List.not_mem_nil
  | succ width ih =>
    rw [padded, List.mem_append, List.mem_singleton] at member
    rcases member with front | rfl
    · exact ih front
    · exact Nat.mod_lt _ positive

theorem value_padded {width number : Nat} (fits : number < base ^ width) :
    value base (padded base width number) = number := by
  induction width generalizing number with
  | zero =>
    rw [pow_zero] at fits
    rw [padded, value_nil]
    omega
  | succ width ih =>
    rw [pow_succ] at fits
    have front := ih (Nat.div_lt_of_lt_mul (by rwa [Nat.mul_comm] at fits))
    rw [padded, value_append, front, List.length_singleton, pow_one, value_cons, value_nil,
      List.length_nil, pow_zero, Nat.mul_one, Nat.add_zero]
    exact Nat.div_add_mod' number base

/-- The digits behind a point, cut or filled up to so many places. -/
def places (count : Nat) (digits : List Nat) : List Nat :=
  (digits ++ List.replicate count 0).take count

@[simp] theorem places_zero (digits : List Nat) : places 0 digits = [] := List.take_zero

theorem places_nil (count : Nat) : places count [] = List.replicate count 0 := by
  rw [places, List.nil_append, List.take_replicate, Nat.min_self]

theorem places_succ (count digit : Nat) (digits : List Nat) :
    places (count + 1) (digit :: digits) = digit :: places count digits := by
  rw [places, List.cons_append, List.take_succ_cons, List.replicate_succ', ← List.append_assoc,
    List.take_append_of_le_length (by simp), places]

@[simp] theorem places_length (count : Nat) (digits : List Nat) :
    (places count digits).length = count := by
  simp [places]

theorem places_lt (positive : 0 < base) {count digit : Nat} {digits : List Nat}
    (small : ∀ digit ∈ digits, digit < base) (member : digit ∈ places count digits) :
    digit < base := by
  rcases List.mem_append.mp (List.mem_of_mem_take member) with present | filler
  · exact small digit present
  · rw [List.eq_of_mem_replicate filler]
    exact positive

theorem places_eq {count : Nat} {digits : List Nat} (few : digits.length ≤ count) :
    places count digits = digits ++ List.replicate (count - digits.length) 0 := by
  rw [places, List.take_append, List.take_of_length_le few, List.take_replicate,
    Nat.min_eq_left (by omega)]

theorem value_zeros (count : Nat) : value base (List.replicate count 0) = 0 := by
  induction count with
  | zero => rfl
  | succ count ih => rw [List.replicate_succ, value_cons, ih, Nat.zero_mul]

theorem value_places {count : Nat} {digits : List Nat} (few : digits.length ≤ count) :
    value base (places count digits) = value base digits * base ^ (count - digits.length) := by
  rw [places_eq few, value_append, value_zeros, List.length_replicate, Nat.add_zero]

theorem places_floor (positive : 0 < base) (count : Nat) {digits : List Nat}
    (small : ∀ digit ∈ digits, digit < base) :
    value base (places count digits) * base ^ digits.length ≤ value base digits * base ^ count ∧
      value base digits * base ^ count <
        (value base (places count digits) + 1) * base ^ digits.length := by
  induction count generalizing digits with
  | zero =>
    rw [places_zero, value_nil, pow_zero, Nat.mul_one, Nat.zero_mul, Nat.zero_add, Nat.one_mul]
    exact ⟨Nat.zero_le _, value_lt small⟩
  | succ count ih =>
    cases digits with
    | nil =>
      rw [places_nil, value_zeros, value_nil, Nat.zero_mul, Nat.zero_mul, List.length_nil, pow_zero]
      exact ⟨le_refl 0, by decide⟩
    | cons digit digits =>
      obtain ⟨lower, upper⟩ := ih (List.forall_mem_cons.mp small).2
      rw [places_succ, value_cons, value_cons, places_length, List.length_cons, pow_succ, pow_succ]
      constructor
      · calc (digit * base ^ count + value base (places count digits)) *
            (base ^ digits.length * base)
          _ = (digit * base ^ count * base ^ digits.length +
                value base (places count digits) * base ^ digits.length) * base := by ring
          _ ≤ (digit * base ^ count * base ^ digits.length +
                value base digits * base ^ count) * base := by gcongr
          _ = (digit * base ^ digits.length + value base digits) * (base ^ count * base) := by ring
      · calc (digit * base ^ digits.length + value base digits) * (base ^ count * base)
          _ = (digit * base ^ count * base ^ digits.length +
                value base digits * base ^ count) * base := by ring
          _ < (digit * base ^ count * base ^ digits.length +
                (value base (places count digits) + 1) * base ^ digits.length) * base := by gcongr
          _ = (digit * base ^ count + value base (places count digits) + 1) *
                (base ^ digits.length * base) := by ring

end Positional

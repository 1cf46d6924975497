import Mathlib.Computability.RegularExpressions

/-! First and last letters of the words of a language, and regular expressions for one letter of a
list, for a nonempty repetition and for an optional part. -/

namespace Language

variable {α : Type*} {letters : α → Prop} {l m : Language α}

def StartsIn (letters : α → Prop) (l : Language α) : Prop :=
  ∀ word ∈ l, ∃ a rest, word = a :: rest ∧ letters a

def EndsIn (letters : α → Prop) (l : Language α) : Prop :=
  ∀ word ∈ l, ∃ front a, word = front ++ [a] ∧ letters a

theorem StartsIn.add (left : StartsIn letters l) (right : StartsIn letters m) :
    StartsIn letters (l + m) := by
  intro word member
  rcases (mem_add l m word).mp member with inLeft | inRight
  · exact left word inLeft
  · exact right word inRight

theorem EndsIn.add (left : EndsIn letters l) (right : EndsIn letters m) :
    EndsIn letters (l + m) := by
  intro word member
  rcases (mem_add l m word).mp member with inLeft | inRight
  · exact left word inLeft
  · exact right word inRight

theorem StartsIn.mul (first : StartsIn letters l) (m : Language α) : StartsIn letters (l * m) := by
  intro word member
  obtain ⟨front, inside, back, _, rfl⟩ := mem_mul.mp member
  obtain ⟨a, rest, rfl, good⟩ := first front inside
  exact ⟨a, rest ++ back, rfl, good⟩

theorem EndsIn.mul (l : Language α) (last : EndsIn letters m) : EndsIn letters (l * m) := by
  intro word member
  obtain ⟨front, _, back, inside, rfl⟩ := mem_mul.mp member
  obtain ⟨rest, a, rfl, good⟩ := last back inside
  exact ⟨front ++ rest, a, (List.append_assoc ..).symm, good⟩

theorem EndsIn.mul_optional (first : EndsIn letters l) (last : EndsIn letters m) :
    EndsIn letters (l * (1 + m)) := by
  rw [mul_add, mul_one]
  exact first.add (last.mul l)

theorem startsIn_singleton {a : α} (good : letters a) : StartsIn letters {[a]} := by
  intro word member
  exact ⟨a, [], member, good⟩

theorem endsIn_singleton {a : α} (good : letters a) : EndsIn letters {[a]} := by
  intro word member
  exact ⟨[], a, member, good⟩

end Language

namespace RegularExpression

variable {α : Type*}

def oneOf (letters : List α) : RegularExpression α := (letters.map char).sum

def many (P : RegularExpression α) : RegularExpression α := P * star P

def optional (P : RegularExpression α) : RegularExpression α := 1 + P

theorem mem_oneOf {letters : List α} {word : List α} :
    word ∈ (oneOf letters).matches' ↔ ∃ a ∈ letters, word = [a] := by
  induction letters with
  | nil => exact iff_of_false (Set.notMem_empty word) nofun
  | cons a letters ih =>
    have head : word ∈ (char a).matches' ↔ word = [a] := Iff.rfl
    have sum : (oneOf (a :: letters)).matches' = (char a).matches' + (oneOf letters).matches' := rfl
    rw [sum, Language.mem_add, head, ih, List.exists_mem_cons_iff]

theorem oneOf_startsIn {letters : List α} {good : α → Prop} (all : ∀ a ∈ letters, good a) :
    Language.StartsIn good (oneOf letters).matches' := by
  intro word member
  obtain ⟨a, listed, rfl⟩ := mem_oneOf.mp member
  exact ⟨a, [], rfl, all a listed⟩

theorem oneOf_endsIn {letters : List α} {good : α → Prop} (all : ∀ a ∈ letters, good a) :
    Language.EndsIn good (oneOf letters).matches' := by
  intro word member
  obtain ⟨a, listed, rfl⟩ := mem_oneOf.mp member
  exact ⟨[], a, rfl, all a listed⟩

end RegularExpression

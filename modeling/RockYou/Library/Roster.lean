import Mathlib.Data.List.Nodup

/-! Values entered under keys, in two lists that grow together. A key already listed is not
entered again, whatever value comes with it. -/

namespace Roster

variable {κ ι : Type*} [DecidableEq κ]

def enter (roster : List κ × List ι) (entry : κ × ι) : List κ × List ι :=
  if entry.1 ∈ roster.1 then roster else (roster.1 ++ [entry.1], roster.2 ++ [entry.2])

def enterAll (roster : List κ × List ι) (entries : List (κ × ι)) : List κ × List ι :=
  entries.foldl enter roster

variable {roster : List κ × List ι}

theorem enterAll_append (left right : List (κ × ι)) :
    enterAll roster (left ++ right) = enterAll (enterAll roster left) right := List.foldl_append ..

theorem enterAll_cons (entry : κ × ι) (entries : List (κ × ι)) :
    enterAll roster (entry :: entries) = enterAll (enter roster entry) entries := rfl

theorem mem_enter_keys {entry : κ × ι} {key : κ} :
    key ∈ (enter roster entry).1 ↔ key ∈ roster.1 ∨ key = entry.1 := by
  unfold enter
  split
  · next listed =>
    constructor
    · exact .inl
    · intro either
      cases either with
      | inl known => exact known
      | inr same =>
        rw [same]
        exact listed
  · simp

theorem mem_enterAll_keys {entries : List (κ × ι)} {key : κ} :
    key ∈ (enterAll roster entries).1 ↔ key ∈ roster.1 ∨ key ∈ entries.map Prod.fst := by
  induction entries generalizing roster with
  | nil => simp [enterAll]
  | cons entry entries ih =>
    rw [enterAll_cons, ih, mem_enter_keys, List.map_cons, List.mem_cons, or_assoc]

theorem enter_keys_length (entry : κ × ι) :
    (enter roster entry).1.length = roster.1.length + if entry.1 ∈ roster.1 then 0 else 1 := by
  unfold enter
  split <;> simp

theorem enterAll_keys_length (entries : List (κ × ι)) :
    roster.1.length ≤ (enterAll roster entries).1.length := by
  induction entries generalizing roster with
  | nil => exact Nat.le_refl _
  | cons entry entries ih =>
    have rest := @ih (enter roster entry)
    rw [enter_keys_length] at rest
    exact Nat.le_trans (Nat.le_add_right ..) rest

theorem enterAll_keys_length_iff {entries : List (κ × ι)} :
    (enterAll roster entries).1.length = roster.1.length ↔
      ∀ entry ∈ entries, entry.1 ∈ roster.1 := by
  induction entries generalizing roster with
  | nil => simp [enterAll]
  | cons entry entries ih =>
    rw [enterAll_cons, List.forall_mem_cons]
    by_cases listed : entry.1 ∈ roster.1
    · have same : enter roster entry = roster := if_pos listed
      rw [same, ih]
      simp [listed]
    · have rest := @enterAll_keys_length _ _ _ (enter roster entry) entries
      rw [enter_keys_length, if_neg listed] at rest
      constructor
      · intro same
        omega
      · intro both
        exact absurd both.1 listed

theorem enterAll_known {entries : List (κ × ι)} (known : ∀ entry ∈ entries, entry.1 ∈ roster.1) :
    enterAll roster entries = roster := by
  induction entries with
  | nil => rfl
  | cons entry entries ih =>
    obtain ⟨first, rest⟩ := List.forall_mem_cons.mp known
    have same : enter roster entry = roster := if_pos first
    rw [enterAll_cons, same]
    exact ih rest

/-- The entries that get in: their keys are new, to the roster and among the entries before. -/
def added (keys : List κ) : List (κ × ι) → List (κ × ι)
  | [] => []
  | entry :: entries =>
    if entry.1 ∈ keys then added keys entries else entry :: added (keys ++ [entry.1]) entries

theorem enterAll_added (entries : List (κ × ι)) :
    enterAll roster entries = (roster.1 ++ (added roster.1 entries).map Prod.fst,
      roster.2 ++ (added roster.1 entries).map Prod.snd) := by
  induction entries generalizing roster with
  | nil => simp [enterAll, added]
  | cons entry entries ih =>
    rw [enterAll_cons, ih, added, enter]
    split <;> simp

theorem mem_added {keys : List κ} {entry : κ × ι} {entries : List (κ × ι)} :
    entry ∈ added keys entries ↔ ∃ before later, entries = before ++ entry :: later ∧
      entry.1 ∉ keys ∧ entry.1 ∉ before.map Prod.fst := by
  induction entries generalizing keys with
  | nil => simp [added]
  | cons head entries ih =>
    rw [added]
    constructor
    · intro member
      by_cases known : head.1 ∈ keys
      · rw [if_pos known, ih] at member
        obtain ⟨before, later, whole, fresh, first⟩ := member
        refine ⟨head :: before, later, by rw [whole]; rfl, fresh, ?_⟩
        rw [List.map_cons, List.mem_cons, not_or]
        exact ⟨fun same => fresh (same ▸ known), first⟩
      · rw [if_neg known, List.mem_cons, ih] at member
        rcases member with rfl | ⟨before, later, whole, fresh, first⟩
        · exact ⟨[], entries, rfl, known, List.not_mem_nil⟩
        · rw [List.mem_append, List.mem_singleton, not_or] at fresh
          refine ⟨head :: before, later, by rw [whole]; rfl, fresh.1, ?_⟩
          rw [List.map_cons, List.mem_cons, not_or]
          exact ⟨fresh.2, first⟩
    · intro ⟨before, later, whole, fresh, first⟩
      cases before with
      | nil =>
        cases whole
        rw [if_neg fresh]
        exact List.mem_cons_self ..
      | cons other before =>
        cases whole
        rw [List.map_cons, List.mem_cons, not_or] at first
        by_cases known : head.1 ∈ keys
        · rw [if_pos known, ih]
          exact ⟨before, later, rfl, fresh, first.2⟩
        · rw [if_neg known, List.mem_cons, ih]
          refine .inr ⟨before, later, rfl, ?_, first.2⟩
          rw [List.mem_append, List.mem_singleton, not_or]
          exact ⟨fresh, first.1⟩

theorem added_of_appended {entries more : List (κ × ι)}
    (keys : (enterAll roster entries).1 = roster.1 ++ more.map Prod.fst)
    (values : (enterAll roster entries).2 = roster.2 ++ more.map Prod.snd) :
    more = added roster.1 entries := by
  rw [enterAll_added] at keys values
  have first : more.map Prod.fst = _ := (List.append_cancel_left keys).symm
  have second : more.map Prod.snd = _ := (List.append_cancel_left values).symm
  rw [List.zip_of_prod first second]
  exact (List.zip_of_prod rfl rfl).symm

/-- Some entry of the value has a key that is new, to the roster and among the entries before it. -/
def Enters (roster : List κ × List ι) (entries : List (κ × ι)) (value : ι) : Prop :=
  ∃ before key later, entries = before ++ (key, value) :: later ∧ key ∉ roster.1 ∧
    key ∉ before.map Prod.fst

theorem enters_cons {entry : κ × ι} {entries : List (κ × ι)} {value : ι} :
    Enters roster (entry :: entries) value ↔
      (entry.1 ∉ roster.1 ∧ entry.2 = value) ∨ Enters (enter roster entry) entries value := by
  constructor
  · intro ⟨before, key, later, whole, fresh, first⟩
    cases before with
    | nil =>
      cases whole
      exact .inl ⟨fresh, rfl⟩
    | cons head before =>
      cases whole
      rw [List.map_cons, List.mem_cons, not_or] at first
      refine .inr ⟨before, key, later, rfl, ?_, first.2⟩
      rw [mem_enter_keys, not_or]
      exact ⟨fresh, first.1⟩
  · intro either
    rcases either with ⟨fresh, rfl⟩ | ⟨before, key, later, whole, fresh, first⟩
    · exact ⟨[], entry.1, entries, rfl, fresh, by simp⟩
    · rw [mem_enter_keys, not_or] at fresh
      refine ⟨entry :: before, key, later, by rw [whole]; rfl, fresh.1, ?_⟩
      rw [List.map_cons, List.mem_cons, not_or]
      exact ⟨fresh.2, first⟩

variable [DecidableEq ι]

theorem count_enter (key : κ) (id value : ι) :
    (enter roster (key, id)).2.count value =
      roster.2.count value + if key ∉ roster.1 ∧ id = value then 1 else 0 := by
  unfold enter
  by_cases listed : key ∈ roster.1
  · simp [listed]
  · by_cases same : id = value <;> simp [listed, same]

theorem count_enterAll_other {entries : List (κ × ι)} {value : ι}
    (other : value ∉ entries.map Prod.snd) :
    (enterAll roster entries).2.count value = roster.2.count value := by
  induction entries generalizing roster with
  | nil => rfl
  | cons entry entries ih =>
    obtain ⟨key, id⟩ := entry
    rw [List.map_cons, List.mem_cons, not_or] at other
    rw [enterAll_cons, ih other.2, count_enter, if_neg fun both => other.1 both.2.symm,
      Nat.add_zero]

theorem count_le_enterAll (entries : List (κ × ι)) (value : ι) :
    roster.2.count value ≤ (enterAll roster entries).2.count value := by
  induction entries generalizing roster with
  | nil => exact Nat.le_refl _
  | cons entry entries ih =>
    have rest := @ih (enter roster entry)
    rw [count_enter] at rest
    exact Nat.le_trans (Nat.le_add_right ..) rest

theorem count_lt_enterAll {entries : List (κ × ι)} {value : ι} :
    roster.2.count value < (enterAll roster entries).2.count value ↔
      Enters roster entries value := by
  induction entries generalizing roster with
  | nil => simp [enterAll, Enters]
  | cons entry entries ih =>
    rw [enterAll_cons, enters_cons, ← ih, count_enter]
    have rest := @count_le_enterAll _ _ _ (enter roster entry) _ entries value
    rw [count_enter] at rest
    by_cases added : entry.1 ∉ roster.1 ∧ entry.2 = value
    · simp only [added, not_false_eq_true, and_self, if_true] at rest ⊢
      simp only [true_or, iff_true]
      omega
    · simp only [added, if_false, Nat.add_zero, false_or]

theorem count_enterAll {before later : List (κ × ι)} {key : κ} {id : ι}
    (distinct : ((before ++ (key, id) :: later).map Prod.snd).Nodup) :
    (enterAll roster (before ++ (key, id) :: later)).2.count id =
      roster.2.count id + if key ∈ roster.1 ∨ key ∈ before.map Prod.fst then 0 else 1 := by
  rw [List.map_append, List.map_cons, List.nodup_middle, List.nodup_cons, List.mem_append,
    not_or] at distinct
  obtain ⟨⟨notBefore, notLater⟩, _⟩ := distinct
  rw [enterAll_append, enterAll_cons, count_enterAll_other notLater, count_enter,
    count_enterAll_other notBefore]
  simp only [mem_enterAll_keys, and_true, ite_not]

end Roster

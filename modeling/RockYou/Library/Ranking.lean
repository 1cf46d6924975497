import Mathlib.Data.List.Sort

/-! Entries under keys, listed by rank. The first entry of a key stays, and the list is sorted
again after each addition. -/

namespace Ranking

variable {α κ ρ : Type*} [DecidableEq κ] [LinearOrder ρ] (key : α → κ) (rank : α → ρ)

def enlist (ranking : List α) (entry : α) : List α :=
  if key entry ∈ ranking.map key then ranking
  else (ranking ++ [entry]).mergeSort fun left right => rank left ≤ rank right

def enlistAll (ranking entries : List α) : List α := entries.foldl (enlist key rank) ranking

variable {key rank} {ranking : List α}

theorem enlist_perm {entry : α} (fresh : key entry ∉ ranking.map key) :
    (enlist key rank ranking entry).Perm (ranking ++ [entry]) := by
  rw [enlist, if_neg fresh]
  exact List.mergeSort_perm _ _

theorem mem_enlist {entry other : α} :
    other ∈ enlist key rank ranking entry ↔
      other ∈ ranking ∨ (key entry ∉ ranking.map key ∧ other = entry) := by
  by_cases listed : key entry ∈ ranking.map key
  · rw [enlist, if_pos listed]
    simp [listed]
  · rw [(enlist_perm listed).mem_iff]
    simp [listed]

theorem mem_enlist_keys {entry : α} {other : κ} :
    other ∈ (enlist key rank ranking entry).map key ↔
      other ∈ ranking.map key ∨ other = key entry := by
  by_cases listed : key entry ∈ ranking.map key
  · rw [enlist, if_pos listed]
    constructor
    · exact .inl
    · intro either
      cases either with
      | inl known => exact known
      | inr same =>
        rw [same]
        exact listed
  · rw [((enlist_perm listed).map key).mem_iff]
    simp

theorem enlist_keys_nodup (unique : (ranking.map key).Nodup) (entry : α) :
    ((enlist key rank ranking entry).map key).Nodup := by
  by_cases listed : key entry ∈ ranking.map key
  · rw [enlist, if_pos listed]
    exact unique
  · rw [((enlist_perm listed).map key).nodup_iff, List.map_append, List.map_singleton,
      List.nodup_append]
    refine ⟨unique, List.nodup_singleton _, ?_⟩
    intro left leftMember right rightMember
    rw [List.mem_singleton.mp rightMember]
    exact fun same => listed (same ▸ leftMember)

def Ranked (rank : α → ρ) (ranking : List α) : Prop :=
  ranking.Pairwise fun left right => rank left ≤ rank right

theorem enlist_ranked (ranked : Ranked rank ranking) (entry : α) :
    Ranked rank (enlist key rank ranking entry) := by
  unfold enlist
  split
  · exact ranked
  · have transitive (first second third : α) : decide (rank first ≤ rank second) →
        decide (rank second ≤ rank third) → decide (rank first ≤ rank third) := by
      simpa using le_trans
    have total (left right : α) :
        decide (rank left ≤ rank right) || decide (rank right ≤ rank left) := by
      simpa using le_total (rank left) (rank right)
    have sorted := List.pairwise_mergeSort transitive total (ranking ++ [entry])
    simpa only [Ranked, decide_eq_true_eq] using sorted

theorem enlistAll_cons (entry : α) (entries : List α) :
    enlistAll key rank ranking (entry :: entries) =
      enlistAll key rank (enlist key rank ranking entry) entries := rfl

theorem enlistAll_keys_nodup (unique : (ranking.map key).Nodup) (entries : List α) :
    ((enlistAll key rank ranking entries).map key).Nodup := by
  induction entries generalizing ranking with
  | nil => exact unique
  | cons entry entries ih => exact ih (enlist_keys_nodup unique entry)

theorem enlistAll_ranked (ranked : Ranked rank ranking) (entries : List α) :
    Ranked rank (enlistAll key rank ranking entries) := by
  induction entries generalizing ranking with
  | nil => exact ranked
  | cons entry entries ih => exact ih (enlist_ranked ranked entry)

/-- An entry is listed when it was before, or when it is the first of a new key. -/
theorem mem_enlistAll {entries : List α} {entry : α} :
    entry ∈ enlistAll key rank ranking entries ↔
      entry ∈ ranking ∨ (key entry ∉ ranking.map key ∧
        entries.find? (fun other => key other = key entry) = some entry) := by
  induction entries generalizing ranking with
  | nil => simp [enlistAll]
  | cons first entries ih =>
    rw [enlistAll_cons, ih, mem_enlist, mem_enlist_keys, List.find?_cons]
    by_cases same : key first = key entry
    · simp only [same, decide_true, Option.some.injEq]
      constructor
      · intro either
        rcases either with (old | ⟨fresh, rfl⟩) | ⟨absent, _⟩
        · exact .inl old
        · exact .inr ⟨fresh, rfl⟩
        · exact absurd (.inr trivial) absent
      · intro either
        rcases either with old | ⟨fresh, rfl⟩
        · exact .inl (.inl old)
        · exact .inl (.inr ⟨fresh, rfl⟩)
    · have others : entry ≠ first := fun equal => same (equal ▸ rfl)
      simp only [same, decide_false, others, and_false, or_false, Ne.symm same]

/-- Lists that agree on the first entry of every key give rankings that differ only in the order
of entries with one rank. -/
theorem enlistAll_reorder {left right : List α}
    (agree : ∀ label, left.find? (fun entry => key entry = label) =
      right.find? (fun entry => key entry = label)) :
    (enlistAll key rank [] left).Perm (enlistAll key rank [] right) ∧
      (enlistAll key rank [] left).map rank = (enlistAll key rank [] right).map rank := by
  have distinct (entries : List α) : (enlistAll key rank [] entries).Nodup :=
    (enlistAll_keys_nodup (by simp) entries).of_map key
  have same : (enlistAll key rank [] left).Perm (enlistAll key rank [] right) := by
    rw [List.perm_ext_iff_of_nodup (distinct left) (distinct right)]
    intro entry
    rw [mem_enlistAll, mem_enlistAll, agree]
  have ordered (entries : List α) :
      ((enlistAll key rank [] entries).map rank).Pairwise (· ≤ ·) :=
    List.pairwise_map.mpr (enlistAll_ranked .nil entries)
  refine ⟨same, ?_⟩
  exact (same.map rank).eq_of_pairwise (fun _ _ _ _ below above => le_antisymm below above)
    (ordered left) (ordered right)

end Ranking

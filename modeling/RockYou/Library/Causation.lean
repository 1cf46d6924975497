import RockYou.Library.Machine

/-! Runs seen from their end: what holds there and not at the start became true at a last step
and has held since. -/

namespace Machine.Path

variable {σ ι : Type*} {step : σ → ι → σ → Prop} {state middle final : σ} {labels : List ι}

abbrev Holding (step : σ → ι → σ → Prop) (property : σ → Prop) (state : σ) (labels : List ι)
    (final : σ) : Prop :=
  Path (restrict step fun _ _ next => property next) state labels final

/-- A run with its last step that made the property true. -/
inductive Caused (step : σ → ι → σ → Prop) (property : σ → Prop) : σ → List ι → σ → Prop where
  | intro {state middle next final : σ} {before after : List ι} {label : ι}
      (earlier : Path step state before middle) (absent : ¬ property middle)
      (moved : step middle label next) (present : property next)
      (since : Holding step property next after final) :
      Caused step property state (before ++ label :: after) final

theorem append {left right : List ι} (first : Path step state left middle)
    (second : Path step middle right final) : Path step state (left ++ right) final := by
  induction first with
  | nil => exact second
  | cons moved _ ih => exact .cons moved (ih second)

theorem unrestrict {property : σ → ι → σ → Prop}
    (path : Path (restrict step property) state labels final) : Path step state labels final := by
  induction path with
  | nil => exact .nil
  | cons moved _ ih => exact .cons moved.1 ih

theorem Caused.cons {property : σ → Prop} {label : ι} (first : step state label middle)
    (caused : Caused step property middle labels final) :
    Caused step property state (label :: labels) final := by
  obtain ⟨earlier, absent, moved, present, since⟩ := caused
  exact .intro (.cons first earlier) absent moved present since

theorem held_or_caused (property : σ → Prop) (path : Path step state labels final)
    (present : property final) :
    (property state ∧ Holding step property state labels final) ∨
      Caused step property state labels final := by
  induction path with
  | nil => exact .inl ⟨present, .nil⟩
  | @cons state middle _ label labels first _ ih =>
    rcases ih present with ⟨reached, since⟩ | caused
    · by_cases already : property state
      · exact .inl ⟨already, .cons ⟨first, reached⟩ since⟩
      · rw [← List.nil_append (label :: labels)]
        exact .inr (.intro .nil already first reached since)
    · exact .inr (caused.cons first)

theorem caused (property : σ → Prop) (path : Path step state labels final)
    (absent : ¬ property state) (present : property final) :
    Caused step property state labels final := by
  rcases path.held_or_caused property present with ⟨already, _⟩ | caused
  · exact absurd already absent
  · exact caused

theorem unchanged {τ : Type*} (value : σ → τ)
    (same : ∀ state label next, step state label next → value next = value state)
    (path : Path step state labels final) : value final = value state := by
  induction path with
  | nil => rfl
  | cons moved _ ih => exact ih.trans (same _ _ _ moved)

end Machine.Path

import Mathlib.Data.List.Basic

/-! A `for` loop over a list whose body may return from the enclosing function or trap. -/

namespace Loop

variable {α σ : Type*}

/-- How a body ends: on to the next element, by `return`, or by a trap. -/
inductive Flow (σ : Type*) where
  | next (state : σ)
  | stop (state : σ)
  | trap
  deriving DecidableEq

def Flow.state? : Flow σ → Option σ
  | .next state => some state
  | .stop state => some state
  | .trap => none

def Flow.bind (flow : Flow σ) (rest : σ → Flow σ) : Flow σ :=
  match flow with
  | .next state => rest state
  | .stop state => .stop state
  | .trap => .trap

def forEach (body : α → σ → Flow σ) : List α → σ → Flow σ
  | [], state => .next state
  | element :: elements, state => (body element state).bind (forEach body elements)

variable (body : α → σ → Flow σ)

@[simp] theorem forEach_nil (state : σ) : forEach body [] state = .next state := rfl

theorem forEach_cons (element : α) (elements : List α) (state : σ) :
    forEach body (element :: elements) state =
      (body element state).bind (forEach body elements) := rfl

variable {body}

theorem forEach_cons_next {element : α} {elements : List α} {state next : σ}
    (moved : body element state = .next next) :
    forEach body (element :: elements) state = forEach body elements next := by
  rw [forEach_cons, moved]
  rfl

theorem forEach_foldl {elements : List α} {advance : σ → α → σ}
    (moves : ∀ element ∈ elements, ∀ state, body element state = .next (advance state element))
    (state : σ) : forEach body elements state = .next (elements.foldl advance state) := by
  induction elements generalizing state with
  | nil => rfl
  | cons element elements ih =>
    rw [forEach_cons_next (moves element (by simp) state), List.foldl_cons]
    exact ih (fun other member => moves other (List.mem_cons_of_mem _ member)) _

theorem forEach_collect {β : Type*} {collect : α → List β → Flow (List β)} {value : α → β}
    {elements : List α}
    (appends : ∀ element ∈ elements, ∀ values,
      collect element values = .next (values ++ [value element]))
    (values : List β) :
    forEach collect elements values = .next (values ++ elements.map value) := by
  rw [forEach_foldl appends, List.foldl_append_eq_append, ← List.flatMap_def,
    List.map_eq_flatMap]

def Flow.closed (flow : Flow σ) (scanned : Bool) : Flow σ :=
  if scanned then flow else flow.bind .stop

@[simp] theorem Flow.closed_state (flow : Flow σ) (scanned : Bool) :
    (flow.closed scanned).state? = flow.state? := by
  cases scanned <;> cases flow <;> rfl

/-- A loop that returns at the first element it does not accept and skips the irrelevant ones
    sees only the relevant elements before that one. -/
theorem forEach_scan {accepted relevant : α → Bool} {elements : List α}
    (returns : ∀ element ∈ elements, ∀ state, accepted element = false →
      body element state = .stop state)
    (skips : ∀ element ∈ elements, ∀ state, accepted element = true → relevant element = false →
      body element state = .next state)
    (state : σ) :
    forEach body elements state =
      (forEach body ((elements.takeWhile accepted).filter relevant) state).closed
        (elements.all accepted) := by
  induction elements generalizing state with
  | nil => rfl
  | cons element elements ih =>
    have rest (middle : σ) := ih (fun other member => returns other (List.mem_cons_of_mem _ member))
      (fun other member => skips other (List.mem_cons_of_mem _ member)) middle
    cases accept : accepted element with
    | false =>
      rw [forEach_cons, returns element (by simp) state accept]
      simp [accept, Flow.closed, Flow.bind]
    | true =>
      rw [List.takeWhile_cons_of_pos accept, List.all_cons, accept, Bool.true_and]
      cases relevance : relevant element with
      | false =>
        rw [List.filter_cons_of_neg (by simp [relevance]),
          forEach_cons_next (skips element (by simp) state accept relevance)]
        exact rest state
      | true =>
        rw [List.filter_cons_of_pos relevance, forEach_cons, forEach_cons]
        cases body element state with
        | next middle => exact rest middle
        | stop final => cases elements.all accepted <;> rfl
        | trap => cases elements.all accepted <;> rfl

theorem forEach_no_trap {elements : List α}
    (continues : ∀ element ∈ elements, ∀ state, body element state ≠ .trap) (state : σ) :
    forEach body elements state ≠ .trap := by
  induction elements generalizing state with
  | nil => exact nofun
  | cons element elements ih =>
    rw [forEach_cons]
    have first := continues element (by simp) state
    cases outcome : body element state with
    | next middle =>
      exact ih (fun other member => continues other (List.mem_cons_of_mem _ member)) middle
    | stop final => exact nofun
    | trap => exact absurd outcome first

theorem forEach_invariant {elements : List α} (property : σ → Prop)
    (preserve : ∀ element ∈ elements, ∀ state final, property state →
      (body element state).state? = some final → property final)
    {state final : σ} (initial : property state)
    (ended : (forEach body elements state).state? = some final) : property final := by
  induction elements generalizing state with
  | nil =>
    cases ended
    exact initial
  | cons element elements ih =>
    rw [forEach_cons] at ended
    have first := preserve element (by simp) state
    cases outcome : body element state with
    | next middle =>
      rw [outcome] at ended
      exact ih (fun other member => preserve other (List.mem_cons_of_mem _ member))
        (first middle initial (by rw [outcome]; rfl)) ended
    | stop early =>
      rw [outcome] at ended
      exact first final initial (by rw [outcome]; exact ended)
    | trap =>
      rw [outcome] at ended
      cases ended

/-- Where the body moves on at the accepted elements only and returns at the others only, the way
    the loop ends tells whether all are accepted. -/
theorem forEach_all {accepted : α → Bool} {elements : List α}
    (moves : ∀ element ∈ elements, ∀ state next, body element state = .next next →
      accepted element = true)
    (returns : ∀ element ∈ elements, ∀ state final, body element state = .stop final →
      accepted element = false)
    (state : σ) (trapless : forEach body elements state ≠ .trap) :
    ∃ final, forEach body elements state = (Flow.next final).closed (elements.all accepted) := by
  induction elements generalizing state with
  | nil => exact ⟨state, rfl⟩
  | cons element elements ih =>
    rw [forEach_cons] at trapless ⊢
    cases outcome : body element state with
    | next middle =>
      rw [outcome] at trapless
      obtain ⟨final, ended⟩ := ih (fun other member => moves other (List.mem_cons_of_mem _ member))
        (fun other member => returns other (List.mem_cons_of_mem _ member)) middle trapless
      rw [List.all_cons, moves element (by simp) state middle outcome, Bool.true_and]
      exact ⟨final, ended⟩
    | stop final =>
      rw [List.all_cons, returns element (by simp) state final outcome]
      exact ⟨final, rfl⟩
    | trap =>
      rw [outcome] at trapless
      exact absurd rfl trapless

section Simulation

variable {τ : Type*}

/-- Unless the first loop traps, the second ends in the same way in a related state. -/
def Flow.Simulates (related : σ → τ → Prop) : Flow σ → Flow τ → Prop
  | .next state, flow => ∃ image, flow = .next image ∧ related state image
  | .stop state, flow => ∃ image, flow = .stop image ∧ related state image
  | .trap, _ => True

theorem forEach_simulates {related : σ → τ → Prop} {image : α → τ → Flow τ} {elements : List α}
    (steps : ∀ element ∈ elements, ∀ state other, related state other →
      (body element state).Simulates related (image element other))
    {state : σ} {other : τ} (start : related state other) :
    (forEach body elements state).Simulates related (forEach image elements other) := by
  induction elements generalizing state other with
  | nil => exact ⟨other, rfl, start⟩
  | cons element elements ih =>
    have first := steps element (by simp) state other start
    rw [forEach_cons, forEach_cons]
    cases outcome : body element state with
    | next middle =>
      rw [outcome] at first
      obtain ⟨reached, moved, relation⟩ := first
      rw [moved]
      exact ih (fun later member => steps later (List.mem_cons_of_mem _ member)) relation
    | stop final =>
      rw [outcome] at first
      obtain ⟨reached, moved, relation⟩ := first
      rw [moved]
      exact ⟨reached, rfl, relation⟩
    | trap => exact True.intro

theorem Flow.Simulates.state {related : σ → τ → Prop} {flow : Flow σ} {image : Flow τ}
    (simulates : flow.Simulates related image) {final : σ} (ended : flow.state? = some final) :
    ∃ other, image.state? = some other ∧ related final other := by
  cases flow with
  | next state =>
    cases ended
    obtain ⟨other, rfl, relation⟩ := simulates
    exact ⟨other, rfl, relation⟩
  | stop state =>
    cases ended
    obtain ⟨other, rfl, relation⟩ := simulates
    exact ⟨other, rfl, relation⟩
  | trap => cases ended

end Simulation

end Loop

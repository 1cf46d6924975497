import Mathlib.Data.List.Infix

/-! Machines that read inputs and emit events, observed by a world that folds the events.
A rule for one step becomes a rule for every run and for every instant inside a run. -/

namespace Machine

variable {σ ι ε ω : Type*}

def run (step : σ → ι → σ × List ε) : σ → List ι → σ × List ε
  | state, [] => (state, [])
  | state, input :: inputs =>
    let first := step state input
    let rest := run step first.1 inputs
    (rest.1, first.2 ++ rest.2)

@[simp] theorem run_nil (step : σ → ι → σ × List ε) (state : σ) :
    run step state [] = (state, []) := rfl

theorem run_cons (step : σ → ι → σ × List ε) (state : σ) (input : ι) (inputs : List ι) :
    run step state (input :: inputs) =
      ((run step (step state input).1 inputs).1,
        (step state input).2 ++ (run step (step state input).1 inputs).2) := rfl

theorem run_append (step : σ → ι → σ × List ε) (state : σ) (left right : List ι) :
    run step state (left ++ right) =
      ((run step (run step state left).1 right).1,
        (run step state left).2 ++ (run step (run step state left).1 right).2) := by
  induction left generalizing state with
  | nil => rfl
  | cons input left ih =>
    rw [List.cons_append, run_cons, ih, run_cons]
    simp only [List.append_assoc]

@[simp] theorem run_singleton (step : σ → ι → σ × List ε) (state : σ) (input : ι) :
    run step state [input] = step state input := by
  simp [run_cons]

theorem run_joint {step : σ → ι → σ × List ε} {observe : ω → ε → ω} {admitted : ι → Prop}
    (joint : σ → ω → Prop)
    (preserve : ∀ state world input, admitted input → joint state world →
      joint (step state input).1 ((step state input).2.foldl observe world))
    (inputs : List ι) (all : ∀ input ∈ inputs, admitted input) (state : σ) (world : ω)
    (initial : joint state world) :
    joint (run step state inputs).1 ((run step state inputs).2.foldl observe world) := by
  induction inputs generalizing state world with
  | nil => exact initial
  | cons input inputs ih =>
    rw [run_cons, List.foldl_append]
    exact ih (fun other member => all other (List.mem_cons_of_mem _ member)) _ _
      (preserve state world input (all input (by simp)) initial)

theorem run_invariant {step : σ → ι → σ × List ε} {admitted : ι → Prop} (invariant : σ → Prop)
    (preserve : ∀ state input, admitted input → invariant state → invariant (step state input).1)
    (inputs : List ι) (all : ∀ input ∈ inputs, admitted input) (state : σ)
    (initial : invariant state) : invariant (run step state inputs).1 := by
  induction inputs generalizing state with
  | nil => exact initial
  | cons input inputs ih =>
    exact ih (fun other member => all other (List.mem_cons_of_mem _ member)) _
      (preserve state input (all input (by simp)) initial)

theorem prefix_append_cases {front left right : List ε} (prefixed : front <+: left ++ right) :
    front <+: left ∨ ∃ tail, front = left ++ tail ∧ tail <+: right := by
  obtain ⟨back, whole⟩ := prefixed
  rcases List.append_eq_append_iff.mp whole with ⟨middle, rest, _⟩ | ⟨middle, rest, tail⟩
  · exact .inl ⟨middle, rest.symm⟩
  · exact .inr ⟨middle, rest, ⟨back, tail.symm⟩⟩

theorem run_instants {step : σ → ι → σ × List ε} {observe : ω → ε → ω} {admitted : ι → Prop}
    (joint : σ → ω → Prop) (good : ω → Prop)
    (start : ∀ state world, joint state world → good world)
    (preserve : ∀ state world input, admitted input → joint state world →
      joint (step state input).1 ((step state input).2.foldl observe world))
    (within : ∀ state world input, admitted input → joint state world →
      ∀ front, front <+: (step state input).2 → good (front.foldl observe world))
    (inputs : List ι) (all : ∀ input ∈ inputs, admitted input) (state : σ) (world : ω)
    (initial : joint state world) (front : List ε)
    (prefixed : front <+: (run step state inputs).2) : good (front.foldl observe world) := by
  induction inputs generalizing state world front with
  | nil =>
    rw [List.prefix_nil.mp prefixed]
    exact start state world initial
  | cons input inputs ih =>
    have allowed := all input (by simp)
    rw [run_cons] at prefixed
    rcases prefix_append_cases prefixed with inside | ⟨tail, rfl, later⟩
    · exact within state world input allowed initial front inside
    · rw [List.foldl_append]
      exact ih (fun other member => all other (List.mem_cons_of_mem _ member)) _ _
        (preserve state world input allowed initial) tail later

def EachEvent (observe : ω → ε → ω) (good : ω → ε → Prop) : ω → List ε → Prop
  | _, [] => True
  | world, event :: events => good world event ∧ EachEvent observe good (observe world event) events

section EachEvent

variable {observe : ω → ε → ω} {good : ω → ε → Prop}

theorem eachEvent_append {left right : List ε} {world : ω} :
    EachEvent observe good world (left ++ right) ↔
      EachEvent observe good world left ∧
        EachEvent observe good (left.foldl observe world) right := by
  induction left generalizing world with
  | nil => simp [EachEvent]
  | cons event left ih =>
    rw [List.cons_append, EachEvent, ih, EachEvent, List.foldl_cons, and_assoc]

theorem eachEvent_iff {events : List ε} {world : ω} :
    EachEvent observe good world events ↔ ∀ front event back,
      events = front ++ event :: back → good (front.foldl observe world) event := by
  constructor
  · intro each front event back whole
    rw [whole, eachEvent_append, EachEvent] at each
    exact each.2.1
  · intro split
    induction events generalizing world with
    | nil => exact True.intro
    | cons event events ih =>
      refine ⟨split [] event events rfl, ih ?_⟩
      intro front later back whole
      exact split (event :: front) later back (by rw [whole, List.cons_append])

theorem eachEvent_of_forall {events : List ε}
    (harmless : ∀ event ∈ events, ∀ world, good world event) (world : ω) :
    EachEvent observe good world events := by
  induction events generalizing world with
  | nil => exact True.intro
  | cons event events ih =>
    exact ⟨harmless event (by simp) world,
      ih (fun other member => harmless other (List.mem_cons_of_mem _ member)) _⟩

theorem run_eachEvent {step : σ → ι → σ × List ε} {admitted : ι → Prop} (joint : σ → ω → Prop)
    (preserve : ∀ state world input, admitted input → joint state world →
      joint (step state input).1 ((step state input).2.foldl observe world))
    (within : ∀ state world input, admitted input → joint state world →
      EachEvent observe good world (step state input).2)
    (inputs : List ι) (all : ∀ input ∈ inputs, admitted input) (state : σ) (world : ω)
    (initial : joint state world) : EachEvent observe good world (run step state inputs).2 := by
  induction inputs generalizing state world with
  | nil => exact True.intro
  | cons input inputs ih =>
    have allowed := all input (by simp)
    rw [run_cons, eachEvent_append]
    refine ⟨within state world input allowed initial, ?_⟩
    exact ih (fun other member => all other (List.mem_cons_of_mem _ member)) _ _
      (preserve state world input allowed initial)

end EachEvent

def Along (step : σ → ι → σ × List ε) (property : σ → ι → Prop) : σ → List ι → Prop
  | _, [] => True
  | state, input :: inputs => property state input ∧ Along step property (step state input).1 inputs

/-- The world is good before, between and after the events. -/
def Instants (observe : ω → ε → ω) (good : ω → Prop) (world : ω) (events : List ε) : Prop :=
  ∀ front, front <+: events → good (front.foldl observe world)

section Along

variable {step : σ → ι → σ × List ε} {property : σ → ι → Prop}

theorem along_append {left right : List ι} {state : σ} :
    Along step property state (left ++ right) ↔
      Along step property state left ∧ Along step property (run step state left).1 right := by
  induction left generalizing state with
  | nil => simp [Along]
  | cons input left ih => rw [List.cons_append, Along, ih, Along, run_cons, and_assoc]

theorem run_along {observe : ω → ε → ω} (joint : σ → ω → Prop)
    (preserve : ∀ state world input, joint state world → property state input →
      joint (step state input).1 ((step state input).2.foldl observe world))
    {inputs : List ι} {state : σ} {world : ω} (along : Along step property state inputs)
    (initial : joint state world) :
    joint (run step state inputs).1 ((run step state inputs).2.foldl observe world) := by
  induction inputs generalizing state world with
  | nil => exact initial
  | cons input inputs ih =>
    rw [run_cons, List.foldl_append]
    exact ih along.2 (preserve state world input initial along.1)

end Along

section Instants

variable {observe : ω → ε → ω} {good : ω → Prop}

@[simp] theorem instants_nil {world : ω} : Instants observe good world [] ↔ good world := by
  constructor
  · intro instants
    exact instants [] (List.prefix_refl _)
  · intro initial front prefixed
    rw [List.prefix_nil.mp prefixed]
    exact initial

theorem instants_cons {world : ω} {event : ε} {events : List ε} :
    Instants observe good world (event :: events) ↔
      good world ∧ Instants observe good (observe world event) events := by
  constructor
  · intro instants
    refine ⟨instants [] (List.nil_prefix ..), ?_⟩
    intro front prefixed
    exact instants (event :: front) (List.cons_prefix_cons.mpr ⟨rfl, prefixed⟩)
  · intro both front prefixed
    rcases List.prefix_cons_iff.mp prefixed with rfl | ⟨rest, rfl, later⟩
    · exact both.1
    · exact both.2 rest later

theorem instants_append {left right : List ε} {world : ω} :
    Instants observe good world (left ++ right) ↔
      Instants observe good world left ∧
        Instants observe good (left.foldl observe world) right := by
  induction left generalizing world with
  | nil =>
    rw [List.nil_append, List.foldl_nil, instants_nil]
    exact ⟨fun instants => ⟨instants [] (List.nil_prefix ..), instants⟩, And.right⟩
  | cons event left ih =>
    rw [List.cons_append, instants_cons, ih, instants_cons, List.foldl_cons, and_assoc]

theorem instants_of_preserved {events : List ε} (joint : ω → Prop)
    (start : ∀ world, joint world → good world)
    (preserve : ∀ event ∈ events, ∀ world, joint world → joint (observe world event)) {world : ω}
    (initial : joint world) :
    Instants observe good world events ∧ joint (events.foldl observe world) := by
  induction events generalizing world with
  | nil => exact ⟨instants_nil.mpr (start world initial), initial⟩
  | cons event events ih =>
    have moved := preserve event (by simp) world initial
    obtain ⟨instants, final⟩ :=
      ih (fun other member => preserve other (List.mem_cons_of_mem _ member)) moved
    exact ⟨instants_cons.mpr ⟨start world initial, instants⟩, final⟩

/-- Where one step is good at every instant exactly when its input is clean, a run is good at
every instant exactly when every input of it is. -/
theorem run_instants_iff {step : σ → ι → σ × List ε} {clean : σ → ι → Prop} (joint : σ → ω → Prop)
    (start : ∀ state world, joint state world → good world)
    (exact : ∀ state world input, joint state world →
      (Instants observe good world (step state input).2 ↔ clean state input))
    (preserve : ∀ state world input, joint state world → clean state input →
      joint (step state input).1 ((step state input).2.foldl observe world))
    (inputs : List ι) (state : σ) (world : ω) (initial : joint state world) :
    Instants observe good world (run step state inputs).2 ↔ Along step clean state inputs := by
  induction inputs generalizing state world with
  | nil => simp [Along, start state world initial]
  | cons input inputs ih =>
    rw [run_cons, instants_append, exact state world input initial, Along]
    constructor
    · intro both
      exact ⟨both.1, (ih _ _ (preserve state world input initial both.1)).mp both.2⟩
    · intro both
      exact ⟨both.1, (ih _ _ (preserve state world input initial both.1)).mpr both.2⟩

end Instants

inductive Path (step : σ → ι → σ → Prop) : σ → List ι → σ → Prop where
  | nil {state : σ} : Path step state [] state
  | cons {state middle final : σ} {label : ι} {labels : List ι} (first : step state label middle)
      (rest : Path step middle labels final) : Path step state (label :: labels) final

namespace Path

variable {step : σ → ι → σ → Prop} {state final : σ} {labels : List ι}

theorem invariant (admitted : ι → Prop) (property : σ → Prop)
    (preserve : ∀ state label next, admitted label → step state label next → property state →
      property next)
    (path : Path step state labels final) (all : ∀ label ∈ labels, admitted label)
    (initial : property state) : property final := by
  induction path with
  | nil => exact initial
  | cons moved _ ih =>
    apply ih fun other member => all other (List.mem_cons_of_mem _ member)
    exact preserve _ _ _ (all _ (by simp)) moved initial

end Path

def restrict (step property : σ → ι → σ → Prop) : σ → ι → σ → Prop :=
  fun state label next => step state label next ∧ property state label next

namespace Path

variable {step good clean : σ → ι → σ → Prop} {state final : σ} {labels : List ι}

/-- Where a step is good exactly when it is clean, the runs of good steps are the runs of
clean steps. -/
theorem restrict_iff (invariant : σ → Prop)
    (exact : ∀ state label next, invariant state → step state label next →
      (good state label next ↔ clean state label next))
    (preserve : ∀ state label next, invariant state → step state label next →
      good state label next → invariant next) (initial : invariant state) :
    Path (restrict step good) state labels final ↔
      Path (restrict step clean) state labels final := by
  constructor
  · intro path
    induction path with
    | nil => exact .nil
    | cons first _ ih =>
      obtain ⟨moved, held⟩ := first
      refine .cons ⟨moved, (exact _ _ _ initial moved).mp held⟩ (ih ?_)
      exact preserve _ _ _ initial moved held
  · intro path
    induction path with
    | nil => exact .nil
    | cons first _ ih =>
      obtain ⟨moved, held⟩ := first
      have kept := (exact _ _ _ initial moved).mpr held
      exact .cons ⟨moved, kept⟩ (ih (preserve _ _ _ initial moved kept))

end Path

end Machine

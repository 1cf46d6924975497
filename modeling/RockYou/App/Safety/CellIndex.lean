import RockYou.App.Safety.ListRefresh

namespace RockYou.App.Safety

open Cloud Machine

variable {F : Type}

def askedItem : MainEvent F → Option Nat
  | .cellForItemAt item => some item
  | .didSelectItemAt item => some item
  | _ => none

def InRange (state : Option (Watched F)) (event : MainEvent F) (_ : Option (Watched F)) : Prop :=
  ∀ watched ∈ state, ∀ item ∈ askedItem event, item < watched.view.countOfList

/-- A cell is asked for or tapped only after a snapshot with a bicycle of the user, ahead of any
    document without a user, has come since the last refresh. -/
def Stocked (userid : String) (state : Option (Watched F)) (event : MainEvent F)
    (_ : Option (Watched F)) : Prop :=
  ∀ watched ∈ state, askedItem event ≠ none →
    ∃ query documents, (query, documents) ∈ watched.answered ∧
      reached owned userid documents ≠ []

section Index

variable {userid : String} {watched : Watched F}

theorem ListStep.displayed {state next : Option (Watched F)} {event : MainEvent F}
    (step : ListStep userid state event next) (some : watched ∈ state) {item : Nat}
    (asked : item ∈ askedItem event) : item < watched.view.items := by
  obtain ⟨possible, _⟩ := step
  cases some
  cases event with
  | cellForItemAt _ =>
    cases asked
    exact possible
  | didSelectItemAt _ =>
    cases asked
    exact possible
  | _ => cases asked

theorem Tracks.labelInfo_iff (tracks : Tracks userid watched) {item : Nat}
    (displayed : item < watched.view.items) :
    item < watched.view.countOfList ↔ ∃ query documents, (query, documents) ∈ watched.answered ∧
      reached owned userid documents ≠ [] := by
  have stocked : watched.view.labelDataList ≠ [] ↔ ∃ query documents,
      (query, documents) ∈ watched.answered ∧ reached owned userid documents ≠ [] := by
    rw [tracks.listed, ne_eq, List.flatMap_eq_nil_iff]
    simp only [shownBikes, List.map_eq_nil_iff, not_forall, Prod.exists, exists_prop, ne_eq]
  rw [← stocked]
  constructor
  · intro inside empty
    rw [MainView.countOfList, empty] at inside
    exact Nat.not_lt_zero item inside
  · intro nonempty
    rcases tracks.displayed with shown | empty
    · rw [← shown]
      exact displayed
    · exact absurd empty nonempty

end Index

/-- The runs that never index the list out of range are those in which cells are asked for and
    tapped only while the list has been filled since its last refresh. -/
theorem labelInfo_in_range_iff (userid : String) (events : List (MainEvent F))
    (final : Option (Watched F)) :
    Path (restrict (ListStep userid) InRange) (some Watched.initial) events final ↔
      Path (restrict (ListStep userid) (Stocked userid)) (some Watched.initial) events final := by
  apply Path.restrict_iff fun state => ∀ watched ∈ state, Tracks userid watched
  · intro state event next tracks step
    constructor
    · intro inRange watched present asks
      obtain ⟨item, asked⟩ := Option.ne_none_iff_exists'.mp asks
      have displayed := step.displayed present asked
      exact ((tracks watched present).labelInfo_iff displayed).mp
        (inRange watched present item asked)
    · intro stocked watched present item asked
      have displayed := step.displayed present asked
      apply ((tracks watched present).labelInfo_iff displayed).mpr
      apply stocked watched present
      rw [Option.mem_def.mp asked]
      exact nofun
  · intro state event next tracks step _ after reached
    cases reached
    cases state with
    | none => cases step
    | some watched => exact (tracks watched rfl).step step
  · intro watched present
    cases present
    exact ⟨rfl, .inl rfl⟩

theorem tapped_cell_out_of_range :
    ¬ ∀ (userid : String) (events : List (MainEvent Int)) (final : Option (Watched Int)),
      Path (ListStep userid) (some Watched.initial) events final →
        Path (restrict (ListStep userid) InRange) (some Watched.initial) events final := by
  intro inRange
  have path : Path (ListStep "u") (some Watched.initial)
      [.viewWillAppear, .didGetDocuments 0 (some [registeredBike]), .viewWillAppear,
        .didSelectItemAt 0] none := by
    apply Path.cons (.intro True.intro rfl)
    apply Path.cons (.intro (List.mem_singleton.mpr rfl) rfl)
    apply Path.cons (.intro True.intro rfl)
    apply Path.cons (.intro Nat.zero_lt_one rfl)
    exact .nil
  cases inRange "u" _ _ path with
  | cons first rest =>
    obtain ⟨⟨_, rfl⟩, _⟩ := first
    cases rest with
    | cons second rest =>
      obtain ⟨⟨_, rfl⟩, _⟩ := second
      cases rest with
      | cons third rest =>
        obtain ⟨⟨_, rfl⟩, _⟩ := third
        cases rest with
        | cons fourth _ => exact Nat.not_lt_zero 0 (fourth.2 _ rfl 0 rfl)

end RockYou.App.Safety

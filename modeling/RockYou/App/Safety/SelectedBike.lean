import Mathlib
import RockYou.Library.Machine
import RockYou.App.Safety.ReadIsolation

namespace RockYou.App.Safety

open Cloud Loop Machine

section Hold

variable {α : Type*}

def hold : α → List (Option α) → List α
  | _, [] => []
  | current, reading :: readings => reading.getD current :: hold (reading.getD current) readings

theorem hold_forall {good : α → Prop} {current : α} {readings : List (Option α)} :
    (∀ value ∈ hold current readings, good value) ↔
      (∀ value, some value ∈ readings → good value) ∧
        (readings.head? = some none → good current) := by
  induction readings generalizing current with
  | nil => simp [hold]
  | cons reading readings ih =>
    rw [hold, List.forall_mem_cons, ih]
    cases reading with
    | none =>
      simp only [Option.getD_none, List.mem_cons, List.head?_cons]
      grind
    | some value =>
      simp only [Option.getD_some, List.mem_cons, List.head?_cons]
      grind

theorem hold_getLast {current : α} {readings : List (Option α)} :
    (hold current readings).getLast? =
      if readings = [] then none else some ((readings.filterMap id).getLast?.getD current) := by
  induction readings generalizing current with
  | nil => rfl
  | cons reading readings ih =>
    rw [hold, List.getLast?_cons, ih]
    cases reading with
    | none => by_cases last : readings = [] <;> simp [last]
    | some value => by_cases last : readings = [] <;> simp [last, List.getLast?_cons]

end Hold

variable {F : Type}

def halts (userid cell : String) (document : QueryDocument F) : Bool :=
  !ownedAndNamed document || (selected userid cell document && (gpsPoint document).isNone)

def reading (userid cell : String) (document : QueryDocument F) : Option (F × F) :=
  if selected userid cell document then gpsPoint document else none

/-- What the loop reads at each document for which it moves the map. -/
def readings (userid cell : String) (documents : List (QueryDocument F)) : List (Option (F × F)) :=
  (documents.takeWhile fun document => !halts userid cell document).map (reading userid cell)

theorem readings_halted {userid cell : String} {document : QueryDocument F}
    (halted : halts userid cell document = true) (documents : List (QueryDocument F)) :
    readings userid cell (document :: documents) = [] := by
  simp [readings, halted]

theorem readings_cons {userid cell : String} {document : QueryDocument F}
    (passed : halts userid cell document = false) (documents : List (QueryDocument F)) :
    readings userid cell (document :: documents) =
      reading userid cell document :: readings userid cell documents := by
  simp [readings, passed]

def position (view : MapView F) : F × F := (view.latitude, view.longitude)

structure Moved (view : MapView F) (positions : List (F × F)) (after : MapView F) : Prop where
  cell : after.bicycleNicknameOfCell = view.bicycleNicknameOfCell
  shown : after.shown = view.shown ++ positions
  ends : position after = positions.getLast?.getD (position view)

theorem moved_cons {view middle after : MapView F} {point : F × F} {positions : List (F × F)}
    (rest : Moved middle positions after)
    (cell : middle.bicycleNicknameOfCell = view.bicycleNicknameOfCell)
    (shown : middle.shown = view.shown ++ [point]) (current : position middle = point) :
    Moved view (point :: positions) after where
  cell := rest.cell.trans cell
  shown := by rw [rest.shown, shown, List.append_assoc, List.singleton_append]
  ends := by rw [rest.ends, current, List.getLast?_cons, Option.getD_some]

theorem locateDocument_unlocated {userid : String} {document : QueryDocument F} {view : MapView F}
    (chosen : selected userid view.bicycleNicknameOfCell document = true)
    (missing : gpsPoint document = none) : locateDocument userid document view = .stop view := by
  obtain ⟨mine, named⟩ := Bool.and_eq_true_iff.mp chosen
  have nickname : FieldValue.asString (document.get "bicycleNickname") =
      some view.bicycleNicknameOfCell := by
    simpa [nicknamed] using named
  rw [gpsPoint] at missing
  simp only [locateDocument, own_iff.mp mine, nickname, and_self, if_true, missing]

theorem getGPSData_moves (userid : String) (documents : List (QueryDocument F))
    (view : MapView F) :
    ∃ after, (getGPSData userid documents view).state? = some after ∧
      Moved view (hold (position view) (readings userid view.bicycleNicknameOfCell documents))
        after := by
  induction documents generalizing view with
  | nil => exact ⟨view, rfl, rfl, by simp [readings, hold], rfl⟩
  | cons document documents ih =>
    have stopped (final : locateDocument userid document view = .stop view)
        (halted : halts userid view.bicycleNicknameOfCell document = true) :
        ∃ after, (getGPSData userid (document :: documents) view).state? = some after ∧
          Moved view (hold (position view)
            (readings userid view.bicycleNicknameOfCell (document :: documents))) after := by
      refine ⟨view, by rw [getGPSData, forEach_cons, final]; rfl, rfl, ?_, ?_⟩ <;>
        simp [readings_halted halted, hold]
    cases complete : ownedAndNamed document with
    | false => exact stopped (locateDocument_stop complete view) (by simp [halts, complete])
    | true =>
      cases chosen : selected userid view.bicycleNicknameOfCell document with
      | false =>
        obtain ⟨after, ended, moved⟩ := ih (moveLocation view)
        have passed : halts userid view.bicycleNicknameOfCell document = false := by
          simp [halts, complete, chosen]
        have unread : reading userid view.bicycleNicknameOfCell document = none := by
          simp [reading, chosen]
        refine ⟨after, ?_, ?_⟩
        · rw [getGPSData, forEach_cons_next (locateDocument_other complete chosen)]
          exact ended
        · rw [readings_cons passed, unread, hold]
          exact moved_cons moved rfl rfl rfl
      | true =>
        cases located : gpsPoint document with
        | none =>
          exact stopped (locateDocument_unlocated chosen located)
            (by simp [halts, chosen, located])
        | some point =>
          obtain ⟨after, ended, moved⟩ := ih (moveLocation
            { view with latitude := point.1, longitude := point.2, read := view.read ++ [point] })
          have passed : halts userid view.bicycleNicknameOfCell document = false := by
            simp [halts, complete, located]
          have read : reading userid view.bicycleNicknameOfCell document = some point := by
            simp [reading, chosen, located]
          refine ⟨after, ?_, ?_⟩
          · rw [getGPSData, forEach_cons_next (locateDocument_selected chosen located)]
            exact ended
          · rw [readings_cons passed, read, hold]
            exact moved_cons moved rfl rfl rfl

/-- The map screen, with the GPS values that the tapped bicycle's document had so far. -/
structure MapScreen (F : Type) where
  view : MapView F
  points : List (F × F)

def MapScreen.start [Zero F] (labelInfo : LabelData) : MapScreen F where
  view := .initial labelInfo.nickName
  points := []

def pointsOf (idNum : String) (documents : List (QueryDocument F)) : List (F × F) :=
  (documents.filter fun document => document.documentID = idNum).filterMap gpsPoint

def MapShows (userid idNum : String) (screen : MapScreen F) (documents : List (QueryDocument F))
    (next : MapScreen F) : Prop :=
  (getGPSData userid documents screen.view).state? = some next.view ∧
    next.points = screen.points ++ pointsOf idNum documents

/-- The callback moves the map through positions of the tapped bicycle, and ends on the one that it
    has in the snapshot. -/
def FollowsTapped (idNum : String) (screen : MapScreen F) (documents : List (QueryDocument F))
    (next : MapScreen F) : Prop :=
  (∃ positions, next.view.shown = screen.view.shown ++ positions ∧
    ∀ point ∈ positions, point ∈ next.points) ∧
  ∀ point ∈ pointsOf idNum documents, next.view.shown.getLast? = some point

/-- What the callback reads at the documents it moves the map for are positions of the tapped
    bicycle, as is what it shows before the first reading; and the last reading, or else the
    position so far once it is shown, is the one of the tapped bicycle in the snapshot. -/
structure ReadsTapped (userid idNum : String) (screen : MapScreen F)
    (documents : List (QueryDocument F)) : Prop where
  known : ∀ point,
    some point ∈ readings userid screen.view.bicycleNicknameOfCell documents →
      point ∈ screen.points ++ pointsOf idNum documents
  first : (readings userid screen.view.bicycleNicknameOfCell documents).head? = some none →
    position screen.view ∈ screen.points ++ pointsOf idNum documents
  last : ∀ point ∈ pointsOf idNum documents,
    ((readings userid screen.view.bicycleNicknameOfCell documents).filterMap id).getLast?.getD
        (position screen.view) = point ∧
      (readings userid screen.view.bicycleNicknameOfCell documents = [] → screen.view.shown ≠ [])

def ShowsPosition (screen : MapScreen F) : Prop :=
  screen.view.shown ≠ [] → screen.view.shown.getLast? = some (position screen.view)

variable {userid idNum : String} {screen next : MapScreen F} {documents : List (QueryDocument F)}

theorem mapShows_moved (shows : MapShows userid idNum screen documents next) :
    Moved screen.view (hold (position screen.view)
      (readings userid screen.view.bicycleNicknameOfCell documents)) next.view := by
  obtain ⟨after, ended, moved⟩ := getGPSData_moves userid documents screen.view
  rw [shows.1, Option.some.injEq] at ended
  exact ended ▸ moved

theorem mapShows_showsPosition (shows : MapShows userid idNum screen documents next)
    (current : ShowsPosition screen) : ShowsPosition next := by
  have moved := mapShows_moved shows
  intro shown
  rw [moved.shown, moved.ends, hold_getLast, List.getLast?_append, hold_getLast]
  by_cases none : readings userid screen.view.bicycleNicknameOfCell documents = []
  · rw [moved.shown, none, hold, List.append_nil] at shown
    simp [none, current shown]
  · simp [none]

theorem followsTapped_iff (shows : MapShows userid idNum screen documents next)
    (current : ShowsPosition screen) :
    FollowsTapped idNum screen documents next ↔ ReadsTapped userid idNum screen documents := by
  have moved := mapShows_moved shows
  have through : (∃ positions, next.view.shown = screen.view.shown ++ positions ∧
      ∀ point ∈ positions, point ∈ next.points) ↔
      ∀ point ∈ hold (position screen.view)
        (readings userid screen.view.bicycleNicknameOfCell documents), point ∈ next.points := by
    rw [moved.shown]
    constructor
    · intro ⟨positions, same, known⟩
      rw [List.append_cancel_left_eq] at same
      exact same ▸ known
    · exact fun known => ⟨_, rfl, known⟩
  have ends (point : F × F) : next.view.shown.getLast? = some point ↔
      ((readings userid screen.view.bicycleNicknameOfCell documents).filterMap id).getLast?.getD
        (position screen.view) = point ∧
      (readings userid screen.view.bicycleNicknameOfCell documents = [] →
        screen.view.shown ≠ []) := by
    rw [moved.shown, List.getLast?_append, hold_getLast]
    by_cases none : readings userid screen.view.bicycleNicknameOfCell documents = []
    · by_cases shown : screen.view.shown = []
      · simp [none, shown]
      · simp [none, shown, current shown]
    · simp [none]
  rw [FollowsTapped, through, hold_forall, shows.2]
  constructor
  · intro ⟨⟨known, first⟩, last⟩
    exact ⟨known, first, fun point member => (ends point).mp (last point member)⟩
  · intro reads
    exact ⟨⟨reads.known, reads.first⟩,
      fun point member => (ends point).mpr (reads.last point member)⟩

end RockYou.App.Safety

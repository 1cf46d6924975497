import Mathlib
import RockYou.Library.Machine
import RockYou.Firmware.Sketch

namespace RockYou.Firmware.Safety

variable {G F : Type} [Zero F] [BEq F] [LE F] [DecidableLE F] [OfNat F 4]

section Segment

variable (tiny : TinyGPS G F)

def silent (arounds : List (Surroundings F)) : List (Step F) := arounds.map (.loop (-1))

def fixes : G → List (Surroundings F) → List (GPSValue F)
  | _, [] => []
  | gps, around :: rest =>
    decodedFix tiny around.window gps :: fixes (readWindow tiny around.window gps false).1 rest

def AllDecode : G → List (Surroundings F) → Prop
  | _, [] => True
  | gps, around :: rest =>
    newData tiny around.window gps = true ∧
      AllDecode (readWindow tiny around.window gps false).1 rest

def isTheftReport : Event F → Bool
  | .updateFirebase .state data => data == BicycleState.steel.value
  | _ => false

theorem silent_step (around : Surroundings F) (board : Board G F) :
    deviceStep tiny board (.loop (-1) around) = gpsCheck tiny around board := by
  simp only [deviceStep, iteration, bluetoothCheck_none, List.nil_append]

theorem no_theft_report {around : Surroundings F} {board : Board G F}
    (unlocked : board.value.state ≠ BicycleState.locked.value) :
    (gpsCheck tiny around board).2.countP isTheftReport = 0 := by
  rw [List.countP_eq_zero]
  intro event member
  rcases mem_gpsCheck member with ⟨_, _, rfl⟩ | ⟨_, locked⟩ | ⟨_, _, _, rfl⟩
  · simp [isTheftReport]
  · exact absurd locked unlocked
  · simp [isTheftReport]

theorem one_theft_report {around : Surroundings F} {board : Board G F}
    (far : Exceeds tiny around board) (locked : board.value.state = BicycleState.locked.value) :
    (gpsCheck tiny around board).2.countP isTheftReport = 1 := by
  have located : (reportPosition tiny around board).2.countP isTheftReport = 0 := by
    rw [List.countP_eq_zero]
    intro event member
    rcases mem_reportPosition tiny around board member with ⟨_, _, rfl⟩ | ⟨_, _, rfl⟩ <;>
      simp [isTheftReport]
  have sent (content : FirebaseJson F) :
      (sendPatch around.theftLink ["state"] content).countP isTheftReport = 0 := by
    rw [List.countP_eq_zero]
    intro event member
    obtain ⟨_, rfl⟩ := mem_sendPatch member
    simp [isTheftReport]
  rw [gpsCheck_theft tiny around board far locked, List.countP_append, located,
    updateFirebase_state, List.countP_cons, sent]
  simp [isTheftReport]

theorem steel_latched (arounds : List (Surroundings F)) (board : Board G F)
    (stolen : board.value.state = BicycleState.steel.value) :
    (Machine.run (deviceStep tiny) board (silent arounds)).1.value.state =
        BicycleState.steel.value ∧
      (Machine.run (deviceStep tiny) board (silent arounds)).2.countP isTheftReport = 0 := by
  induction arounds generalizing board with
  | nil => exact ⟨stolen, rfl⟩
  | cons around arounds ih =>
    have unlocked : board.value.state ≠ BicycleState.locked.value := by simp [stolen]
    have kept : (gpsCheck tiny around board).1.value.state = BicycleState.steel.value := by
      rcases gpsCheck_state tiny around board with same | ⟨locked, _⟩
      · rw [same, stolen]
      · exact absurd locked unlocked
    obtain ⟨final, quiet⟩ := ih (gpsCheck tiny around board).1 kept
    rw [silent, List.map_cons, Machine.run_cons, silent_step]
    exact ⟨final, by rw [List.countP_append, no_theft_report tiny unlocked, ← silent, quiet]⟩

variable {tiny} {reference : GPSValue F}

theorem near_step {around : Surroundings F} {board : Board G F}
    (locked : board.value.state = BicycleState.locked.value)
    (stored : board.value.preGpsValue = reference) (nonzero : (reference.latitude != 0) = true)
    (decoded : newData tiny around.window board.gps = true)
    (near : ¬ 4 ≤ tiny.distance (decodedFix tiny around.window board.gps) reference) :
    (gpsCheck tiny around board).1.value.state = BicycleState.locked.value ∧
      (gpsCheck tiny around board).1.value.preGpsValue = reference ∧
      (gpsCheck tiny around board).2 = [] := by
  subst stored
  have quiet := gpsCheck_quiet tiny around board (mt (exceeds_iff nonzero decoded).mp near)
  rw [quiet]
  exact ⟨locked, rfl, rfl⟩

theorem near_segment (arounds : List (Surroundings F)) (board : Board G F)
    (locked : board.value.state = BicycleState.locked.value)
    (stored : board.value.preGpsValue = reference) (nonzero : (reference.latitude != 0) = true)
    (decoded : AllDecode tiny board.gps arounds)
    (near : ∀ fix ∈ fixes tiny board.gps arounds, ¬ 4 ≤ tiny.distance fix reference) :
    (Machine.run (deviceStep tiny) board (silent arounds)).1.value.state =
        BicycleState.locked.value ∧
      (Machine.run (deviceStep tiny) board (silent arounds)).1.value.preGpsValue = reference ∧
      (Machine.run (deviceStep tiny) board (silent arounds)).2 = [] := by
  induction arounds generalizing board with
  | nil => exact ⟨locked, stored, rfl⟩
  | cons around arounds ih =>
    obtain ⟨first, rest⟩ := decoded
    obtain ⟨stillLocked, frozen, quiet⟩ :=
      near_step locked stored nonzero first (near _ (by simp [fixes]))
    rw [silent, List.map_cons, Machine.run_cons, silent_step, quiet, List.nil_append]
    apply ih _ stillLocked frozen
    · rw [gpsCheck_gps]
      exact rest
    · intro fix member
      rw [gpsCheck_gps] at member
      exact near fix (List.mem_cons_of_mem _ member)

/-- A silent segment of a locked bicycle ends stolen exactly when some fix is 4 m from the
    reference, and the theft is then reported once. -/
theorem theft_segment (arounds : List (Surroundings F)) (board : Board G F)
    (locked : board.value.state = BicycleState.locked.value)
    (stored : board.value.preGpsValue = reference) (nonzero : (reference.latitude != 0) = true)
    (decoded : AllDecode tiny board.gps arounds)
    (moved : ∃ fix ∈ fixes tiny board.gps arounds, 4 ≤ tiny.distance fix reference) :
    (Machine.run (deviceStep tiny) board (silent arounds)).1.value.state =
        BicycleState.steel.value ∧
      (Machine.run (deviceStep tiny) board (silent arounds)).2.countP isTheftReport = 1 := by
  induction arounds generalizing board with
  | nil => simp [fixes] at moved
  | cons around arounds ih =>
    obtain ⟨first, rest⟩ := decoded
    rw [silent, List.map_cons, Machine.run_cons, silent_step]
    by_cases far : 4 ≤ tiny.distance (decodedFix tiny around.window board.gps) reference
    · have exceeds : Exceeds tiny around board := by
        rw [exceeds_iff (by rw [stored]; exact nonzero) first, stored]
        exact far
      have stolen : (gpsCheck tiny around board).1.value.state = BicycleState.steel.value := by
        rw [gpsCheck_theft tiny around board exceeds locked]
      obtain ⟨final, quiet⟩ := steel_latched tiny arounds _ stolen
      exact ⟨final, by
        rw [List.countP_append, one_theft_report tiny exceeds locked, ← silent, quiet]⟩
    · obtain ⟨stillLocked, frozen, quiet⟩ := near_step locked stored nonzero first far
      rw [quiet, List.nil_append]
      apply ih _ stillLocked frozen
      · rw [gpsCheck_gps]
        exact rest
      · obtain ⟨fix, member, away⟩ := moved
        rcases List.mem_cons.mp member with rfl | later
        · exact absurd away far
        · rw [gpsCheck_gps]
          exact ⟨fix, later, away⟩

omit [Zero F] [BEq F] [LE F] [DecidableLE F] [OfNat F 4] in
theorem AllDecode.take {gps : G} {arounds : List (Surroundings F)}
    (decoded : AllDecode tiny gps arounds) (count : Nat) :
    AllDecode tiny gps (arounds.take count) := by
  induction arounds generalizing gps count with
  | nil => simpa using decoded
  | cons around arounds ih =>
    cases count with
    | zero => exact True.intro
    | succ count => exact ⟨decoded.1, ih decoded.2 count⟩

theorem theft_detection_exact (tiny : TinyGPS G F) (reference : GPSValue F)
    (arounds : List (Surroundings F)) (board : Board G F)
    (locked : board.value.state = BicycleState.locked.value)
    (stored : board.value.preGpsValue = reference) (nonzero : (reference.latitude != 0) = true)
    (decoded : AllDecode tiny board.gps arounds) :
    ((Machine.run (deviceStep tiny) board (silent arounds)).1.value.state =
        BicycleState.steel.value ↔
      ∃ fix ∈ fixes tiny board.gps arounds, 4 ≤ tiny.distance fix reference) ∧
    ((Machine.run (deviceStep tiny) board (silent arounds)).1.value.state =
        BicycleState.locked.value ↔
      ¬ ∃ fix ∈ fixes tiny board.gps arounds, 4 ≤ tiny.distance fix reference) ∧
    (∀ count,
      (∀ fix ∈ fixes tiny board.gps (arounds.take count), ¬ 4 ≤ tiny.distance fix reference) →
        (Machine.run (deviceStep tiny) board (silent (arounds.take count))).1.value.preGpsValue =
          reference) ∧
    ((∃ fix ∈ fixes tiny board.gps arounds, 4 ≤ tiny.distance fix reference) →
      (Machine.run (deviceStep tiny) board (silent arounds)).2.countP isTheftReport = 1) ∧
    ((¬ ∃ fix ∈ fixes tiny board.gps arounds, 4 ≤ tiny.distance fix reference) →
      (Machine.run (deviceStep tiny) board (silent arounds)).2.countP isTheftReport = 0) := by
  have frozen : ∀ count,
      (∀ fix ∈ fixes tiny board.gps (arounds.take count), ¬ 4 ≤ tiny.distance fix reference) →
        (Machine.run (deviceStep tiny) board (silent (arounds.take count))).1.value.preGpsValue =
          reference := by
    intro count near
    exact (near_segment _ board locked stored nonzero (decoded.take count) near).2.1
  by_cases moved : ∃ fix ∈ fixes tiny board.gps arounds, 4 ≤ tiny.distance fix reference
  · obtain ⟨stolen, once⟩ := theft_segment arounds board locked stored nonzero decoded moved
    have unlocked : (Machine.run (deviceStep tiny) board (silent arounds)).1.value.state ≠
        BicycleState.locked.value := by
      simp [stolen]
    exact ⟨iff_of_true stolen moved, iff_of_false unlocked (not_not_intro moved), frozen,
      fun _ => once, fun absent => absurd moved absent⟩
  · have near : ∀ fix ∈ fixes tiny board.gps arounds, ¬ 4 ≤ tiny.distance fix reference :=
      fun fix member far => moved ⟨fix, member, far⟩
    obtain ⟨stillLocked, _, quiet⟩ := near_segment arounds board locked stored nonzero decoded near
    have notStolen : (Machine.run (deviceStep tiny) board (silent arounds)).1.value.state ≠
        BicycleState.steel.value := by
      simp [stillLocked]
    have none : (Machine.run (deviceStep tiny) board (silent arounds)).2.countP isTheftReport = 0 := by
      rw [quiet]
      rfl
    exact ⟨iff_of_false notStolen moved, iff_of_true stillLocked moved, frozen,
      fun present => absurd present moved, fun _ => none⟩

end Segment

theorem theft_detection_slow_drift :
    (Machine.run (deviceStep meridianGPS) parked
      (silent [onMeridian 12, onMeridian 14])).2.countP isTheftReport = 1 :=
  (theft_detection_exact meridianGPS { latitude := 10, longitude := 1 }
    [onMeridian 12, onMeridian 14] parked rfl rfl rfl ⟨rfl, rfl, True.intro⟩).2.2.2.1
    ⟨{ latitude := 14, longitude := 1 }, by decide, by decide⟩

end RockYou.Firmware.Safety

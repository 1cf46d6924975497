import Mathlib
import RockYou.Library.Machine
import RockYou.Firmware.Safety.CloudState
import RockYou.Firmware.Safety.PublishedPosition

namespace RockYou.Firmware.Safety

open Cloud Machine

variable {G F : Type} [Zero F] [OfNat F 4] [LinearOrder F]

def Shows (bicycle : Collection F) (fix : GPSValue F) : Prop :=
  deviceField bicycle "GPS" = some (.geoPoint fix.latitude fix.longitude)

structure Tracks (board : Board G F) (bicycle : Collection F) : Prop where
  plain : Plain board.content
  shown : board.value.preGpsValue.latitude ≠ 0 → Shows bicycle board.value.preGpsValue

omit [OfNat F 4] [LinearOrder F] in
theorem silent_shows {events : List (Event F)}
    (silent : ∀ event ∈ events, publishesGPS event = false) (bicycle : Collection F)
    (fix : GPSValue F) : Shows (events.foldl observeCloud bicycle) fix ↔ Shows bicycle fix := by
  rw [Shows, observeCloud_fields fun event member => unpatched_of_silent (silent event member)]
  rfl

omit [OfNat F 4] [LinearOrder F] in
theorem reportPosition_shows (tiny : TinyGPS G F) {around : Surroundings F} {board : Board G F}
    (plain : Plain board.content) (link : around.longitudeLink = .delivered)
    (bicycle : Collection F) :
    Shows ((reportPosition tiny around board).2.foldl observeCloud bicycle)
      (returnedFix tiny around board) := by
  have document := document_longitude plain (returnedFix tiny around board).latitude
    (returnedFix tiny around board).longitude around.latitudeLink around.longitudeLink
  rw [reportPosition, List.foldl_append, Shows]
  simp only [updateGPSFirebase, List.cons_append, List.nil_append, List.foldl_cons,
    sendPatch_cloud, link, if_true]
  simp only [deviceField, DocumentStore.lookup_patch, Option.bind_some]
  rw [DocumentStore.Document.patch_masked (by simp)]
  exact document

theorem gpsCheck_tracks (tiny : TinyGPS G F) {around : Surroundings F} {board : Board G F}
    {bicycle : Collection F} (tracks : Tracks board bicycle)
    (decoded : newData tiny around.window board.gps = true)
    (link : around.longitudeLink = .delivered) :
    let after := (gpsCheck tiny around board).1
    let fix := decodedFix tiny around.window board.gps
    Plain after.content ∧
      Shows ((gpsCheck tiny around board).2.foldl observeCloud bicycle) after.value.preGpsValue ∧
      (fix = after.value.preGpsValue ∨ tiny.distance fix after.value.preGpsValue < 4) := by
  intro after fix
  have returned : returnedFix tiny around board = fix := getGPSValue_of_newData decoded _
  have reported := reportPosition_shows tiny tracks.plain link bicycle
  apply And.intro (gpsCheck_plain tiny around tracks.plain)
  rcases gpsCheck_cases tiny around board with
    ⟨near, result⟩ | ⟨_, _, result⟩ | ⟨_, _, result⟩ <;> simp only [after, result]
  · have stored : board.value.preGpsValue.latitude ≠ 0 := by
      intro zero
      exact near (.inr (by simp [zero]))
    have close : ¬ 4 ≤ tiny.distance fix board.value.preGpsValue := by
      intro far
      exact near ((exceeds_iff (by simp [stored]) decoded).mpr far)
    exact ⟨tracks.shown stored, .inr (not_le.mp close)⟩
  · exact ⟨reported, .inl returned.symm⟩
  · rw [List.foldl_append, silent_shows (updateFirebase_unpublished _ _ _)]
    exact ⟨reported, .inl returned.symm⟩

/-- The iteration decodes a fix and all its patches are delivered. -/
def Located (tiny : TinyGPS G F) (board : Board G F) : Step F → Prop
  | .setup _ => True
  | .loop _ around => newData tiny around.window board.gps = true ∧ Connected around

theorem iteration_tracks (tiny : TinyGPS G F) (lockCmd : BitVec 32) {around : Surroundings F}
    {board : Board G F} {bicycle : Collection F} (tracks : Tracks board bicycle)
    (located : Located tiny board (.loop lockCmd around)) :
    let after := (iteration tiny lockCmd around board).1
    let fix := decodedFix tiny around.window board.gps
    Plain after.content ∧
      Shows ((iteration tiny lockCmd around board).2.foldl observeCloud bicycle)
        after.value.preGpsValue ∧
      (fix = after.value.preGpsValue ∨ tiny.distance fix after.value.preGpsValue < 4) := by
  obtain ⟨decoded, connected⟩ := located
  obtain ⟨stored, decoder⟩ := bluetoothCheck_frame around.commandLink board lockCmd
  have checked : Tracks (bluetoothCheck lockCmd around.commandLink board).1
      ((bluetoothCheck lockCmd around.commandLink board).2.foldl observeCloud bicycle) := by
    refine ⟨bluetoothCheck_plain lockCmd around.commandLink tracks.plain, ?_⟩
    rw [stored, silent_shows (bluetoothCheck_unpublished lockCmd around.commandLink board)]
    exact tracks.shown
  rw [← decoder] at decoded
  have moved := gpsCheck_tracks tiny checked decoded connected.2.2.1
  rw [iteration_board, iteration_events, List.foldl_append, ← decoder]
  exact moved

theorem deviceStep_tracks (tiny : TinyGPS G F) {step : Step F} {board : Board G F}
    {bicycle : Collection F} (tracks : Tracks board bicycle) (located : Located tiny board step) :
    Tracks (deviceStep tiny board step).1
      ((deviceStep tiny board step).2.foldl observeCloud bicycle) := by
  cases step with
  | setup value => exact ⟨plain_cleared, fun stored => absurd rfl stored⟩
  | loop lockCmd around =>
    obtain ⟨plain, shown, _⟩ := iteration_tracks tiny lockCmd tracks located
    exact ⟨plain, fun _ => shown⟩

/-- After every iteration of a run that decodes fixes and delivers its patches, the document shows
    the stored position, and the fix is that position or less than 4 m from it. -/
theorem tracking_accurate (tiny : TinyGPS G F) (board : Board G F) (bicycle : Collection F)
    (value : ValueClass F) (steps : List (Step F)) (lockCmd : BitVec 32) (around : Surroundings F)
    (located : Along (deviceStep tiny) (Located tiny) board
      (.setup value :: (steps ++ [.loop lockCmd around]))) :
    let before := Machine.run (deviceStep tiny) board (.setup value :: steps)
    let after := Machine.run (deviceStep tiny) board
      (.setup value :: (steps ++ [.loop lockCmd around]))
    let published := after.1.value.preGpsValue
    let fix := decodedFix tiny around.window before.1.gps
    deviceField (after.2.foldl observeCloud bicycle) "GPS" =
        some (.geoPoint published.latitude published.longitude) ∧
      (fix = published ∨ tiny.distance fix published < 4) := by
  intro before after published fix
  have whole : after = ((iteration tiny lockCmd around before.1).1,
      before.2 ++ (iteration tiny lockCmd around before.1).2) := by
    simp only [after, ← List.cons_append, Machine.run_append, Machine.run_singleton]
    rfl
  rw [← List.cons_append, along_append] at located
  have started : Tracks (deviceStep tiny board (.setup value)).1
      ((deviceStep tiny board (.setup value)).2.foldl observeCloud bicycle) :=
    ⟨plain_cleared, fun stored => absurd rfl stored⟩
  have tracks : Tracks before.1 (before.2.foldl observeCloud bicycle) := by
    simp only [before, Machine.run_cons, List.foldl_append]
    exact run_along Tracks (fun _ _ _ tracks located => deviceStep_tracks tiny tracks located)
      located.1.2 started
  obtain ⟨_, shown, near⟩ := iteration_tracks tiny lockCmd tracks located.2.1
  simp only [published, whole, List.foldl_append]
  exact ⟨shown, near⟩

theorem tracking_accurate_within_reach :
    deviceField ((Machine.run (deviceStep meridianGPS) unpowered
      [.setup unpowered.value, .loop (-1) (onMeridian 10), .loop (-1) (onMeridian 13)]).2.foldl
        observeCloud ∅) "GPS" = some (.geoPoint 10 1) :=
  (tracking_accurate meridianGPS unpowered ∅ unpowered.value [.loop (-1) (onMeridian 10)] (-1)
    (onMeridian 13) ⟨True.intro, ⟨rfl, rfl, rfl, rfl, rfl⟩, ⟨rfl, rfl, rfl, rfl, rfl⟩,
      True.intro⟩).1

end RockYou.Firmware.Safety

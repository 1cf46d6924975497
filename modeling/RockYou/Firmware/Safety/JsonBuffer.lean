import RockYou.Firmware.Firebase

namespace RockYou.Firmware.Safety

open Cloud

variable {F : Type}

section Buffer

/-- No entry of the buffer makes the GPS field a number. -/
def Plain (content : FirebaseJson F) : Prop := content ["fields", "GPS", "integerValue"] = none

theorem plain_cleared : Plain (FirebaseJson.cleared : FirebaseJson F) := rfl

theorem plain_state (data : Int) (link : Link) (content : FirebaseJson F) :
    Plain (updateFirebase .state data link content).1 := by
  simp [Plain, updateFirebase, FirebaseJson.set, FirebaseJson.cleared]

theorem plain_lock (data : Int) (link : Link) (content : FirebaseJson F) :
    Plain (updateFirebase .lock data link content).1 := by
  simp [Plain, updateFirebase, FirebaseJson.set, FirebaseJson.cleared]

theorem plain_latitude {content : FirebaseJson F} (plain : Plain content) (data : F) (link : Link) :
    Plain (updateGPSFirebase .latitude data link content).1 := by
  simpa [Plain, updateGPSFirebase, FirebaseJson.set] using plain

theorem plain_longitude {content : FirebaseJson F} (plain : Plain content) (data : F)
    (link : Link) : Plain (updateGPSFirebase .longitude data link content).1 := by
  simpa [Plain, updateGPSFirebase, FirebaseJson.set] using plain

variable [Zero F]

/-- The longitude that a patch of the buffer publishes; zero where the buffer has none. -/
def bufferedLongitude (content : FirebaseJson F) : F :=
  match content ["fields", "GPS", "geoPointValue", "longitude"] with
  | some (.number longitude) => longitude
  | _ => 0

theorem document_latitude {content : FirebaseJson F} (plain : Plain content) (data : F)
    (link : Link) :
    (updateGPSFirebase .latitude data link content).1.document "GPS" =
      some (.geoPoint data (bufferedLongitude content)) := by
  have unchanged : (updateGPSFirebase .latitude data link content).1
      ["fields", "GPS", "geoPointValue", "longitude"] =
        content ["fields", "GPS", "geoPointValue", "longitude"] := by
    simp [updateGPSFirebase, FirebaseJson.set]
  have written : (updateGPSFirebase .latitude data link content).1
      ["fields", "GPS", "geoPointValue", "latitude"] = some (.number data) := by
    simp [updateGPSFirebase, FirebaseJson.set]
  have noInteger := plain_latitude plain data link
  unfold Plain at noInteger
  simp only [FirebaseJson.document, noInteger, written, unchanged, bufferedLongitude]
  rcases content ["fields", "GPS", "geoPointValue", "longitude"] with _ | _ | _ <;> rfl

theorem document_longitude {content : FirebaseJson F} (plain : Plain content)
    (latitude longitude : F) (first second : Link) :
    (updateGPSFirebase .longitude longitude second
      (updateGPSFirebase .latitude latitude first content).1).1.document "GPS" =
        some (.geoPoint latitude longitude) := by
  have noInteger := plain_longitude (plain_latitude plain latitude first) longitude second
  have latitudeKept : (updateGPSFirebase .longitude longitude second
      (updateGPSFirebase .latitude latitude first content).1).1
        ["fields", "GPS", "geoPointValue", "latitude"] = some (.number latitude) := by
    simp [updateGPSFirebase, FirebaseJson.set]
  have written : (updateGPSFirebase .longitude longitude second
      (updateGPSFirebase .latitude latitude first content).1).1
        ["fields", "GPS", "geoPointValue", "longitude"] = some (.number longitude) := by
    simp [updateGPSFirebase, FirebaseJson.set]
  unfold Plain at noInteger
  simp only [FirebaseJson.document, noInteger, latitudeKept, written]

end Buffer

inductive UpdateCall (F : Type) where
  | state (data : Int)
  | lock (data : Int)
  | latitude (data : F)
  | longitude (data : F)

def UpdateCall.field : UpdateCall F → String
  | .state _ => "state"
  | .lock _ => "lock"
  | .latitude _ => "GPS"
  | .longitude _ => "GPS"

def UpdateCall.run (link : Link) (content : FirebaseJson F) :
    UpdateCall F → FirebaseJson F × List (Event F)
  | .state data => updateFirebase .state data link content
  | .lock data => updateFirebase .lock data link content
  | .latitude data => updateGPSFirebase .latitude data link content
  | .longitude data => updateGPSFirebase .longitude data link content

structure Publishing (F : Type) where
  content : FirebaseJson F
  bicycle : Collection F

variable [Zero F]

def publish (publishing : Publishing F) (call : UpdateCall F × Link) : Publishing F :=
  let (content, events) := call.1.run call.2 publishing.content
  { content := content, bicycle := events.foldl observeCloud publishing.bicycle }

omit [Zero F] in
theorem run_patches {call : UpdateCall F} {link : Link} {content : FirebaseJson F} {name : String}
    {event : Event F} (member : event ∈ (call.run link content).2) (patches : event.Patches name) :
    name = call.field := by
  cases call <;> cases link <;>
    simp only [UpdateCall.run, updateFirebase, updateGPSFirebase, sendPatch, List.append_nil,
      List.cons_append, List.nil_append, List.mem_cons, List.not_mem_nil, or_false] at member <;>
    rcases member with rfl | rfl <;> simp_all [Event.Patches, UpdateCall.field]

theorem publish_field (publishing : Publishing F) (call : UpdateCall F × Link) {name : String}
    (different : name ≠ call.1.field) :
    deviceField (publish publishing call).bicycle name = deviceField publishing.bicycle name := by
  apply observeCloud_fields
  intro event member patches
  exact different (run_patches member patches)

theorem publish_plain {publishing : Publishing F} (plain : Plain publishing.content)
    (call : UpdateCall F × Link) : Plain (publish publishing call).content := by
  obtain ⟨call, link⟩ := call
  cases call with
  | state data => exact plain_state data link publishing.content
  | lock data => exact plain_lock data link publishing.content
  | latitude data => exact plain_latitude plain data link
  | longitude data => exact plain_longitude plain data link

theorem publish_all_plain {publishing : Publishing F} (plain : Plain publishing.content)
    (calls : List (UpdateCall F × Link)) : Plain (calls.foldl publish publishing).content := by
  induction calls generalizing publishing with
  | nil => exact plain
  | cons call calls ih => exact ih (publish_plain plain call)

theorem publish_state (publishing : Publishing F) (data : Int) :
    deviceField (publish publishing (.state data, .delivered)).bicycle "state" =
      some (.integer data) := by
  change deviceField ((updateFirebase .state data .delivered publishing.content).2.foldl
    observeCloud publishing.bicycle) "state" = _
  rw [updateFirebase_field, if_pos rfl]

theorem publish_coordinates {publishing : Publishing F} (plain : Plain publishing.content)
    (latitude longitude : F) (first : Link) :
    deviceField (publish (publish publishing (.latitude latitude, first))
      (.longitude longitude, .delivered)).bicycle "GPS" = some (.geoPoint latitude longitude) := by
  have written := document_longitude plain latitude longitude first .delivered
  change deviceField (DocumentStore.patch bicycleId ["GPS"] _ _) "GPS" = _
  simp only [deviceField, DocumentStore.lookup_patch, Option.bind_some]
  rw [DocumentStore.Document.patch_masked (by simp)]
  exact written

/-- After any calls with any outcomes, a call touches its own field only, two coordinates in a row
    publish exactly themselves once the second is delivered, and a delivered state is shown. -/
theorem buffer_never_leaks (bicycle : Collection F) (calls : List (UpdateCall F × Link)) :
    let before := calls.foldl publish { content := FirebaseJson.cleared, bicycle := bicycle }
    (∀ call name, name ≠ call.1.field →
      deviceField (publish before call).bicycle name = deviceField before.bicycle name) ∧
    (∀ call id, id ≠ bicycleId →
      (publish before call).bicycle.lookup id = before.bicycle.lookup id) ∧
    (∀ latitude longitude first,
      deviceField (publish (publish before (.latitude latitude, first))
        (.longitude longitude, .delivered)).bicycle "GPS" = some (.geoPoint latitude longitude)) ∧
    ∀ data, deviceField (publish before (.state data, .delivered)).bicycle "state" =
      some (.integer data) := by
  intro before
  have plain : Plain before.content := publish_all_plain plain_cleared calls
  refine ⟨?_, ?_, publish_coordinates plain, publish_state before⟩
  · intro call name different
    exact publish_field before call different
  · intro call id different
    exact observeCloud_other different _ _

end RockYou.Firmware.Safety

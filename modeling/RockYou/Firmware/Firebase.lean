import RockYou.Cloud.Document
import RockYou.Firmware.Event

namespace RockYou.Firmware

open Cloud

variable {F : Type}

/-- The tail shared by both update functions: the patch is sent only when Firebase is ready,
    and its outcome is printed and dropped. -/
def sendPatch (link : Link) (updateMask : List String) (content : FirebaseJson F) :
    List (Event F) :=
  match link with
  | .notReady => []
  | .failed => [.patchDocument updateMask content false]
  | .delivered => [.patchDocument updateMask content true]

def updateFirebase (updateValue : UpdateValue) (data : Int) (link : Link)
    (_ : FirebaseJson F) : FirebaseJson F × List (Event F) :=
  let (jsonPath, updateMask, printed) : List String × List String × List (Event F) :=
    match updateValue with
    | .lock => (["fields", "lock", "integerValue"], ["lock"], [])
    | .state => (["fields", "state", "integerValue"], ["state"], [])
    | _ => ([], [], [.println "Need to update state first"])
  let content := FirebaseJson.cleared.set jsonPath (.text data)
  (content, Event.updateFirebase updateValue data :: printed ++ sendPatch link updateMask content)

/-- As `updateFirebase` for coordinates, but the buffer is not cleared first. -/
def updateGPSFirebase (updateValue : UpdateValue) (data : F) (link : Link)
    (content : FirebaseJson F) : FirebaseJson F × List (Event F) :=
  let (jsonPath, updateMask, printed) : List String × List String × List (Event F) :=
    match updateValue with
    | .longitude => (["fields", "GPS", "geoPointValue", "longitude"], ["GPS"], [])
    | .latitude => (["fields", "GPS", "geoPointValue", "latitude"], ["GPS"], [])
    | _ => ([], [], [.println "Need to update state first"])
  let content := content.set jsonPath (.number data)
  (content, Event.updateGPSFirebase updateValue data :: printed ++ sendPatch link updateMask content)

theorem updateFirebase_state (data : Int) (link : Link) (content : FirebaseJson F) :
    updateFirebase .state data link content =
      (FirebaseJson.cleared.set ["fields", "state", "integerValue"] (.text data),
        .updateFirebase .state data :: sendPatch link ["state"]
          (FirebaseJson.cleared.set ["fields", "state", "integerValue"] (.text data))) := rfl

theorem mem_sendPatch {link : Link} {updateMask : List String} {content : FirebaseJson F}
    {event : Event F} (member : event ∈ sendPatch link updateMask content) :
    ∃ succeeded, event = .patchDocument updateMask content succeeded := by
  cases link <;> simp [sendPatch] at member
  · exact ⟨false, member⟩
  · exact ⟨true, member⟩

theorem mem_updateFirebase_state {data : Int} {link : Link} {content : FirebaseJson F}
    {event : Event F} (member : event ∈ (updateFirebase .state data link content).2) :
    event = .updateFirebase .state data ∨
      ∃ sent succeeded, event = .patchDocument ["state"] sent succeeded := by
  rw [updateFirebase_state, List.mem_cons] at member
  rcases member with same | sent
  · exact .inl same
  · exact .inr ⟨_, mem_sendPatch sent⟩

/-- The document that Firestore reads off the buffer; a coordinate left out of a geo point is zero. -/
def FirebaseJson.document [Zero F] (content : FirebaseJson F) : Document F := fun name =>
  match content ["fields", name, "integerValue"] with
  | some (.text data) => some (.integer data)
  | _ =>
    match content ["fields", name, "geoPointValue", "latitude"],
      content ["fields", name, "geoPointValue", "longitude"] with
    | some (.number latitude), some (.number longitude) => some (.geoPoint latitude longitude)
    | some (.number latitude), _ => some (.geoPoint latitude 0)
    | _, some (.number longitude) => some (.geoPoint 0 longitude)
    | _, _ => none

/-- Firestore's side of an event: a patch that succeeded writes the masked fields of the
    device's document and creates it when it is missing. -/
def observeCloud [Zero F] (bicycle : Collection F) : Event F → Collection F
  | .patchDocument updateMask content true =>
    DocumentStore.patch bicycleId updateMask content.document bicycle
  | _ => bicycle

def deviceField (bicycle : Collection F) (name : String) : Option (FieldValue F) :=
  (bicycle.lookup bicycleId).bind fun document => document name

def Event.isWrite : Event F → Bool
  | .patchDocument _ _ succeeded => succeeded
  | _ => false

def Event.Patches (name : String) : Event F → Prop
  | .patchDocument updateMask _ true => name ∈ updateMask
  | _ => False

section Cloud

variable [Zero F]

theorem observeCloud_field {name : String} {event : Event F} (untouched : ¬ event.Patches name)
    (bicycle : Collection F) :
    deviceField (observeCloud bicycle event) name = deviceField bicycle name := by
  cases event with
  | patchDocument updateMask content succeeded =>
    cases succeeded with
    | false => rfl
    | true =>
      change name ∉ updateMask at untouched
      simp only [observeCloud, deviceField, DocumentStore.lookup_patch, Option.bind_some,
        DocumentStore.Document.patch_unmasked untouched]
      cases bicycle.lookup bicycleId <;> rfl
  | _ => rfl

theorem observeCloud_fields {name : String} {events : List (Event F)}
    (untouched : ∀ event ∈ events, ¬ event.Patches name) (bicycle : Collection F) :
    deviceField (events.foldl observeCloud bicycle) name = deviceField bicycle name := by
  induction events generalizing bicycle with
  | nil => rfl
  | cons event events ih =>
    rw [List.foldl_cons, ih fun other member => untouched other (List.mem_cons_of_mem _ member)]
    exact observeCloud_field (untouched event (by simp)) bicycle

omit [Zero F] in
theorem Event.Patches.isWrite {name : String} {event : Event F} (patches : event.Patches name) :
    event.isWrite = true := by
  cases event with
  | patchDocument updateMask content succeeded =>
    cases succeeded with
    | false => exact patches.elim
    | true => rfl
  | _ => exact patches.elim

theorem observeCloud_writes (events : List (Event F)) (bicycle : Collection F) :
    (events.filter Event.isWrite).foldl observeCloud bicycle =
      events.foldl observeCloud bicycle := by
  induction events generalizing bicycle with
  | nil => rfl
  | cons event events ih =>
    cases written : event.isWrite with
    | true => rw [List.filter_cons_of_pos written, List.foldl_cons, List.foldl_cons, ih]
    | false =>
      have unseen : observeCloud bicycle event = bicycle := by
        cases event with
        | patchDocument updateMask content succeeded =>
          cases written
          rfl
        | _ => rfl
      rw [List.filter_cons_of_neg (by simp [written]), ih, List.foldl_cons, unseen]

theorem observeCloud_unpatched {events : List (Event F)}
    (unpatched : ∀ event ∈ events, ∀ updateMask content,
      event ≠ .patchDocument updateMask content true) (bicycle : Collection F) :
    events.foldl observeCloud bicycle = bicycle := by
  induction events generalizing bicycle with
  | nil => rfl
  | cons event events ih =>
    have first : observeCloud bicycle event = bicycle := by
      cases event with
      | patchDocument updateMask content succeeded =>
        cases succeeded with
        | false => rfl
        | true => exact absurd rfl (unpatched _ (by simp) updateMask content)
      | _ => rfl
    rw [List.foldl_cons, first]
    exact ih (fun other member => unpatched other (List.mem_cons_of_mem _ member)) bicycle

theorem observeCloud_present {id : String} (events : List (Event F)) {bicycle : Collection F}
    (stored : (bicycle.lookup id).isSome) :
    ((events.foldl observeCloud bicycle).lookup id).isSome := by
  induction events generalizing bicycle with
  | nil => exact stored
  | cons event events ih =>
    rw [List.foldl_cons]
    apply ih
    cases event with
    | patchDocument updateMask content succeeded =>
      cases succeeded with
      | false => exact stored
      | true =>
        by_cases same : id = bicycleId
        · rw [same, observeCloud, DocumentStore.lookup_patch]
          rfl
        · rw [observeCloud, DocumentStore.lookup_patch_ne same]
          exact stored
    | _ => exact stored

theorem observeCloud_other {id : String} (different : id ≠ bicycleId) (events : List (Event F))
    (bicycle : Collection F) :
    (events.foldl observeCloud bicycle).lookup id = bicycle.lookup id := by
  induction events generalizing bicycle with
  | nil => rfl
  | cons event events ih =>
    rw [List.foldl_cons, ih]
    cases event with
    | patchDocument updateMask content succeeded =>
      cases succeeded with
      | false => rfl
      | true => exact DocumentStore.lookup_patch_ne different updateMask content.document bicycle
    | _ => rfl

theorem document_state (data : Int) :
    (FirebaseJson.cleared.set ["fields", "state", "integerValue"]
      (.text data) : FirebaseJson F).document "state" = some (.integer data) := by
  simp [FirebaseJson.document, FirebaseJson.set]

theorem sendPatch_cloud (link : Link) (updateMask : List String) (content : FirebaseJson F)
    (bicycle : Collection F) :
    (sendPatch link updateMask content).foldl observeCloud bicycle =
      if link = .delivered then
        DocumentStore.patch bicycleId updateMask content.document bicycle
      else bicycle := by
  cases link <;> rfl

theorem updateFirebase_field (data : Int) (link : Link) (content : FirebaseJson F)
    (bicycle : Collection F) :
    deviceField ((updateFirebase .state data link content).2.foldl observeCloud bicycle) "state" =
      if link = .delivered then some (.integer data) else deviceField bicycle "state" := by
  rw [updateFirebase_state, List.foldl_cons, sendPatch_cloud]
  split
  · simp [deviceField, DocumentStore.Document.patch, document_state]
  · rfl

end Cloud

end RockYou.Firmware

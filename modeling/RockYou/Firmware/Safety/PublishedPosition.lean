import Mathlib
import RockYou.Library.Machine
import RockYou.Firmware.Safety.JsonBuffer
import RockYou.Firmware.Safety.ReportedState

namespace RockYou.Firmware.Safety

open Cloud Machine

variable {G F : Type}

section Shown

def publishesGPS : Event F → Bool
  | .patchDocument updateMask _ true => updateMask.contains "GPS"
  | _ => false

theorem unpatched_of_silent {event : Event F} (silent : publishesGPS event = false) :
    ¬ event.Patches "GPS" := by
  cases event with
  | patchDocument updateMask content succeeded =>
    cases succeeded with
    | false => exact id
    | true => simpa [publishesGPS, Event.Patches] using silent
  | _ => exact id

/-- What the app can read, the fixes decoded until then, and whether a GPS patch has been
    delivered. -/
structure Shown (F : Type) where
  bicycle : Collection F
  fixes : List (GPSValue F)
  published : Bool

variable [Zero F]

def Shown.observe (shown : Shown F) (entry : List (GPSValue F) × Event F) : Shown F where
  bicycle := observeCloud shown.bicycle entry.2
  fixes := entry.1
  published := shown.published || publishesGPS entry.2

def Shown.Whole (shown : Shown F) : Prop :=
  shown.published = true → ∃ fix ∈ shown.fixes,
    deviceField shown.bicycle "GPS" = some (.geoPoint fix.latitude fix.longitude)

abbrev AlwaysWhole (fixes : List (GPSValue F)) (shown : Shown F) (events : List (Event F)) : Prop :=
  Instants Shown.observe Shown.Whole shown (events.map fun event => (fixes, event))

structure Current (fixes : List (GPSValue F)) (shown : Shown F) : Prop where
  known : shown.fixes ⊆ fixes
  whole : shown.Whole

theorem Current.observe_silent {fixes : List (GPSValue F)} {shown : Shown F} {event : Event F}
    (current : Current fixes shown) (silent : publishesGPS event = false) :
    Current fixes (shown.observe (fixes, event)) := by
  refine ⟨List.Subset.refl fixes, ?_⟩
  intro published
  have earlier : shown.published = true := by simpa [Shown.observe, silent] using published
  obtain ⟨fix, member, shows⟩ := current.whole earlier
  have kept := observeCloud_field (unpatched_of_silent silent) shown.bicycle
  exact ⟨fix, current.known member, kept.trans shows⟩

theorem Current.silent {fixes : List (GPSValue F)} {shown : Shown F} {events : List (Event F)}
    (current : Current fixes shown) (silent : ∀ event ∈ events, publishesGPS event = false) :
    AlwaysWhole fixes shown events ∧
      Current fixes ((events.map fun event => (fixes, event)).foldl Shown.observe shown) := by
  apply instants_of_preserved (Current fixes) (fun _ current => current.whole) _ current
  intro entry member world current
  obtain ⟨event, located, rfl⟩ := List.mem_map.mp member
  exact current.observe_silent (silent event located)

theorem observe_patch (fixes : List (GPSValue F)) (shown : Shown F) (content : FirebaseJson F)
    {latitude longitude : F}
    (document : content.document "GPS" = some (.geoPoint latitude longitude)) :
    (shown.observe (fixes, .patchDocument ["GPS"] content true)).Whole ↔
      ({ latitude := latitude, longitude := longitude } : GPSValue F) ∈ fixes := by
  have field : deviceField (observeCloud shown.bicycle (.patchDocument ["GPS"] content true)) "GPS" =
      some (.geoPoint latitude longitude) := by
    simp only [observeCloud, deviceField, DocumentStore.lookup_patch, Option.bind_some]
    rw [DocumentStore.Document.patch_masked (by simp), document]
  constructor
  · intro whole
    obtain ⟨fix, member, shows⟩ := whole (by simp [Shown.observe, publishesGPS])
    change deviceField (observeCloud _ _) "GPS" = _ at shows
    rw [field, Option.some.injEq, FieldValue.geoPoint.injEq] at shows
    obtain ⟨rfl, rfl⟩ := shows
    exact member
  · intro member _
    exact ⟨_, member, field⟩

theorem Current.coordinate {fixes : List (GPSValue F)} {shown : Shown F}
    (current : Current fixes shown) (updateValue : UpdateValue) (data : F) (link : Link)
    {content : FirebaseJson F} {latitude longitude : F}
    (document : content.document "GPS" = some (.geoPoint latitude longitude)) :
    let events := .updateGPSFirebase updateValue data :: sendPatch link ["GPS"] content
    let read := link = .delivered →
      ({ latitude := latitude, longitude := longitude } : GPSValue F) ∈ fixes
    (AlwaysWhole fixes shown events ↔ read) ∧
      (read → Current fixes ((events.map fun event => (fixes, event)).foldl Shown.observe shown)) := by
  intro events read
  have called : Current fixes (shown.observe (fixes, .updateGPSFirebase updateValue data)) :=
    current.observe_silent rfl
  have unsent (silent : ∀ event ∈ events, publishesGPS event = false)
      (different : ¬ link = .delivered) :
      (AlwaysWhole fixes shown events ↔ read) ∧ (read → Current fixes
        ((events.map fun event => (fixes, event)).foldl Shown.observe shown)) := by
    obtain ⟨instants, after⟩ := current.silent silent
    exact ⟨iff_of_true instants fun sent => absurd sent different, fun _ => after⟩
  cases link with
  | notReady => exact unsent (by simp [events, sendPatch, publishesGPS]) (by decide)
  | failed => exact unsent (by simp [events, sendPatch, publishesGPS]) (by decide)
  | delivered =>
    have patched := observe_patch fixes (shown.observe (fixes, .updateGPSFirebase updateValue data))
      content document
    constructor
    · simp only [AlwaysWhole, events, sendPatch, List.map_cons, List.map_nil, instants_cons,
        instants_nil, current.whole, called.whole, true_and, patched, read, true_implies]
    · intro known
      exact ⟨List.Subset.refl _, patched.mpr (known rfl)⟩

end Shown

section Plain

theorem bluetoothCheck_plain (lockCmd : BitVec 32) (link : Link) {board : Board G F}
    (plain : Plain board.content) : Plain (bluetoothCheck lockCmd link board).1.content := by
  by_cases close : lockCmd = LockCmd.close.code
  · rw [close, bluetoothCheck_close]
    exact plain_state _ link board.content
  by_cases opening : lockCmd = LockCmd.open.code
  · rw [opening, bluetoothCheck_open]
    exact plain_state _ link board.content
  · rw [bluetoothCheck_other _ _ close opening]
    exact plain

theorem reportPosition_plain (tiny : TinyGPS G F) (around : Surroundings F) {board : Board G F}
    (plain : Plain board.content) : Plain (reportPosition tiny around board).1 :=
  plain_longitude (plain_latitude plain _ around.latitudeLink) _ around.longitudeLink

variable [Zero F] [BEq F] [LE F] [DecidableLE F] [OfNat F 4]

theorem gpsCheck_plain (tiny : TinyGPS G F) (around : Surroundings F) {board : Board G F}
    (plain : Plain board.content) : Plain (gpsCheck tiny around board).1.content := by
  rcases gpsCheck_cases tiny around board with
    ⟨_, result⟩ | ⟨_, _, result⟩ | ⟨_, _, result⟩ <;> rw [result]
  · exact plain
  · exact reportPosition_plain tiny around plain
  · exact plain_state _ around.theftLink (reportPosition tiny around board).1

end Plain

section Silent

theorem updateFirebase_unpublished (data : Int) (link : Link) (content : FirebaseJson F) :
    ∀ event ∈ (updateFirebase .state data link content).2, publishesGPS event = false := by
  intro event member
  rcases mem_updateFirebase_state member with rfl | ⟨_, succeeded, rfl⟩
  · rfl
  · cases succeeded <;> simp [publishesGPS]

theorem bluetoothCheck_unpublished (lockCmd : BitVec 32) (link : Link) (board : Board G F) :
    ∀ event ∈ (bluetoothCheck lockCmd link board).2, publishesGPS event = false := by
  intro event member
  rcases mem_bluetoothCheck member with
    moved | ⟨_, rfl⟩ | ⟨_, rfl⟩ | ⟨_, rfl⟩ | ⟨_, succeeded, rfl⟩
  · rcases moved with rfl | rfl | ⟨_, _, rfl⟩ <;> rfl
  · rfl
  · rfl
  · rfl
  · cases succeeded <;> simp [publishesGPS]

end Silent

section Report

variable [Zero F] (tiny : TinyGPS G F) (around : Surroundings F) (board : Board G F)

/-- What the delivered patches of a report carry: the first the new latitude with the buffered
    longitude, the second the new position. -/
def ReportKnown (fixes : List (GPSValue F)) : Prop :=
  (around.latitudeLink = .delivered →
    { latitude := (returnedFix tiny around board).latitude
      longitude := bufferedLongitude board.content } ∈ fixes) ∧
  (around.longitudeLink = .delivered → returnedFix tiny around board ∈ fixes)

variable {tiny around board} {fixes : List (GPSValue F)} {shown : Shown F}

theorem Current.report (current : Current fixes shown) (plain : Plain board.content) :
    (AlwaysWhole fixes shown (reportPosition tiny around board).2 ↔
      ReportKnown tiny around board fixes) ∧
    (ReportKnown tiny around board fixes → Current fixes
      (((reportPosition tiny around board).2.map fun event => (fixes, event)).foldl
        Shown.observe shown)) := by
  obtain ⟨firstWhole, afterFirst⟩ := current.coordinate .latitude
    (returnedFix tiny around board).latitude around.latitudeLink
    (document_latitude plain (returnedFix tiny around board).latitude around.latitudeLink)
  have second (current : Current fixes (((updateGPSFirebase .latitude
      (returnedFix tiny around board).latitude around.latitudeLink board.content).2.map
        fun event => (fixes, event)).foldl Shown.observe shown)) :=
    current.coordinate .longitude (returnedFix tiny around board).longitude around.longitudeLink
      (document_longitude plain (returnedFix tiny around board).latitude
        (returnedFix tiny around board).longitude around.latitudeLink around.longitudeLink)
  rw [AlwaysWhole, reportPosition, List.map_append, instants_append, List.foldl_append, ReportKnown]
  constructor
  · constructor
    · intro whole
      have first := firstWhole.mp whole.1
      exact ⟨first, (second (afterFirst first)).1.mp whole.2⟩
    · intro known
      exact ⟨firstWhole.mpr known.1, (second (afterFirst known.1)).1.mpr known.2⟩
  · intro known
    exact (second (afterFirst known.1)).2 known.2

end Report

variable [Zero F] [BEq F] [LE F] [DecidableLE F] [OfNat F 4]

theorem Current.gpsCheck (tiny : TinyGPS G F) (around : Surroundings F) {board : Board G F}
    {fixes : List (GPSValue F)} {shown : Shown F} (current : Current fixes shown)
    (plain : Plain board.content) :
    (AlwaysWhole fixes shown (gpsCheck tiny around board).2 ↔
      (Exceeds tiny around board → ReportKnown tiny around board fixes)) ∧
    ((Exceeds tiny around board → ReportKnown tiny around board fixes) → Current fixes
      (((gpsCheck tiny around board).2.map fun event => (fixes, event)).foldl
        Shown.observe shown)) := by
  obtain ⟨reportWhole, afterReport⟩ := current.report plain
  rcases gpsCheck_cases tiny around board with
    ⟨near, result⟩ | ⟨far, _, result⟩ | ⟨far, _, result⟩ <;> rw [result]
  · exact ⟨iff_of_true (instants_nil.mpr current.whole) fun far => absurd far near,
      fun _ => current⟩
  · constructor
    · rw [reportWhole]
      exact ⟨fun known _ => known, fun known => known far⟩
    · exact fun known => afterReport (known far)
  · have stolen (known : ReportKnown tiny around board fixes) :=
      (afterReport known).silent (updateFirebase_unpublished BicycleState.steel.value
        around.theftLink (reportPosition tiny around board).1)
    rw [AlwaysWhole, List.map_append, instants_append, List.foldl_append]
    constructor
    · constructor
      · exact fun whole _ => reportWhole.mp whole.1
      · exact fun known => ⟨reportWhole.mpr (known far), (stolen (known far)).1⟩
    · exact fun known => (stolen (known far)).2

def newFixes (tiny : TinyGPS G F) (around : Surroundings F) (gps : G) : List (GPSValue F) :=
  if newData tiny around.window gps then [decodedFix tiny around.window gps] else []

def fixStep (tiny : TinyGPS G F) (state : Board G F × List (GPSValue F))
    (input : BitVec 32 × Surroundings F) :
    (Board G F × List (GPSValue F)) × List (List (GPSValue F) × Event F) :=
  let fixes := state.2 ++ newFixes tiny input.2 state.1.gps
  let (board, events) := iteration tiny input.1 input.2 state.1
  ((board, fixes), events.map fun event => (fixes, event))

/-- A report of the iteration patches only fixes that the device has decoded. -/
def ReportsFix (tiny : TinyGPS G F) (state : Board G F × List (GPSValue F))
    (input : BitVec 32 × Surroundings F) : Prop :=
  let fixes := state.2 ++ newFixes tiny input.2 state.1.gps
  let board := (bluetoothCheck input.1 input.2.commandLink state.1).1
  Exceeds tiny input.2 board → ReportKnown tiny input.2 board fixes

theorem fixStep_whole (tiny : TinyGPS G F) {state : Board G F × List (GPSValue F)}
    {shown : Shown F} (input : BitVec 32 × Surroundings F) (plain : Plain state.1.content)
    (current : Current state.2 shown) :
    (Instants Shown.observe Shown.Whole shown (fixStep tiny state input).2 ↔
      ReportsFix tiny state input) ∧
    (ReportsFix tiny state input → Current (fixStep tiny state input).1.2
      ((fixStep tiny state input).2.foldl Shown.observe shown)) := by
  obtain ⟨lockCmd, around⟩ := input
  obtain ⟨board, earlier⟩ := state
  have larger : Current (earlier ++ newFixes tiny around board.gps) shown :=
    ⟨fun fix member => List.mem_append_left _ (current.known member), current.whole⟩
  obtain ⟨checkedWhole, checked⟩ :=
    larger.silent (bluetoothCheck_unpublished lockCmd around.commandLink board)
  obtain ⟨moved, after⟩ := checked.gpsCheck tiny around
    (bluetoothCheck_plain lockCmd around.commandLink plain)
  simp only [fixStep, ReportsFix, iteration_events, List.map_append, List.foldl_append]
  rw [instants_append]
  exact ⟨⟨fun whole => moved.mp whole.2, fun known => ⟨checkedWhole, moved.mpr known⟩⟩, after⟩

/-- Every position that the app can read is one decoded fix exactly when every report patches
    decoded fixes only: its latitude meets a fitting longitude in the buffer. -/
theorem positions_whole_iff (tiny : TinyGPS G F) (value : ValueClass F) (bicycle : Collection F)
    (iterations : Iterations F) :
    Instants Shown.observe Shown.Whole { bicycle := bicycle, fixes := [], published := false }
      (Machine.run (fixStep tiny) ((powerUp tiny value).1, []) iterations).2 ↔
        Along (fixStep tiny) (ReportsFix tiny) ((powerUp tiny value).1, []) iterations := by
  apply run_instants_iff
    (fun (state : Board G F × List (GPSValue F)) shown =>
      Plain state.1.content ∧ Current state.2 shown)
  · exact fun _ _ joint => joint.2.whole
  · exact fun _ _ input joint => (fixStep_whole tiny input joint.1 joint.2).1
  · intro state shown input joint known
    refine ⟨?_, (fixStep_whole tiny input joint.1 joint.2).2 known⟩
    exact gpsCheck_plain tiny input.2 (bluetoothCheck_plain input.1 input.2.commandLink joint.1)
  · exact ⟨plain_cleared, List.Subset.refl _, nofun⟩

theorem first_position_torn :
    ¬ ∀ (value : ValueClass Int) (bicycle : Collection Int) (iterations : Iterations Int),
      Instants Shown.observe Shown.Whole { bicycle := bicycle, fixes := [], published := false }
        (Machine.run (fixStep meridianGPS) ((powerUp meridianGPS value).1, []) iterations).2 := by
  intro whole
  have instants := whole unpowered.value ∅ [(-1, onMeridian 10)]
  have torn := instants _ (List.take_prefix 2 _)
  obtain ⟨fix, member, shows⟩ := torn rfl
  have decoded : fix = { latitude := 10, longitude := 1 } := List.mem_singleton.mp member
  rw [decoded] at shows
  revert shows
  decide

end RockYou.Firmware.Safety

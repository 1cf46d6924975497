import Mathlib
import RockYou.App.Map
import RockYou.Firmware.Safety.PublishedPosition
import RockYou.System.Provenance

namespace RockYou.System

open Cloud App Firmware Firmware.Safety Machine Path

variable {G F : Type}

def fieldOf (name id : String) (bicycle : Collection F) : Option (FieldValue F) :=
  (bicycle.lookup id).bind fun content => content name

theorem fieldOf_found {name id : String} {content : Document F} {bicycle : Collection F}
    (found : bicycle.lookup id = some content) : fieldOf name id bicycle = content name := by
  rw [fieldOf, found, Option.bind_some]

theorem fieldOf_other {name id : String} [Zero F] (different : id ≠ bicycleId) (event : Event F)
    (bicycle : Collection F) :
    fieldOf name id (observeCloud bicycle event) = fieldOf name id bicycle := by
  rw [fieldOf, fieldOf]
  exact congrArg (Option.bind · _) (observeCloud_other different [event] bicycle)

theorem fieldOf_write [Zero F] [BEq F] [LE F] [DecidableLE F] [OfNat F 4] {tiny : TinyGPS G F}
    {lockCmd : BitVec 32} {around : Surroundings F} {board : Board G F} {event : Event F}
    {name id : String} (member : event ∈ (iteration tiny lockCmd around board).2)
    (notState : name ≠ "state") (notPosition : name ≠ "GPS") (bicycle : Collection F) :
    fieldOf name id (observeCloud bicycle event) = fieldOf name id bicycle := by
  by_cases device : id = bicycleId
  · subst device
    refine observeCloud_field ?_ bicycle
    intro patches
    rcases iteration_patches member patches with ⟨state, _⟩ | ⟨position, _⟩
    · exact notState state
    · exact notPosition position
  · exact fieldOf_other device event bicycle

section Documents

variable [Zero F] [BEq F] [LE F] [DecidableLE F] [OfNat F 4] {tiny : TinyGPS G F}
  {installation next : Installation G F} {move : InstallationMove F} {owner id : String}

def Registers (id owner bicycleNickname : String) (_ : Installation G F)
    (move : InstallationMove F) : Prop :=
  ∃ viewFlag txtNumberOfLocker txtNicknameBicycle document,
    move = .register owner viewFlag txtNumberOfLocker txtNicknameBicycle ∧
      (nextButtonDidTap viewFlag txtNumberOfLocker txtNicknameBicycle).2 =
        .addServerData document bicycleNickname ∧
      documentWithPath document = some [id]

/-- Everything that a move does to a document: the device writes it, it is registered anew, it is
    removed, or it changes in its state at most. -/
theorem moves_document (id : String) (moved : InstallationMoves tiny installation move next) :
    (∃ lockCmd around written event, move = .write ∧
        installation.running = some ⟨.loop lockCmd around, written⟩ ∧
        (writes tiny installation.board (.loop lockCmd around))[written]? = some event ∧
        next.bicycle = observeCloud installation.bicycle event) ∨
      (∃ owner bicycleNickname, Registers id owner bicycleNickname installation move ∧
        next.bicycle.lookup id = some (registeredDocument bicycleNickname 0 owner)) ∨
      next.bicycle.lookup id = none ∨
      ∀ name, name ≠ "state" →
        fieldOf name id next.bicycle = fieldOf name id installation.bicycle := by
  cases move with
  | device step =>
    obtain ⟨_, rfl⟩ := moved
    exact .inr (.inr (.inr fun name _ => rfl))
  | write =>
    obtain ⟨step, written, event, running, found, rfl⟩ := moved
    obtain ⟨_, lockCmd, around, rfl, _⟩ := write_of_iteration found
    exact .inl ⟨lockCmd, around, written, event, rfl, running, found, rfl⟩
  | finish =>
    obtain ⟨_, _, _, _, rfl⟩ := moved
    exact .inr (.inr (.inr fun name _ => rfl))
  | register userid viewFlag txtNumberOfLocker txtNicknameBicycle =>
    obtain ⟨bicycle, registered, rfl⟩ := moved
    rcases App.Safety.register_cases registered with
      ⟨document, bicycleNickname, written, tap, path, rfl⟩ | ⟨_, rfl⟩
    · by_cases same : id = written
      · subst same
        refine .inr (.inl ⟨userid, bicycleNickname, ?_, DocumentStore.lookup_setData ..⟩)
        exact ⟨viewFlag, txtNumberOfLocker, txtNicknameBicycle, document, rfl, tap, path⟩
      · refine .inr (.inr (.inr fun name _ => ?_))
        dsimp only
        rw [fieldOf, DocumentStore.lookup_setData_ne same, fieldOf]
    · exact .inr (.inr (.inr fun name _ => rfl))
  | remove txt documents =>
    cases moved
    rw [bicycleRemoveBtnDidTap]
    split
    · exact .inr (.inr (.inr fun name _ => rfl))
    · split
      · next removed _ =>
        by_cases listed : id ∈ removed
        · refine .inr (.inr (.inl ?_))
          rw [DocumentStore.lookup_deleteAll, if_pos listed]
        · refine .inr (.inr (.inr fun name _ => ?_))
          rw [fieldOf, DocumentStore.lookup_deleteAll, if_neg listed, fieldOf]
      · exact .inr (.inr (.inr fun name _ => rfl))
  | answer userid documents =>
    obtain ⟨_, rfl⟩ := moved
    exact .inr (.inr (.inr fun name _ => rfl))
  | deliver before userid documents after =>
    obtain ⟨_, _, _, rfl⟩ := moved
    exact .inr (.inr (.inr fun name _ => rfl))
  | refresh userid =>
    cases moved
    exact .inr (.inr (.inr fun name _ => rfl))
  | delete userid row =>
    obtain ⟨document, alarm, deleted, rfl⟩ := moved
    refine .inr (.inr (.inr fun name other => ?_))
    dsimp only
    by_cases same : id = document
    · subst same
      rw [fieldOf, resetState, DocumentStore.lookup_updateData, fieldOf]
      cases installation.bicycle.lookup id with
      | none => rfl
      | some content =>
        have unmasked : name ∉ ["state"] := by simpa using other
        exact DocumentStore.Document.patch_unmasked unmasked ..
    · rw [fieldOf, resetState, DocumentStore.lookup_updateData_ne same, fieldOf]

end Documents

section Owner

variable [Zero F] [BEq F] [LE F] [DecidableLE F] [OfNat F 4] {tiny : TinyGPS G F}
  {board : Board G F} {installation next : Installation G F} {moves : List (InstallationMove F)}
  {move : InstallationMove F} {userid owner id bicycleNickname : String}
  {documents : List (QueryDocument F)}

def ShowsOwner (id owner bicycleNickname : String) (installation : Installation G F) : Prop :=
  fieldOf "uid" id installation.bicycle = some (.string owner) ∧
    fieldOf "bicycleNickname" id installation.bicycle = some (.string bicycleNickname)

theorem owner_caused (moved : InstallationMoves tiny installation move next)
    (absent : ¬ ShowsOwner id owner bicycleNickname installation)
    (present : ShowsOwner id owner bicycleNickname next) :
    Registers id owner bicycleNickname installation move := by
  rcases moves_document id moved with ⟨_, _, _, _, _, _, report, written⟩ |
    ⟨other, nickname, registers, found⟩ | missing | same
  · obtain ⟨_, lockCmd, around, same, member⟩ := write_of_iteration report
    cases same
    rw [ShowsOwner, written, fieldOf_write member (by decide) (by decide),
      fieldOf_write member (by decide) (by decide)] at present
    exact absurd present absent
  · rw [ShowsOwner, fieldOf_found found, fieldOf_found found] at present
    obtain ⟨uid, named⟩ := present
    cases uid
    cases named
    exact registers
  · obtain ⟨uid, _⟩ := present
    rw [fieldOf, missing] at uid
    cases uid
  · rw [ShowsOwner, same _ (by decide), same _ (by decide)] at present
    exact absurd present absent

/-- Every bicycle that a user is shown was registered by this user under the nickname shown, and
    the cloud has named this owner and this nickname since. -/
theorem label_registered (path : Path (InstallationMoves tiny) (.start board) moves installation)
    (answered : (userid, documents) ∈ installation.answers) {labels : List LabelData}
    {label : LabelData} (read : (readServerData userid documents []).state? = some labels)
    (listed : label ∈ labels) :
    Provenance tiny (Registers label.idNum userid label.nickName)
      (ShowsOwner label.idNum userid label.nickName) (.start board) userid documents moves
      installation := by
  obtain ⟨content, value, member, origin⟩ := label_origin read listed
  apply snapshot_provenance path answered
  · intro shown
    cases shown.1
  · intro _ _ _ _ _ moved absent present
    exact owner_caused moved absent present
  · intro queried taken
    have found : queried.bicycle.lookup label.idNum = some content := taken.mem_iff.mp member
    rw [ShowsOwner, fieldOf_found found, fieldOf_found found]
    exact ⟨origin.owner, origin.named⟩

end Owner

theorem label_registered_parked :
    Provenance meridianGPS (Registers bicycleId "u" "bike") (ShowsOwner bicycleId "u" "bike")
      (.start parked) "u" stolenParked.bicycle.entries toTheft queriedParked :=
  label_registered queriedParked_reached queriedParked_answered stolenLabel_read
    (List.mem_singleton_self _)

theorem asGeoPoint_eq_some {field : Option (FieldValue F)} {point : F × F} :
    FieldValue.asGeoPoint field = some point ↔ field = some (.geoPoint point.1 point.2) := by
  obtain ⟨latitude, longitude⟩ := point
  rcases field with _ | _ | _ | _ <;> simp [FieldValue.asGeoPoint]

section Position

variable [Zero F] [BEq F] [LE F] [DecidableLE F] [OfNat F 4] {tiny : TinyGPS G F}
  {around : Surroundings F} {board : Board G F} {installation next : Installation G F}
  {moves : List (InstallationMove F)} {move : InstallationMove F} {userid id : String}
  {documents : List (QueryDocument F)} {point : F × F} {event : Event F}

/-- What `getGPSValue` returns: the fix that the bytes of the window complete or, when they complete
    none, the uninitialised struct. -/
inductive Returns (tiny : TinyGPS G F) (around : Surroundings F) (board : Board G F) :
    GPSValue F → Prop where
  | decoded (complete : newData tiny around.window board.gps = true) :
      Returns tiny around board (decodedFix tiny around.window board.gps)
  | uninitialised (incomplete : newData tiny around.window board.gps = false) :
      Returns tiny around board around.gpsValue

/-- The positions that the patches of a report leave in the cloud: the first one the new latitude
    with the longitude still in the buffer, the second one the new position. -/
inductive Places (tiny : TinyGPS G F) (around : Surroundings F) (board : Board G F) :
    Event F → F × F → Prop where
  | torn {fix : GPSValue F} {event : Event F} (returns : Returns tiny around board fix)
      (far : Exceeds tiny around board) (link : around.latitudeLink = .delivered)
      (patch : event ∈ (updateGPSFirebase .latitude fix.latitude around.latitudeLink
        board.content).2) :
      Places tiny around board event (fix.latitude, bufferedLongitude board.content)
  | whole {fix : GPSValue F} {event : Event F} (returns : Returns tiny around board fix)
      (far : Exceeds tiny around board) (link : around.longitudeLink = .delivered)
      (patch : event ∈ (updateGPSFirebase .longitude fix.longitude around.longitudeLink
        (updateGPSFirebase .latitude fix.latitude around.latitudeLink board.content).1).2) :
      Places tiny around board event (fix.latitude, fix.longitude)

/-- A write that puts the position into the document of the device. -/
def Locates (point : F × F) (event : Event F) : Prop :=
  ∀ bicycle : Collection F,
    deviceField (observeCloud bicycle event) "GPS" = some (.geoPoint point.1 point.2)

def Positions (tiny : TinyGPS G F) (point : F × F) (installation : Installation G F)
    (move : InstallationMove F) : Prop :=
  move = .write ∧ ∃ lockCmd around written event,
    installation.running = some ⟨.loop lockCmd around, written⟩ ∧
    (writes tiny installation.board (.loop lockCmd around))[written]? = some event ∧
    Locates point event ∧
    Places tiny around (bluetoothCheck lockCmd around.commandLink installation.board).1 event point

omit [Zero F] [BEq F] [LE F] [DecidableLE F] [OfNat F 4] in
theorem returns_fix (tiny : TinyGPS G F) (around : Surroundings F) (board : Board G F) :
    Returns tiny around board (returnedFix tiny around board) := by
  cases read : newData tiny around.window board.gps with
  | true =>
    have same : returnedFix tiny around board = decodedFix tiny around.window board.gps :=
      getGPSValue_of_newData read _
    rw [same]
    exact .decoded read
  | false =>
    have same : returnedFix tiny around board = around.gpsValue := by
      unfold newData at read
      simp [returnedFix, getGPSValue, read]
    rw [same]
    exact .uninitialised read

omit [BEq F] [LE F] [DecidableLE F] [OfNat F 4] in
theorem updateGPSFirebase_locates {updateValue : UpdateValue} {data latitude longitude : F}
    {link : Link} {content : FirebaseJson F}
    (coordinate : updateValue = .latitude ∨ updateValue = .longitude)
    (member : event ∈ (updateGPSFirebase updateValue data link content).2)
    (patches : event.Patches "GPS")
    (document : (updateGPSFirebase updateValue data link content).1.document "GPS" =
      some (.geoPoint latitude longitude)) :
    link = .delivered ∧ Locates (latitude, longitude) event := by
  have sent : link = .delivered ∧
      event = .patchDocument ["GPS"] (updateGPSFirebase updateValue data link content).1 true := by
    rcases coordinate with rfl | rfl
    all_goals
      simp only [updateGPSFirebase, List.cons_append, List.nil_append, List.mem_cons] at member
      rcases member with rfl | sent
      · exact patches.elim
      · cases link with
        | notReady => cases sent
        | failed =>
          rw [List.mem_singleton.mp sent] at patches
          exact patches.elim
        | delivered => exact ⟨rfl, List.mem_singleton.mp sent⟩
  refine ⟨sent.1, fun bicycle => ?_⟩
  rw [sent.2, observeCloud, deviceField, DocumentStore.lookup_patch, Option.bind_some,
    DocumentStore.Document.patch_masked (List.mem_singleton_self _), document]

omit [DecidableLE F] in
theorem reportPosition_locates (plain : Plain board.content) (far : Exceeds tiny around board)
    (member : event ∈ (reportPosition tiny around board).2) (patches : event.Patches "GPS") :
    ∃ point, Locates point event ∧ Places tiny around board event point := by
  rcases List.mem_append.mp member with first | second
  · obtain ⟨link, locates⟩ := updateGPSFirebase_locates (.inl rfl) first patches
      (document_latitude plain _ _)
    exact ⟨_, locates, .torn (returns_fix tiny around board) far link first⟩
  · obtain ⟨link, locates⟩ := updateGPSFirebase_locates (.inr rfl) second patches
      (document_longitude plain _ _ _ _)
    exact ⟨_, locates, .whole (returns_fix tiny around board) far link second⟩

def ShowsPosition (id : String) (point : F × F) (installation : Installation G F) : Prop :=
  fieldOf "GPS" id installation.bicycle = some (.geoPoint point.1 point.2)

theorem position_caused (plain : Plain installation.board.content)
    (moved : InstallationMoves tiny installation move next)
    (absent : ¬ ShowsPosition id point installation) (present : ShowsPosition id point next) :
    id = bicycleId ∧ Positions tiny point installation move := by
  rcases moves_document id moved with ⟨lockCmd, around, written, event, wrote, running, found, after⟩ |
    ⟨other, nickname, _, found⟩ | missing | same
  · obtain ⟨_, _, _, same, member⟩ := write_of_iteration found
    cases same
    rw [ShowsPosition, after] at present
    by_cases own : id = bicycleId
    · subst own
      by_cases patches : event.Patches "GPS"
      · rcases iteration_patches member patches with ⟨state, _⟩ | ⟨_, far, located⟩
        · exact absurd state (by decide)
        · obtain ⟨other, locates, places⟩ := reportPosition_locates
            (bluetoothCheck_plain lockCmd around.commandLink plain) far located patches
          have shown := (locates installation.bicycle).symm.trans present
          rw [Option.some.injEq, FieldValue.geoPoint.injEq] at shown
          rw [Prod.ext shown.1 shown.2] at locates places
          exact ⟨rfl, wrote, lockCmd, around, written, event, running, found, locates, places⟩
      · have kept : deviceField (observeCloud installation.bicycle event) "GPS" =
            deviceField installation.bicycle "GPS" := observeCloud_field patches _
        exact absurd (kept.symm.trans present) absent
    · rw [fieldOf_other own] at present
      exact absurd present absent
  · rw [ShowsPosition, fieldOf_found found] at present
    cases present
  · rw [ShowsPosition, fieldOf, missing] at present
    cases present
  · rw [ShowsPosition, same _ (by decide)] at present
    exact absurd present absent

theorem deviceStep_plain (plain : Plain board.content) (step : Step F) :
    Plain (deviceStep tiny board step).1.content := by
  cases step with
  | setup value => exact plain_cleared
  | loop lockCmd around =>
    exact gpsCheck_plain tiny around (bluetoothCheck_plain lockCmd around.commandLink plain)

theorem plain_step (plain : Plain installation.board.content)
    (moved : InstallationMoves tiny installation move next) : Plain next.board.content := by
  cases move with
  | device step =>
    obtain ⟨_, rfl⟩ := moved
    exact plain
  | write =>
    obtain ⟨_, _, _, _, _, rfl⟩ := moved
    exact plain
  | finish =>
    obtain ⟨step, _, _, _, rfl⟩ := moved
    exact deviceStep_plain plain step
  | register userid viewFlag txtNumberOfLocker txtNicknameBicycle =>
    obtain ⟨_, _, rfl⟩ := moved
    exact plain
  | remove txt documents =>
    cases moved
    exact plain
  | answer userid documents =>
    obtain ⟨_, rfl⟩ := moved
    exact plain
  | deliver before userid documents after =>
    obtain ⟨_, _, _, rfl⟩ := moved
    exact plain
  | refresh userid =>
    cases moved
    exact plain
  | delete userid row =>
    obtain ⟨_, _, _, rfl⟩ := moved
    exact plain

structure PositionOf (userid cell : String) (content : Document F) (point : F × F) : Prop where
  owner : content "uid" = some (.string userid)
  named : content "bicycleNickname" = some (.string cell)
  located : content "GPS" = some (.geoPoint point.1 point.2)

omit [Zero F] [BEq F] [LE F] [DecidableLE F] [OfNat F 4] in
theorem position_origin {start view : MapView F} (fresh : point ∉ start.read)
    (read : (getGPSData userid documents start).state? = some view) (located : point ∈ view.read) :
    ∃ id content, ⟨id, content⟩ ∈ documents ∧
      PositionOf userid start.bicycleNicknameOfCell content point := by
  suffices kept : view.bicycleNicknameOfCell = start.bicycleNicknameOfCell ∧
      (point ∈ view.read → ∃ id content, ⟨id, content⟩ ∈ documents ∧
        PositionOf userid start.bicycleNicknameOfCell content point) from kept.2 located
  refine Loop.forEach_invariant (fun view : MapView F =>
    view.bicycleNicknameOfCell = start.bicycleNicknameOfCell ∧
      (point ∈ view.read → ∃ id content, ⟨id, content⟩ ∈ documents ∧
        PositionOf userid start.bicycleNicknameOfCell content point))
    ?_ ⟨rfl, fun inside => absurd inside fresh⟩ read
  intro document member before after reached checked
  obtain ⟨cell, origin⟩ := reached
  unfold locateDocument at checked
  split at checked
  · cases checked
    exact ⟨cell, origin⟩
  · next uid owner =>
    split at checked
    · cases checked
      exact ⟨cell, origin⟩
    · next nickname named =>
      split at checked
      · next selected =>
        split at checked
        · cases checked
          exact ⟨cell, origin⟩
        · next found positioned =>
          cases checked
          refine ⟨cell, fun inside => ?_⟩
          rcases List.mem_append.mp inside with old | new
          · exact origin old
          · rw [List.mem_singleton.mp new]
            rw [selected.1] at owner
            rw [selected.2, cell] at named
            exact ⟨document.1, document.2, member, asString_eq_some.mp owner,
              asString_eq_some.mp named, asGeoPoint_eq_some.mp positioned⟩
      · cases checked
        exact ⟨cell, origin⟩

/-- Every position that the map takes from a snapshot is the device's: a coordinate patch of an
    iteration that found the bicycle at least 4 m away, or had no position yet, left it in the cloud,
    where it stayed until the snapshot was taken. -/
theorem map_caused (plain : Plain board.content)
    (path : Path (InstallationMoves tiny) (.start board) moves installation)
    (answered : (userid, documents) ∈ installation.answers) {cell : String} {view : MapView F}
    (read : (getGPSData userid documents (.initial cell)).state? = some view)
    (located : point ∈ view.read) :
    (∃ content, ⟨bicycleId, content⟩ ∈ documents ∧ PositionOf userid cell content point) ∧
      Provenance tiny (Positions tiny point) (ShowsPosition bicycleId point) (.start board) userid
        documents moves installation := by
  obtain ⟨id, content, member, origin⟩ := position_origin List.not_mem_nil read located
  have provenance : Provenance tiny
      (fun installation move => id = bicycleId ∧ Positions tiny point installation move)
      (ShowsPosition id point) (.start board) userid documents moves installation := by
    apply snapshot_provenance path answered
    · intro shown
      cases shown
    · intro _ writing _ _ earlier moved absent present
      have kept : Plain writing.board.content := earlier.invariant (fun _ => True)
        (fun installation : Installation G F => Plain installation.board.content)
        (fun _ _ _ _ moved plain => plain_step plain moved) (fun _ _ => True.intro) plain
      exact position_caused kept moved absent present
    · intro queried taken
      have found : queried.bicycle.lookup id = some content := taken.mem_iff.mp member
      rw [ShowsPosition, fieldOf_found found]
      exact origin.located
  have device : id = bicycleId := by
    obtain ⟨_, wrote⟩ := provenance
    exact wrote.1
  subst device
  exact ⟨⟨content, member, origin⟩, provenance.mono fun _ _ wrote => wrote.2⟩

end Position

/-- The new latitude has reached the cloud, the longitude has not. -/
def tornParked : Installation (GPSValue Int) Int :=
  { registeredParked with
    running := some ⟨.loop (-1) (onMeridian 20), 1⟩
    bicycle := observeCloud registeredParked.bicycle (.patchDocument ["GPS"]
      (FirebaseJson.cleared.set ["fields", "GPS", "geoPointValue", "latitude"] (.number 20)) true) }

def tornMap : MapView Int where
  bicycleNicknameOfCell := "bike"
  latitude := 20
  longitude := 0
  read := [(20, 0)]
  shown := [(20, 0)]

theorem map_caused_parked :
    Provenance meridianGPS (Positions meridianGPS (20, 0)) (ShowsPosition bicycleId (20, 0))
      (.start parked) "u" tornParked.bicycle.entries
      [.register "u" 2 bicycleId "bike", .device (.loop (-1) (onMeridian 20)), .write,
        .answer "u" tornParked.bicycle.entries]
      { tornParked with answers := [("u", tornParked.bicycle.entries)] } := by
  have registered : InstallationMoves meridianGPS (.start parked)
      (.register "u" 2 bicycleId "bike") registeredParked := ⟨_, rfl, rfl⟩
  have begun : InstallationMoves meridianGPS registeredParked
      (.device (.loop (-1) (onMeridian 20)))
      { registeredParked with running := some ⟨.loop (-1) (onMeridian 20), 0⟩ } := ⟨.inl rfl, rfl⟩
  have written : InstallationMoves meridianGPS
      { registeredParked with running := some ⟨.loop (-1) (onMeridian 20), 0⟩ } .write tornParked :=
    ⟨_, 0, _, rfl, rfl, rfl⟩
  have queried : InstallationMoves meridianGPS tornParked (.answer "u" tornParked.bicycle.entries)
      { tornParked with answers := [("u", tornParked.bicycle.entries)] } := ⟨.refl _, rfl⟩
  have path := Path.cons registered (.cons begun (.cons written (.cons queried .nil)))
  have read : (getGPSData "u" tornParked.bicycle.entries (.initial "bike")).state? =
      some tornMap := rfl
  exact (map_caused plain_cleared path (List.mem_singleton_self _) read
    (List.mem_singleton_self _)).2

end RockYou.System

import RockYou.App.Register
import RockYou.App.Safety.TheftListing
import RockYou.Firmware.Safety.CloudState

namespace RockYou.System

open Cloud App App.Safety Firmware

variable {G F : Type} [Zero F] [BEq F] [LE F] [DecidableLE F] [OfNat F 4]

structure World (G F : Type) where
  board : Board G F
  bicycle : Collection F
  alarm : AlarmController
  polls : List (List (QueryDocument F))

inductive Move (F : Type) where
  | device (lockCmd : BitVec 32) (around : Surroundings F)
  | poll (documents : List (QueryDocument F))
  | deliver (before : List (List (QueryDocument F))) (documents : List (QueryDocument F))
      (after : List (List (QueryDocument F)))
  | reset
  | delete (row : Nat)

def World.iterate (tiny : TinyGPS G F) (lockCmd : BitVec 32) (around : Surroundings F)
    (world : World G F) : World G F :=
  let (board, events) := iteration tiny lockCmd around world.board
  { world with board := board, bicycle := events.foldl observeCloud world.bicycle }

/-- One step of either party; a snapshot is taken when it is requested and delivered later, in
    any order. -/
def Moves (tiny : TinyGPS G F) (userid : String) (world : World G F) :
    Move F → World G F → Prop
  | .device lockCmd around, next => next = world.iterate tiny lockCmd around
  | .poll documents, next =>
    DocumentStore.Snapshot world.bicycle documents ∧
      next = { world with polls := world.polls ++ [documents] }
  | .deliver before documents after, next =>
    world.polls = before ++ documents :: after ∧
      ∃ alarm, (stateCheck userid documents world.alarm).state? = some alarm ∧
        next = { world with alarm := alarm, polls := before ++ after }
  | .reset, next => next = { world with alarm := resetBtnDidTap world.alarm }
  | .delete row, next =>
    ∃ document alarm, commitDelete row world.alarm = some (document, alarm) ∧
      next = { world with alarm := alarm, bicycle := resetState document world.bicycle }

def Uncommanded : Move F → Prop
  | .device lockCmd _ => lockCmd ≠ LockCmd.close.code ∧ lockCmd ≠ LockCmd.open.code
  | _ => True

def KeepsAlarms : Move F → Prop
  | .device lockCmd _ => lockCmd ≠ LockCmd.close.code ∧ lockCmd ≠ LockCmd.open.code
  | .delete _ => False
  | _ => True

section Device

variable {tiny : TinyGPS G F} {around : Surroundings F} {board : Board G F}

theorem iteration_steel (tiny : TinyGPS G F) (around : Surroundings F) {lockCmd : BitVec 32}
    (uncommanded : lockCmd ≠ LockCmd.close.code ∧ lockCmd ≠ LockCmd.open.code)
    (stolen : board.value.state = BicycleState.steel.value) :
    (iteration tiny lockCmd around board).1.value.state = BicycleState.steel.value ∧
      ∀ event ∈ (iteration tiny lockCmd around board).2, ¬ event.Patches "state" := by
  have checked := bluetoothCheck_other around.commandLink board uncommanded.1 uncommanded.2
  rw [iteration_board, iteration_events, checked]
  have unlocked : board.value.state ≠ BicycleState.locked.value := by simp [stolen]
  have printed : ∀ event ∈ (if lockCmd = -1 then [] else [.println "invalid command"] :
      List (Event F)), ¬ event.Patches "state" := by
    intro event member
    split at member
    · cases member
    · rw [List.mem_singleton.mp member]
      exact id
  rcases gpsCheck_cases tiny around board with
    ⟨_, result⟩ | ⟨_, _, result⟩ | ⟨_, locked, _⟩
  · rw [result]
    apply And.intro stolen
    intro event member
    rw [List.append_nil] at member
    exact printed event member
  · rw [result]
    apply And.intro stolen
    intro event member
    rcases List.mem_append.mp member with first | located
    · exact printed event first
    · exact (Safety.reportPosition_silent tiny around board located).1
  · exact absurd locked unlocked

theorem iteration_theft {lockCmd : BitVec 32} (bicycle : Collection F)
    (locked : (bluetoothCheck lockCmd around.commandLink board).1.value.state =
      BicycleState.locked.value)
    (stored : (board.value.preGpsValue.latitude != 0) = true)
    (decoded : newData tiny around.window board.gps = true)
    (far : 4 ≤ tiny.distance (decodedFix tiny around.window board.gps) board.value.preGpsValue)
    (link : around.theftLink = .delivered) :
    (iteration tiny lockCmd around board).1.value.state = BicycleState.steel.value ∧
      deviceField ((iteration tiny lockCmd around board).2.foldl observeCloud bicycle) "state" =
        some (.integer BicycleState.steel.value) := by
  obtain ⟨samePosition, sameDecoder⟩ := bluetoothCheck_frame around.commandLink board lockCmd
  rw [← samePosition] at stored far
  rw [← sameDecoder] at decoded far
  have exceeds := (exceeds_iff stored decoded).mpr far
  rw [iteration_board, iteration_events, gpsCheck_theft _ _ _ exceeds locked]
  refine ⟨rfl, ?_⟩
  rw [List.foldl_append, List.foldl_append, updateFirebase_field, link, if_pos rfl]

end Device

section Cloud

omit [BEq F] [LE F] [DecidableLE F] [OfNat F 4] [Zero F]

theorem resetState_field (document : String) (bicycle : Collection F) :
    deviceField (resetState document bicycle) "state" = deviceField bicycle "state" ∨
      deviceField (resetState document bicycle) "state" =
        some (.integer BicycleState.drive.value) := by
  by_cases same : document = bicycleId
  · subst same
    cases found : bicycle.lookup bicycleId with
    | none =>
      left
      simp [deviceField, resetState, DocumentStore.lookup_updateData, found]
    | some content =>
      right
      simp [deviceField, resetState, DocumentStore.lookup_updateData, found,
        DocumentStore.Document.patch, BicycleState.value]
  · left
    simp only [deviceField, resetState]
    rw [DocumentStore.lookup_updateData_ne (Ne.symm same)]

theorem snapshot_device {bicycle : Collection F} {documents : List (QueryDocument F)}
    (taken : DocumentStore.Snapshot bicycle documents) {name : String} {value : FieldValue F}
    (shown : deviceField bicycle name = some value) :
    ∃ document ∈ documents, QueryDocument.documentID document = bicycleId := by
  cases found : bicycle.lookup bicycleId with
  | none => simp [deviceField, found] at shown
  | some content => exact ⟨⟨bicycleId, content⟩, taken.mem_iff.mpr found, rfl⟩

theorem snapshot_fields {bicycle : Collection F} {documents : List (QueryDocument F)}
    (taken : DocumentStore.Snapshot bicycle documents) {document : QueryDocument F}
    (member : document ∈ documents) (own : document.documentID = bicycleId) (field : String) :
    document.get field = deviceField bicycle field := by
  obtain ⟨id, content⟩ := document
  have same : id = bicycleId := own
  subst same
  rw [deviceField, taken.mem_iff.mp member]
  rfl

theorem snapshot_alert {userid nickname : String} {bicycle : Collection F}
    {documents : List (QueryDocument F)} (taken : DocumentStore.Snapshot bicycle documents)
    (stolen : deviceField bicycle "state" = some (.integer BicycleState.steel.value))
    (owner : deviceField bicycle "uid" = some (.string userid))
    (named : deviceField bicycle "bicycleNickname" = some (.string nickname)) :
    ∀ document ∈ documents, QueryDocument.documentID document = bicycleId →
      alert userid document = some (theftMessage nickname, bicycleId) := by
  intro document member own
  have fields := snapshot_fields taken member own
  rw [alert_eq_some, Stolen, fields, fields, fields, stolen, owner, named]
  exact ⟨⟨rfl, rfl⟩, own, nickname, rfl, rfl⟩

end Cloud

section Runs

variable {tiny : TinyGPS G F} {userid : String} {world next : World G F}

/-- The theft was detected and the document shows the state that the dismissal wrote. -/
def Dormant (world : World G F) : Prop :=
  world.board.value.state = BicycleState.steel.value ∧
    deviceField world.bicycle "state" = some (.integer BicycleState.drive.value)

def Published (world : World G F) : Prop :=
  world.board.value.state = BicycleState.steel.value ∧
    deviceField world.bicycle "state" = some (.integer BicycleState.steel.value)

omit [Zero F] [BEq F] [LE F] [DecidableLE F] [OfNat F 4] in
theorem KeepsAlarms.uncommanded {move : Move F} (keeps : KeepsAlarms move) : Uncommanded move := by
  cases move with
  | device lockCmd around => exact keeps
  | _ => exact True.intro

theorem steel_step {move : Move F} (uncommanded : Uncommanded move)
    (moved : Moves tiny userid world move next)
    (stolen : world.board.value.state = BicycleState.steel.value) :
    next.board.value.state = BicycleState.steel.value ∧
      (deviceField next.bicycle "state" = deviceField world.bicycle "state" ∨
        (∃ row, move = .delete row) ∧
          deviceField next.bicycle "state" = some (.integer BicycleState.drive.value)) := by
  cases move with
  | device lockCmd around =>
    obtain ⟨state, unpatched⟩ := iteration_steel tiny around uncommanded stolen
    cases moved
    exact ⟨state, .inl (observeCloud_fields unpatched _)⟩
  | poll documents =>
    obtain ⟨_, rfl⟩ := moved
    exact ⟨stolen, .inl rfl⟩
  | deliver before documents after =>
    obtain ⟨_, _, _, rfl⟩ := moved
    exact ⟨stolen, .inl rfl⟩
  | reset =>
    cases moved
    exact ⟨stolen, .inl rfl⟩
  | delete row =>
    obtain ⟨document, alarm, _, rfl⟩ := moved
    rcases resetState_field document world.bicycle with same | written
    · exact ⟨stolen, .inl same⟩
    · exact ⟨stolen, .inr ⟨⟨row, rfl⟩, written⟩⟩

theorem dormant_step {move : Move F} (uncommanded : Uncommanded move)
    (moved : Moves tiny userid world move next) (dormant : Dormant world) : Dormant next := by
  obtain ⟨stolen, shown⟩ := dormant
  obtain ⟨state, same | ⟨_, written⟩⟩ := steel_step uncommanded moved stolen
  · exact ⟨state, same.trans shown⟩
  · exact ⟨state, written⟩

theorem published_step {move : Move F} (keeps : KeepsAlarms move)
    (moved : Moves tiny userid world move next) (published : Published world) :
    Published next := by
  obtain ⟨stolen, shown⟩ := published
  obtain ⟨state, same | ⟨⟨row, rfl⟩, _⟩⟩ := steel_step keeps.uncommanded moved stolen
  · exact ⟨state, same.trans shown⟩
  · exact keeps.elim

theorem dismissal_dormant {row : Nat} (stolen : world.board.value.state = BicycleState.steel.value)
    (listed : world.alarm.arr[row]? = some bicycleId)
    (stored : (world.bicycle.lookup bicycleId).isSome)
    (dismissed : Moves tiny userid world (.delete row) next) : Dormant next := by
  obtain ⟨document, alarm, deleted, rfl⟩ := dismissed
  apply And.intro stolen
  have same : document = bicycleId := by
    have first := (commitDelete_spec deleted).1
    rw [listed, Option.some.injEq] at first
    exact first.symm
  obtain ⟨content, found⟩ := Option.isSome_iff_exists.mp stored
  rw [same]
  simp [deviceField, resetState, DocumentStore.lookup_updateData, found,
    DocumentStore.Document.patch, BicycleState.value]

def Locks (lockCmd : BitVec 32) (board : Board G F) : Prop :=
  lockCmd = LockCmd.close.code ∨
    (lockCmd ≠ LockCmd.open.code ∧ board.value.state = BicycleState.locked.value)

omit [Zero F] [BEq F] [LE F] [DecidableLE F] [OfNat F 4] in
theorem locks_locked {lockCmd : BitVec 32} {board : Board G F} (locks : Locks lockCmd board)
    (link : Link) :
    (bluetoothCheck lockCmd link board).1.value.state = BicycleState.locked.value := by
  by_cases close : lockCmd = LockCmd.close.code
  · rw [close, bluetoothCheck_close, obey_board]
  · rcases locks with same | ⟨notOpen, locked⟩
    · exact absurd same close
    · rw [bluetoothCheck_other _ _ close notOpen]
      exact locked

def Tracked (tiny : TinyGPS G F) (userid : String) (world : World G F) (move : Move F)
    (next : World G F) : Prop :=
  Moves tiny userid world move next ∧ Uncommanded move ∧
    ∀ lockCmd around, move = .device lockCmd around →
      newData tiny around.window world.board.gps = true ∧ Safety.Connected around

/-- After the theft of a locked bicycle and the deletion of its alarm, a further fix 4 m from the
    stored position publishes the stolen state again. -/
def ProtectionSurvives (tiny : TinyGPS G F) (userid : String) : Prop :=
  ∀ (start listed dismissed final after : World G F) (toTheft since : List (Move F)) (row : Nat)
    (lockCmd : BitVec 32) (around : Surroundings F),
    start.board.value.state = BicycleState.locked.value →
    Machine.Path (Tracked tiny userid) start toTheft listed →
    listed.board.value.state = BicycleState.steel.value →
    listed.alarm.arr[row]? = some bicycleId → Moves tiny userid listed (.delete row) dismissed →
    Machine.Path (Tracked tiny userid) dismissed since final →
    4 ≤ tiny.distance (decodedFix tiny around.window final.board.gps)
      final.board.value.preGpsValue →
    Tracked tiny userid final (.device lockCmd around) after →
      deviceField after.bicycle "state" = some (.integer BicycleState.steel.value)

end Runs

def lockedWorld : World (GPSValue Int) Int where
  board := parked
  bicycle := DocumentStore.setData bicycleId (registeredDocument "b" BicycleState.locked.value "u") ∅
  alarm := AlarmController.initial
  polls := []

def alarmedWorld : World (GPSValue Int) Int :=
  { lockedWorld.iterate meridianGPS (-1) (onMeridian 14) with
    alarm := { arr := [bicycleId], alarmDatas := [theftMessage "b"], rows := 1 } }

def dismissedWorld : World (GPSValue Int) Int :=
  { alarmedWorld with
    alarm := { arr := [], alarmDatas := [], rows := 0 }
    bicycle := resetState bicycleId alarmedWorld.bicycle }

theorem tracked_meridian (world : World (GPSValue Int) Int) (latitude : UInt8)
    (decoded : newData meridianGPS (onMeridian latitude).window world.board.gps = true) :
    Tracked meridianGPS "u" world (.device (-1) (onMeridian latitude))
      (world.iterate meridianGPS (-1) (onMeridian latitude)) := by
  refine ⟨rfl, ⟨by decide, by decide⟩, ?_⟩
  intro lockCmd around same
  cases same
  exact ⟨decoded, rfl, rfl, rfl, rfl⟩

theorem alarmedWorld_reached :
    Machine.Path (Tracked meridianGPS "u") lockedWorld
      [.device (-1) (onMeridian 14),
        .poll (lockedWorld.iterate meridianGPS (-1) (onMeridian 14)).bicycle.entries,
        .deliver [] (lockedWorld.iterate meridianGPS (-1) (onMeridian 14)).bicycle.entries [],
        .reset] alarmedWorld := by
  apply Machine.Path.cons (tracked_meridian lockedWorld 14 (by decide))
  apply Machine.Path.cons ⟨⟨.refl _, rfl⟩, True.intro, nofun⟩
  apply Machine.Path.cons ⟨⟨rfl, _, rfl, rfl⟩, True.intro, nofun⟩
  apply Machine.Path.cons ⟨rfl, True.intro, nofun⟩
  exact .nil

theorem alarmedWorld_dismissed :
    Moves meridianGPS "u" alarmedWorld (.delete 0) dismissedWorld :=
  ⟨_, _, rfl, rfl⟩

def relockedWorld : World (GPSValue Int) Int :=
  { dismissedWorld with
    board := (iteration meridianGPS LockCmd.close.code (onMeridian 14) dismissedWorld.board).1
    bicycle := (updateFirebase .state BicycleState.locked.value .delivered
      dismissedWorld.board.content).2.foldl observeCloud dismissedWorld.bicycle }

theorem relockedWorld_moves :
    Moves meridianGPS "u" dismissedWorld (.device LockCmd.close.code (onMeridian 14))
      relockedWorld := by
  have written : (iteration meridianGPS LockCmd.close.code (onMeridian 14)
      dismissedWorld.board).2.foldl observeCloud dismissedWorld.bicycle = relockedWorld.bicycle := by
    simp only [iteration_events, bluetoothCheck_close, obey_events, List.foldl_append,
      Firmware.Safety.lockBicycle_cloud]
    rfl
  change relockedWorld = { dismissedWorld with
    board := (iteration meridianGPS LockCmd.close.code (onMeridian 14) dismissedWorld.board).1
    bicycle := (iteration meridianGPS LockCmd.close.code (onMeridian 14)
      dismissedWorld.board).2.foldl observeCloud dismissedWorld.bicycle }
  rw [written]
  rfl

def stolenAgain : World (GPSValue Int) Int :=
  relockedWorld.iterate meridianGPS (-1) (onMeridian 18)

def relistedWorld : World (GPSValue Int) Int :=
  { stolenAgain with alarm := { arr := [bicycleId], alarmDatas := [theftMessage "b"], rows := 0 } }

theorem stolenAgain_complete : Complete "u" stolenAgain.bicycle.entries := by
  intro document member
  have only : stolenAgain.bicycle.entries.length = 1 := rfl
  obtain ⟨first, alone⟩ := List.length_eq_one_iff.mp only
  rw [alone, List.mem_singleton] at member
  have same : some document = stolenAgain.bicycle.entries.head? := by rw [alone, member]; rfl
  cases same
  exact ⟨"u", rfl, fun _ => ⟨⟨"b", rfl⟩, 2, rfl⟩⟩

end RockYou.System

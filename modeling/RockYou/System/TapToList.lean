import Mathlib
import RockYou.Firmware.Safety.CloudState
import RockYou.Firmware.Safety.ReportedState
import RockYou.System.CommandDelivery
import RockYou.System.Provenance

namespace RockYou.System

open Cloud App Firmware Machine Path

variable {G F : Type}

def commanded : LockCmd → BicycleState
  | .open => .drive
  | .close => .locked

def motor : LockCmd → List (Event F)
  | .open => unlockBicycle
  | .close => lockBicycle

section Command

variable (command : LockCmd) (link : Link) (board : Board G F)

theorem bluetoothCheck_command :
    bluetoothCheck command.code link board = obey (motor command) (commanded command) link board := by
  cases command with
  | «open» => exact bluetoothCheck_open link board
  | close => exact bluetoothCheck_close link board

theorem motor_final (servos : Servos) :
    (motor (F := F) command).foldl Servos.observe servos =
      Servos.both (Safety.BicycleState.position (commanded command)) := by
  cases command with
  | «open» => exact unlockBicycle_final servos
  | close => exact lockBicycle_final servos

theorem executed_motor : executed (motor (F := F) command) = [command] := by
  cases command with
  | «open» => exact executed_unlockBicycle
  | close => exact executed_lockBicycle

theorem motor_unwritten : (motor (F := F) command).filter Event.isWrite = [] := by
  rw [List.filter_eq_nil_iff]
  intro event member
  cases command with
  | «open» => rcases mem_unlockBicycle member with rfl | ⟨_, _, rfl⟩ <;> exact Bool.false_ne_true
  | close => rcases mem_lockBicycle member with rfl | ⟨_, _, rfl⟩ <;> exact Bool.false_ne_true

theorem observe_obey (servos : Servos) :
    (obey (motor command) (commanded command) link board).2.foldl Servos.observe servos =
      Servos.both (Safety.BicycleState.position (commanded command)) := by
  have silent : ∀ event ∈ sendCmdToBLE (commanded command).value ++
      (updateFirebase .state (commanded command).value link board.content).2,
      ∀ gear posDegrees, event ≠ .servoWrite gear posDegrees := by
    intro event member gear posDegrees same
    rcases List.mem_append.mp member with sent | reported
    · cases same.symm.trans (List.mem_singleton.mp sent)
    · rcases mem_updateFirebase_state reported with called | ⟨_, _, patched⟩
      · cases same.symm.trans called
      · cases same.symm.trans patched
  rw [obey_events, List.append_assoc, List.foldl_append, motor_final]
  funext gear
  apply observe_untouched
  intro posDegrees member
  exact silent _ member gear posDegrees rfl

end Command

section Reading

theorem parseInt_alone {now arrival : Nat} (arrived : arrival ≤ now) (command : LockCmd)
    {later : List (Nat × UInt8)}
    (separate : ∀ next ∈ later.head?, now + streamTimeout ≤ next.1) :
    Port.parseInt ⟨now, (arrival, digit command) :: later⟩ =
      (command.code, ⟨now + streamTimeout, later⟩) := by
  rw [parseInt_digit (timely_of_arrived arrived), Nat.max_eq_left arrived]
  cases later with
  | nil => rfl
  | cons next later =>
    exact readDigits_late (Nat.not_lt.mpr (separate next rfl)) command.code later

theorem getCmdFromBLE_digit {now arrival : Nat} (arrived : arrival ≤ now) (command : LockCmd)
    {later : List (Nat × UInt8)}
    (separate : ∀ next ∈ later.head?, now + streamTimeout ≤ next.1) :
    getCmdFromBLE (F := F) ⟨now, (arrival, digit command) :: later⟩ =
      (command.code, ⟨now + streamTimeout, later⟩, [.serialWrite command.code]) := by
  have waiting : Port.available ⟨now, (arrival, digit command) :: later⟩ = true :=
    decide_eq_true arrived
  rw [getCmdFromBLE, if_pos waiting, parseInt_alone arrived command separate]

end Reading

variable [Zero F] [BEq F] [LE F] [DecidableLE F] [OfNat F 4]

section Iteration

variable {tiny : TinyGPS G F} {command : LockCmd} {around : Surroundings F} {board : Board G F}

theorem writes_command (tiny : TinyGPS G F) (command : LockCmd) {around : Surroundings F}
    (delivered : around.commandLink = .delivered) (board : Board G F) :
    (writes tiny board (.loop command.code around))[0]? =
      some (stateReport (commanded command)) := by
  have acknowledged (state : Int) : (sendCmdToBLE (F := F) state).filter Event.isWrite = [] := rfl
  rw [writes, deviceStep, iteration_events, bluetoothCheck_command, obey_events, delivered,
    updateFirebase_state, List.filter_append, List.filter_append, List.filter_append,
    motor_unwritten, acknowledged]
  rfl

theorem observe_gpsCheck (tiny : TinyGPS G F) (around : Surroundings F) (board : Board G F)
    (servos : Servos) : (gpsCheck tiny around board).2.foldl Servos.observe servos = servos := by
  funext gear
  apply observe_untouched
  intro posDegrees member
  rcases mem_gpsCheck member with ⟨_, _, same⟩ | ⟨same, _⟩ | ⟨_, _, _, same⟩ <;> cases same

theorem iteration_final (tiny : TinyGPS G F) (command : LockCmd) (around : Surroundings F)
    (board : Board G F) (servos : Servos) :
    (iteration tiny command.code around board).2.foldl Servos.observe servos =
      Servos.both (Safety.BicycleState.position (commanded command)) := by
  rw [iteration_events, List.foldl_append, observe_gpsCheck, bluetoothCheck_command, observe_obey]

end Iteration

section Continuation

variable {tiny : TinyGPS G F} {installation queried : Installation G F}
  {moves : List (InstallationMove F)} {id : String}

def Leaves (tiny : TinyGPS G F) (id : String) (installation : Installation G F)
    (move : InstallationMove F) (_ : Installation G F) : Prop :=
  ∀ value, ¬ Sets tiny id installation move value

/-- As long as no move writes it, the state stays or goes with its document. -/
theorem state_kept {value : Int}
    (path : Path (restrict (InstallationMoves tiny) (Leaves tiny id)) installation moves queried)
    (set : stateOf id installation.bicycle = some value) :
    stateOf id queried.bicycle = some value ∨ stateOf id queried.bicycle = none := by
  apply path.invariant (fun _ => True) (fun installation : Installation G F =>
    stateOf id installation.bicycle = some value ∨ stateOf id installation.bicycle = none) ?_
    (fun _ _ => True.intro) (.inl set)
  intro installation move next _ moved kept
  rcases moves_state id moved.1 with ⟨other, sets, _⟩ | same | ⟨removed, _⟩
  · exact absurd sets (moved.2 other)
  · rw [same]
    exact kept
  · exact .inr removed

end Continuation

/-- A tap whose byte is read alone is executed once, drives both gears and is acknowledged; and
    where its report is delivered, this is the first write of the iteration, and every list read
    after it shows the commanded state until a move writes the state again. -/
theorem tap_reaches_list {P : Type} (tiny : TinyGPS G F) {serial : BluetoothSerial P}
    (ready : serial.bluetoothIsReady = true) (command : LockCmd) {now arrival : Nat}
    (arrived : arrival ≤ now) {later : List (Nat × UInt8)}
    (separate : ∀ next ∈ later.head?, now + streamTimeout ≤ next.1)
    (board : Board G F) (around : Surroundings F) (elapsed : Nat) (servos : Servos) :
    let port : Port := ⟨now, channel serial [(arrival, command)] ++ later⟩
    let looped := loopStep tiny (board, port) (around, elapsed)
    looped.1.2.pending = later ∧ executed looped.2 = [command] ∧
      looped.2.foldl Servos.observe servos =
        Servos.both (Safety.BicycleState.position (commanded command)) ∧
      .sendCmdToBLE (commanded command).value ∈ looped.2 ∧
      (looped.1.1 = (deviceStep tiny board (.loop command.code around)).1 ∧
        looped.2.filter Event.isWrite = writes tiny board (.loop command.code around)) ∧
      (around.commandLink = .delivered →
        (writes tiny board (.loop command.code around))[0]? =
            some (stateReport (commanded command)) ∧
        ∀ (writing written queried answered : Installation G F)
          (moves : List (InstallationMove F)) (userid : String)
          (documents : List (QueryDocument F)) (labels : List LabelData) (label : LabelData),
          writing.board = board → writing.running = some ⟨.loop command.code around, 0⟩ →
          InstallationMoves tiny writing .write written →
          Path (restrict (InstallationMoves tiny) (Leaves tiny bicycleId)) written moves queried →
          InstallationMoves tiny queried (.answer userid documents) answered →
          (readServerData userid documents []).state? = some labels → label ∈ labels →
          label.idNum = bicycleId →
            label.state = stateCheckLabelChange (commanded command).value ∧
              label.viewColor = stateCheckViewChange (commanded command).value) := by
  have sent : channel serial [(arrival, command)] = [(arrival, digit command)] := by
    rw [channel_ready ready]
    rfl
  rw [sent]
  intro port looped
  have received : getCmdFromBLE (F := F) port =
      (command.code, ⟨now + streamTimeout, later⟩, [.serialWrite command.code]) :=
    getCmdFromBLE_digit arrived command separate
  have result : looped = (((iteration tiny command.code around board).1,
      ⟨now + streamTimeout + elapsed, later⟩),
      .serialWrite command.code :: (iteration tiny command.code around board).2) := by
    change loop tiny around elapsed (board, port) = _
    rw [loop, received]
    rfl
  rw [result]
  refine ⟨rfl, ?_, ?_, ?_, ⟨rfl, rfl⟩, ?_⟩
  · have none : executed (F := F) [.serialWrite command.code] = [] := rfl
    rw [← List.singleton_append, executed_append, none, iteration_events,
      executed_append, executed_gpsCheck, bluetoothCheck_command, executed_obey, executed_motor]
    rfl
  · rw [List.foldl_cons]
    exact iteration_final tiny command around board servos
  · rw [iteration_events, bluetoothCheck_command, obey_events]
    simp [sendCmdToBLE]
  · intro delivered
    have first := writes_command tiny command delivered board
    refine ⟨first, ?_⟩
    intro writing written queried answered moves userid documents labels label same running wrote
      path taken scanned listed device
    obtain ⟨content, value, member, origin⟩ := label_origin scanned listed
    have shown : stateOf bicycleId written.bicycle = some (commanded command).value := by
      obtain ⟨step, count, event, begun, found, rfl⟩ := wrote
      rw [running] at begun
      cases begun
      rw [same, first] at found
      cases found
      exact stateOf_report (commanded command) writing.bicycle
    have found : queried.bicycle.lookup label.idNum = some content := taken.1.mem_iff.mp member
    have read : stateOf bicycleId queried.bicycle = some value := by
      rw [← device, stateOf, found]
      exact origin.valued
    have state : value = (commanded command).value := by
      rcases state_kept path shown with kept | gone
      · exact Option.some.inj (read.symm.trans kept)
      · rw [read] at gone
        cases gone
    rw [← state]
    exact ⟨origin.state, origin.viewColor⟩

def lockAgain : Step Int := .loop LockCmd.close.code (onMeridian 10)

theorem writes_lockAgain : writes meridianGPS parked lockAgain = [stateReport .locked] := by
  have silent : (lockBicycle (F := Int)).filter Event.isWrite = [] := motor_unwritten .close
  rw [writes, lockAgain, deviceStep, iteration_events, bluetoothCheck_close, obey_events,
    List.filter_append, List.filter_append, List.filter_append, silent]
  rfl

def lockingParked : Installation (GPSValue Int) Int :=
  { registeredParked with running := some ⟨lockAgain, 0⟩ }

def lockedParked : Installation (GPSValue Int) Int :=
  { lockingParked with
    running := some ⟨lockAgain, 1⟩
    bicycle := observeCloud registeredParked.bicycle (stateReport .locked) }

theorem lockedParked_written :
    InstallationMoves meridianGPS lockingParked .write lockedParked := by
  refine ⟨lockAgain, 0, stateReport .locked, rfl, ?_, rfl⟩
  change (writes meridianGPS parked lockAgain)[0]? = _
  rw [writes_lockAgain]
  rfl

def rivalParked : Installation (GPSValue Int) Int :=
  { lockedParked with
    bicycle := DocumentStore.setData "other" (registeredDocument "theirs" 0 "v")
      lockedParked.bicycle }

def aloneParked : Installation (GPSValue Int) Int :=
  { rivalParked with
    bicycle := bicycleRemoveBtnDidTap "theirs" rivalParked.bicycle.entries rivalParked.bicycle }

theorem aloneParked_left :
    Path (restrict (InstallationMoves meridianGPS) (Leaves meridianGPS bicycleId)) lockedParked
      [.register "v" 2 "other" "theirs", .remove "theirs" rivalParked.bicycle.entries]
      aloneParked := by
  have elsewhere : Leaves meridianGPS bicycleId lockedParked (.register "v" 2 "other" "theirs")
      rivalParked := by
    intro value sets
    cases sets with
    | registered tap path =>
      have tapped : (nextButtonDidTap 2 "other" "theirs").2 = .addServerData "other" "theirs" := rfl
      rw [tapped] at tap
      cases tap
      exact absurd path (by decide)
  have removed : Leaves meridianGPS bicycleId rivalParked
      (.remove "theirs" rivalParked.bicycle.entries) aloneParked := by
    intro value sets
    cases sets
  exact .cons ⟨⟨_, rfl, rfl⟩, elsewhere⟩ (.cons ⟨rfl, removed⟩ .nil)

theorem tap_reaches_list_parked :
    let port : Port := ⟨0, channel paired [(0, .close)]⟩
    let looped := loopStep meridianGPS (parked, port) (onMeridian 10, 1000)
    looped.1.2.pending = [] ∧ executed looped.2 = [.close] ∧
      looped.2.foldl Servos.observe (Servos.both 0) = Servos.both 180 ∧
      .sendCmdToBLE BicycleState.locked.value ∈ looped.2 ∧
      looped.2.filter Event.isWrite = [stateReport .locked] ∧
      ∃ labels label,
        (readServerData "u" aloneParked.bicycle.entries []).state? = some labels ∧
          label ∈ labels ∧ label.idNum = bicycleId ∧ label.state = "잠금중" ∧
          label.viewColor = .yellow := by
  have ready : paired.bluetoothIsReady = true := rfl
  have separate : ∀ next ∈ ([] : List (Nat × UInt8)).head?, 0 + streamTimeout ≤ next.1 := nofun
  obtain ⟨pending, done, driven, acknowledged, ⟨_, written⟩, listed⟩ :=
    tap_reaches_list meridianGPS ready .close (Nat.le_refl 0) separate parked (onMeridian 10) 1000
      (Servos.both 0)
  have read : (readServerData "u" aloneParked.bicycle.entries []).state? =
      some [⟨"bike", bicycleId, "잠금중", .yellow, .black⟩] := rfl
  obtain ⟨_, shown⟩ := listed rfl
  obtain ⟨state, color⟩ := shown lockingParked lockedParked aloneParked
    { aloneParked with answers := [("u", aloneParked.bicycle.entries)] } _ "u"
    aloneParked.bicycle.entries _ _ rfl rfl lockedParked_written aloneParked_left
    ⟨.refl _, rfl⟩ read (List.mem_singleton_self _) rfl
  exact ⟨pending, done, driven, acknowledged, written.trans writes_lockAgain, _, _, read,
    List.mem_singleton_self _, rfl, state, color⟩

section Meaning

variable {tiny : TinyGPS G F} {board : Board G F} {installation : Installation G F}
  {move : InstallationMove F} {moves : List (InstallationMove F)} {userid id : String}
  {documents : List (QueryDocument F)}

/-- The report of an iteration that obeys a lock command: the iteration leaves both gears closed,
    wherever they were. -/
def ClosesGears (tiny : TinyGPS G F) (installation : Installation G F)
    (move : InstallationMove F) : Prop :=
  ∃ around written, move = .write ∧
    installation.running = some ⟨.loop LockCmd.close.code around, written⟩ ∧
    (writes tiny installation.board (.loop LockCmd.close.code around))[written]? =
      some (stateReport .locked) ∧
    around.commandLink = .delivered ∧
    ∀ servos, (iteration tiny LockCmd.close.code around installation.board).2.foldl Servos.observe
      servos = Servos.both 180

theorem sets_locked (sets : Sets tiny id installation move BicycleState.locked.value) :
    id = bicycleId ∧ ClosesGears tiny installation move := by
  generalize locked : BicycleState.locked.value = value at sets
  cases sets with
  | @reported lockCmd around written state device running report delivers =>
    have same : state = .locked := BicycleState.value_injective locked.symm
    rw [same] at report delivers
    cases delivers with
    | closed command link =>
      subst command
      exact ⟨device, around, written, rfl, running, report, link,
        iteration_final tiny .close around installation.board⟩
  | registered => cases locked
  | dismissed => cases locked

theorem label_locked_iff {value : Int} :
    stateCheckLabelChange value = "잠금중" ↔ value = BicycleState.locked.value := by
  have locked : BicycleState.locked.value = 1 := rfl
  rw [locked]
  unfold stateCheckLabelChange
  constructor
  · intro shown
    by_contra other
    rw [if_neg other] at shown
    split at shown
    · exact absurd shown (by decide)
    · exact absurd shown (by decide)
  · rintro rfl
    exact if_pos rfl

/-- A label that shows a bicycle as locked names the device's, and the cloud has shown this state
    since an iteration that closed both gears and reported it. -/
theorem shown_locked (path : Path (InstallationMoves tiny) (.start board) moves installation)
    (answered : (userid, documents) ∈ installation.answers) {labels : List LabelData}
    {label : LabelData} (read : (readServerData userid documents []).state? = some labels)
    (listed : label ∈ labels) (locked : label.state = "잠금중") :
    label.idNum = bicycleId ∧
      Provenance tiny (ClosesGears tiny) (ShowsState label.idNum BicycleState.locked.value)
        (.start board) userid documents moves installation := by
  obtain ⟨content, value, _, origin, provenance⟩ := label_caused path answered read listed
  rw [origin.state, label_locked_iff] at locked
  subst locked
  have device : label.idNum = bicycleId := by
    obtain ⟨_, wrote⟩ := provenance
    exact (sets_locked wrote).1
  exact ⟨device, provenance.mono fun _ _ sets => (sets_locked sets).2⟩

end Meaning

theorem shown_locked_parked :
    Provenance meridianGPS (ClosesGears meridianGPS) (ShowsState bicycleId 1) (.start parked) "u"
      lockedParked.bicycle.entries
      [.register "u" 2 bicycleId "bike", .device lockAgain, .write,
        .answer "u" lockedParked.bicycle.entries]
      { lockedParked with answers := [("u", lockedParked.bicycle.entries)] } := by
  have read : (readServerData "u" lockedParked.bicycle.entries []).state? =
      some [⟨"bike", bicycleId, "잠금중", .yellow, .black⟩] := rfl
  have registered : InstallationMoves meridianGPS (.start parked)
      (.register "u" 2 bicycleId "bike") registeredParked := ⟨_, rfl, rfl⟩
  have path : Path (InstallationMoves meridianGPS) (.start parked)
      [.register "u" 2 bicycleId "bike", .device lockAgain, .write,
        .answer "u" lockedParked.bicycle.entries]
      { lockedParked with answers := [("u", lockedParked.bicycle.entries)] } :=
    .cons registered (.cons ⟨.inl rfl, rfl⟩ (.cons lockedParked_written
      (.cons ⟨.refl _, rfl⟩ .nil)))
  exact (shown_locked path (List.mem_singleton_self _) read (List.mem_singleton_self _) rfl).2

end RockYou.System

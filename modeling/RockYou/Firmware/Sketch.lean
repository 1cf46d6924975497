import RockYou.Firmware.Bluetooth
import RockYou.Firmware.Firebase
import RockYou.Firmware.GPS
import RockYou.Firmware.Motor
import RockYou.Library.Machine

namespace RockYou.Firmware

variable {G F : Type} [Zero F] [BEq F] [LE F] [DecidableLE F] [OfNat F 4]

structure Board (G F : Type) where
  value : ValueClass F
  gps : G
  content : FirebaseJson F

/-- What one iteration meets besides the command: the bytes of its GPS window, the contents of
    its uninitialised locals, and the outcome of each Firestore call it may make. -/
structure Surroundings (F : Type) where
  window : List UInt8
  gpsValue : GPSValue F
  distance : F
  commandLink : Link
  latitudeLink : Link
  longitudeLink : Link
  theftLink : Link

def setup (board : Board G F) : Board G F × List (Event F) :=
  ({ board with value := board.value.initValue }, setMotor)

/-- Power-up: the objects are constructed anew over whatever `Value` holds, then `setup` runs. -/
def powerUp (tiny : TinyGPS G F) (value : ValueClass F) : Board G F × List (Event F) :=
  setup { value := value, gps := tiny.start, content := FirebaseJson.cleared }

def obey (motor : List (Event F)) (state : BicycleState) (link : Link) (board : Board G F) :
    Board G F × List (Event F) :=
  let (content, report) := updateFirebase .state state.value link board.content
  ({ board with value := { board.value with state := state.value }, content := content },
    motor ++ sendCmdToBLE state.value ++ report)

def bluetoothCheck (lockCmd : BitVec 32) (link : Link) (board : Board G F) :
    Board G F × List (Event F) :=
  if lockCmd ≠ -1 then
    if lockCmd = LockCmd.close.code then obey lockBicycle .locked link board
    else if lockCmd = LockCmd.open.code then obey unlockBicycle .drive link board
    else (board, [.println "invalid command"])
  else (board, [])

def gpsCheck (tiny : TinyGPS G F) (around : Surroundings F) (board : Board G F) :
    Board G F × List (Event F) :=
  let (gpsValue, gps) := getGPSValue tiny around.window around.gpsValue board.gps
  let pre := board.value.preGpsValue
  let distance := if pre.latitude != 0 then tiny.distance gpsValue pre else around.distance
  if 4 ≤ distance ∨ pre.latitude == 0 then
    let value := { board.value with preGpsValue := gpsValue }
    let (content, first) :=
      updateGPSFirebase .latitude gpsValue.latitude around.latitudeLink board.content
    let (content, second) :=
      updateGPSFirebase .longitude gpsValue.longitude around.longitudeLink content
    if value.state = BicycleState.locked.value then
      let value := { value with state := BicycleState.steel.value }
      let (content, third) := updateFirebase .state value.state around.theftLink content
      ({ value := value, gps := gps, content := content }, first ++ second ++ third)
    else ({ value := value, gps := gps, content := content }, first ++ second)
  else ({ board with gps := gps }, [])

def iteration (tiny : TinyGPS G F) (lockCmd : BitVec 32) (around : Surroundings F)
    (board : Board G F) : Board G F × List (Event F) :=
  let (board, first) := bluetoothCheck lockCmd around.commandLink board
  let (board, second) := gpsCheck tiny around board
  (board, first ++ second)

/-- `loop()` with the serial port; `elapsed` is the time the rest of the iteration takes. -/
def loop (tiny : TinyGPS G F) (around : Surroundings F) (elapsed : Nat)
    (state : Board G F × Port) : (Board G F × Port) × List (Event F) :=
  let (lockCmd, port, received) := getCmdFromBLE state.2
  let (board, events) := iteration tiny lockCmd around state.1
  ((board, { port with now := port.now + elapsed }), received ++ events)

def onMeridian (latitude : UInt8) : Surroundings Int where
  window := [latitude]
  gpsValue := { latitude := 0, longitude := 0 }
  distance := 0
  commandLink := .delivered
  latitudeLink := .delivered
  longitudeLink := .delivered
  theftLink := .delivered

def unpowered : Board (GPSValue Int) Int where
  value := { state := 0, preGpsValue := { latitude := 0, longitude := 0 } }
  gps := { latitude := 0, longitude := 0 }
  content := FirebaseJson.cleared

def parked : Board (GPSValue Int) Int where
  value := { state := BicycleState.locked.value, preGpsValue := { latitude := 10, longitude := 1 } }
  gps := { latitude := 10, longitude := 1 }
  content := FirebaseJson.cleared

inductive Step (F : Type) where
  | setup (value : ValueClass F)
  | loop (lockCmd : BitVec 32) (around : Surroundings F)

def deviceStep (tiny : TinyGPS G F) (board : Board G F) : Step F → Board G F × List (Event F)
  | .setup value => powerUp tiny value
  | .loop lockCmd around => iteration tiny lockCmd around board

def loopStep (tiny : TinyGPS G F) (state : Board G F × Port) (input : Surroundings F × Nat) :
    (Board G F × Port) × List (Event F) :=
  loop tiny input.1 input.2 state

section BluetoothCheck

omit [Zero F] [BEq F] [LE F] [DecidableLE F] [OfNat F 4]

variable (link : Link) (board : Board G F)

theorem obey_board (motor : List (Event F)) (state : BicycleState) :
    (obey motor state link board).1 =
      { board with
        value := { board.value with state := state.value }
        content := FirebaseJson.cleared.set ["fields", "state", "integerValue"]
          (.text state.value) } := rfl

theorem obey_events (motor : List (Event F)) (state : BicycleState) :
    (obey motor state link board).2 = motor ++ sendCmdToBLE state.value ++
      (updateFirebase .state state.value link board.content).2 := rfl

theorem bluetoothCheck_close :
    bluetoothCheck LockCmd.close.code link board = obey lockBicycle .locked link board := by
  rw [bluetoothCheck, if_pos LockCmd.close.code_ne_sentinel, if_pos rfl]

theorem bluetoothCheck_open :
    bluetoothCheck LockCmd.open.code link board = obey unlockBicycle .drive link board := by
  rw [bluetoothCheck, if_pos LockCmd.open.code_ne_sentinel, if_neg LockCmd.open_ne_close, if_pos rfl]

theorem bluetoothCheck_other {lockCmd : BitVec 32} (notClose : lockCmd ≠ LockCmd.close.code)
    (notOpen : lockCmd ≠ LockCmd.open.code) :
    bluetoothCheck lockCmd link board =
      (board, if lockCmd = -1 then [] else [.println "invalid command"]) := by
  by_cases sentinel : lockCmd = -1
  · subst sentinel
    simp [bluetoothCheck]
  · simp only [bluetoothCheck, sentinel, notClose, notOpen, ne_eq, not_false_eq_true, ite_true,
      ite_false]

theorem bluetoothCheck_none : bluetoothCheck (-1) link board = (board, []) :=
  if_neg fun different => different rfl

omit link board in
theorem mem_bluetoothCheck {lockCmd : BitVec 32} {link : Link} {board : Board G F} {event : Event F}
    (member : event ∈ (bluetoothCheck lockCmd link board).2) :
    (event = .lockBicycle ∨ event = .unlockBicycle ∨
        ∃ gear posDegrees, event = .servoWrite gear posDegrees) ∨
      (∃ lockState, event = .sendCmdToBLE lockState) ∨ (∃ text, event = .println text) ∨
      (∃ data, event = .updateFirebase .state data) ∨
      ∃ content succeeded, event = .patchDocument ["state"] content succeeded := by
  have obeyed {motor : List (Event F)} {state : BicycleState}
      (member : event ∈ (obey motor state link board).2) : event ∈ motor ∨
        (∃ lockState, event = .sendCmdToBLE lockState) ∨ (∃ text, event = .println text) ∨
        (∃ data, event = .updateFirebase .state data) ∨
        ∃ content succeeded, event = .patchDocument ["state"] content succeeded := by
    rw [obey_events, List.append_assoc] at member
    rcases List.mem_append.mp member with moved | member
    · exact .inl moved
    rcases List.mem_append.mp member with acknowledged | reported
    · exact .inr (.inl ⟨_, List.mem_singleton.mp acknowledged⟩)
    · rcases mem_updateFirebase_state reported with called | sent
      · exact .inr (.inr (.inr (.inl ⟨_, called⟩)))
      · exact .inr (.inr (.inr (.inr sent)))
  by_cases close : lockCmd = LockCmd.close.code
  · rw [close, bluetoothCheck_close] at member
    exact (obeyed member).imp_left fun moved => (mem_lockBicycle moved).imp_right .inr
  by_cases opening : lockCmd = LockCmd.open.code
  · rw [opening, bluetoothCheck_open] at member
    exact (obeyed member).imp_left fun moved => .inr (mem_unlockBicycle moved)
  · rw [bluetoothCheck_other _ _ close opening] at member
    split at member
    · cases member
    · exact .inr (.inr (.inl ⟨_, List.mem_singleton.mp member⟩))

theorem bluetoothCheck_frame (lockCmd : BitVec 32) :
    (bluetoothCheck lockCmd link board).1.value.preGpsValue = board.value.preGpsValue ∧
      (bluetoothCheck lockCmd link board).1.gps = board.gps := by
  by_cases close : lockCmd = LockCmd.close.code
  · rw [close, bluetoothCheck_close, obey_board]
    exact ⟨rfl, rfl⟩
  by_cases opening : lockCmd = LockCmd.open.code
  · rw [opening, bluetoothCheck_open, obey_board]
    exact ⟨rfl, rfl⟩
  · rw [bluetoothCheck_other _ _ close opening]
    exact ⟨rfl, rfl⟩

end BluetoothCheck

section GpsCheck

variable (tiny : TinyGPS G F) (around : Surroundings F) (board : Board G F)

def returnedFix : GPSValue F := (getGPSValue tiny around.window around.gpsValue board.gps).1

/-- The condition under which the GPS step stores and reports the value it got. -/
def Exceeds : Prop :=
  4 ≤ (if board.value.preGpsValue.latitude != 0
    then tiny.distance (returnedFix tiny around board) board.value.preGpsValue
    else around.distance) ∨ board.value.preGpsValue.latitude == 0

def reportPosition : FirebaseJson F × List (Event F) :=
  let fix := returnedFix tiny around board
  let first := updateGPSFirebase .latitude fix.latitude around.latitudeLink board.content
  let second := updateGPSFirebase .longitude fix.longitude around.longitudeLink first.1
  (second.1, first.2 ++ second.2)

theorem gpsCheck_quiet (near : ¬ Exceeds tiny around board) :
    gpsCheck tiny around board =
      ({ board with gps := (readWindow tiny around.window board.gps false).1 }, []) := by
  rw [← getGPSValue_gps tiny around.window around.gpsValue]
  exact if_neg near

theorem gpsCheck_moved (far : Exceeds tiny around board)
    (unlocked : board.value.state ≠ BicycleState.locked.value) :
    gpsCheck tiny around board =
      ({ value := { board.value with preGpsValue := returnedFix tiny around board }
         gps := (readWindow tiny around.window board.gps false).1
         content := (reportPosition tiny around board).1 },
        (reportPosition tiny around board).2) := by
  rw [← getGPSValue_gps tiny around.window around.gpsValue]
  exact (if_pos far).trans (if_neg unlocked)

theorem gpsCheck_theft (far : Exceeds tiny around board)
    (locked : board.value.state = BicycleState.locked.value) :
    gpsCheck tiny around board =
      ({ value := ⟨BicycleState.steel.value, returnedFix tiny around board⟩
         gps := (readWindow tiny around.window board.gps false).1
         content := FirebaseJson.cleared.set ["fields", "state", "integerValue"]
           (.text BicycleState.steel.value) },
        (reportPosition tiny around board).2 ++
          (updateFirebase .state BicycleState.steel.value around.theftLink
            (reportPosition tiny around board).1).2) := by
  rw [← getGPSValue_gps tiny around.window around.gpsValue]
  exact (if_pos far).trans (if_pos locked)

theorem gpsCheck_cases :
    (¬ Exceeds tiny around board ∧ gpsCheck tiny around board =
      ({ board with gps := (readWindow tiny around.window board.gps false).1 }, [])) ∨
    (Exceeds tiny around board ∧ board.value.state ≠ BicycleState.locked.value ∧
      gpsCheck tiny around board =
        ({ value := { board.value with preGpsValue := returnedFix tiny around board }
           gps := (readWindow tiny around.window board.gps false).1
           content := (reportPosition tiny around board).1 },
          (reportPosition tiny around board).2)) ∨
    (Exceeds tiny around board ∧ board.value.state = BicycleState.locked.value ∧
      gpsCheck tiny around board =
        ({ value := ⟨BicycleState.steel.value, returnedFix tiny around board⟩
           gps := (readWindow tiny around.window board.gps false).1
           content := FirebaseJson.cleared.set ["fields", "state", "integerValue"]
             (.text BicycleState.steel.value) },
          (reportPosition tiny around board).2 ++
            (updateFirebase .state BicycleState.steel.value around.theftLink
              (reportPosition tiny around board).1).2)) := by
  by_cases far : Exceeds tiny around board
  · by_cases locked : board.value.state = BicycleState.locked.value
    · exact .inr (.inr ⟨far, locked, gpsCheck_theft tiny around board far locked⟩)
    · exact .inr (.inl ⟨far, locked, gpsCheck_moved tiny around board far locked⟩)
  · exact .inl ⟨far, gpsCheck_quiet tiny around board far⟩

theorem gpsCheck_state :
    (gpsCheck tiny around board).1.value.state = board.value.state ∨
      (board.value.state = BicycleState.locked.value ∧
        (gpsCheck tiny around board).1.value.state = BicycleState.steel.value) := by
  rcases gpsCheck_cases tiny around board with
    ⟨_, result⟩ | ⟨_, _, result⟩ | ⟨_, locked, result⟩ <;> rw [result]
  · exact .inl rfl
  · exact .inl rfl
  · exact .inr ⟨locked, rfl⟩

theorem iteration_board (lockCmd : BitVec 32) :
    (iteration tiny lockCmd around board).1 =
      (gpsCheck tiny around (bluetoothCheck lockCmd around.commandLink board).1).1 := rfl

theorem iteration_events (lockCmd : BitVec 32) :
    (iteration tiny lockCmd around board).2 =
      (bluetoothCheck lockCmd around.commandLink board).2 ++
        (gpsCheck tiny around (bluetoothCheck lockCmd around.commandLink board).1).2 := rfl

end GpsCheck

omit [Zero F] [BEq F] [LE F] [DecidableLE F] [OfNat F 4] in
theorem mem_reportPosition (tiny : TinyGPS G F) (around : Surroundings F) (board : Board G F)
    {event : Event F}
    (member : event ∈ (reportPosition tiny around board).2) :
    (∃ updateValue data, event = .updateGPSFirebase updateValue data) ∨
      ∃ content succeeded, event = .patchDocument ["GPS"] content succeeded := by
  simp only [reportPosition, updateGPSFirebase, List.cons_append,
    List.nil_append, List.mem_cons, List.mem_append] at member
  rcases member with rfl | sent | rfl | sent
  · exact .inl ⟨_, _, rfl⟩
  · exact .inr ⟨_, mem_sendPatch sent⟩
  · exact .inl ⟨_, _, rfl⟩
  · exact .inr ⟨_, mem_sendPatch sent⟩

theorem mem_gpsCheck {tiny : TinyGPS G F} {around : Surroundings F} {board : Board G F}
    {event : Event F} (member : event ∈ (gpsCheck tiny around board).2) :
    (∃ updateValue data, event = .updateGPSFirebase updateValue data) ∨
      (event = .updateFirebase .state BicycleState.steel.value ∧
        board.value.state = BicycleState.locked.value) ∨
      ∃ updateMask content succeeded, event = .patchDocument updateMask content succeeded := by
  have reported (located : event ∈ (reportPosition tiny around board).2) :
      (∃ updateValue data, event = .updateGPSFirebase updateValue data) ∨
        ∃ updateMask content succeeded, event = .patchDocument updateMask content succeeded :=
    (mem_reportPosition tiny around board located).imp_right fun sent => ⟨_, sent⟩
  rcases gpsCheck_cases tiny around board with
    ⟨_, result⟩ | ⟨_, _, result⟩ | ⟨_, locked, result⟩ <;> rw [result] at member
  · cases member
  · exact (reported member).imp_right .inr
  · rcases List.mem_append.mp member with located | stolen
    · exact (reported located).imp_right .inr
    · rcases mem_updateFirebase_state stolen with same | ⟨sent, succeeded, same⟩
      · exact .inr (.inl ⟨same, locked⟩)
      · exact .inr (.inr ⟨_, sent, succeeded, same⟩)

section Reference

variable {tiny : TinyGPS G F} {around : Surroundings F} {board : Board G F}

omit [DecidableLE F] in
theorem exceeds_iff (stored : (board.value.preGpsValue.latitude != 0) = true)
    (decoded : newData tiny around.window board.gps = true) :
    Exceeds tiny around board ↔
      4 ≤ tiny.distance (decodedFix tiny around.window board.gps) board.value.preGpsValue := by
  have nonzero : (board.value.preGpsValue.latitude == 0) = false := by
    simpa [bne] using stored
  have fix : returnedFix tiny around board = decodedFix tiny around.window board.gps :=
    getGPSValue_of_newData decoded _
  simp [Exceeds, stored, nonzero, fix]

theorem gpsCheck_gps (tiny : TinyGPS G F) (around : Surroundings F) (board : Board G F) :
    (gpsCheck tiny around board).1.gps = (readWindow tiny around.window board.gps false).1 := by
  rcases gpsCheck_cases tiny around board with
    ⟨_, result⟩ | ⟨_, _, result⟩ | ⟨_, _, result⟩ <;> rw [result]

theorem gpsCheck_still_locked
    (locked : (gpsCheck tiny around board).1.value.state = BicycleState.locked.value) :
    board.value.state = BicycleState.locked.value ∧ ¬ Exceeds tiny around board ∧
      (gpsCheck tiny around board).1.value.preGpsValue = board.value.preGpsValue := by
  rcases gpsCheck_cases tiny around board with
    ⟨near, result⟩ | ⟨_, unlocked, result⟩ | ⟨_, _, result⟩ <;> rw [result] at locked ⊢
  · exact ⟨locked, near, rfl⟩
  · exact absurd locked unlocked
  · simp at locked

end Reference

section Refinement

variable {ω : Type} (tiny : TinyGPS G F) {observe : ω → Event F → ω}

theorem loopStep_refines (ignores : ∀ world lockCmd, observe world (.serialWrite lockCmd) = world)
    (state : Board G F × Port) (input : Surroundings F × Nat) (world : ω) :
    (loopStep tiny state input).1.1 =
        (deviceStep tiny state.1 (.loop (getCmdFromBLE (F := F) state.2).1 input.1)).1 ∧
      (loopStep tiny state input).2.foldl observe world =
        (deviceStep tiny state.1 (.loop (getCmdFromBLE (F := F) state.2).1 input.1)).2.foldl
          observe world := by
  have received : (getCmdFromBLE (F := F) state.2).2.2.foldl observe world = world := by
    unfold getCmdFromBLE
    split
    · exact ignores world _
    · rfl
  have events : (loopStep tiny state input).2 = (getCmdFromBLE (F := F) state.2).2.2 ++
      (iteration tiny (getCmdFromBLE (F := F) state.2).1 input.1 state.1).2 := rfl
  apply And.intro rfl
  rw [events, List.foldl_append, received, deviceStep]

/-- Runs of the sketch with its serial port are runs of the device: the same boards, and the same
    world for every observer that does not watch the serial console. -/
theorem loop_run_refines (ignores : ∀ world lockCmd, observe world (.serialWrite lockCmd) = world)
    (inputs : List (Surroundings F × Nat)) (state : Board G F × Port) (world : ω) :
    ∃ steps : List (Step F),
      (Machine.run (loopStep tiny) state inputs).1.1 =
          (Machine.run (deviceStep tiny) state.1 steps).1 ∧
        (Machine.run (loopStep tiny) state inputs).2.foldl observe world =
          (Machine.run (deviceStep tiny) state.1 steps).2.foldl observe world := by
  induction inputs generalizing state world with
  | nil => exact ⟨[], rfl, rfl⟩
  | cons input inputs ih =>
    obtain ⟨board, first⟩ := loopStep_refines tiny ignores state input world
    obtain ⟨steps, boards, rest⟩ := ih (loopStep tiny state input).1
      ((loopStep tiny state input).2.foldl observe world)
    refine ⟨.loop (getCmdFromBLE (F := F) state.2).1 input.1 :: steps, ?_, ?_⟩
    · rw [Machine.run_cons, Machine.run_cons, ← board]
      exact boards
    · rw [Machine.run_cons, Machine.run_cons, List.foldl_append, List.foldl_append, ← board,
        ← first]
      exact rest

end Refinement

end RockYou.Firmware

import Mathlib
import RockYou.App.Bluetooth
import RockYou.Firmware.Sketch

namespace RockYou.System

open App Firmware Machine

section Channel

variable {P : Type}

def buttonDidTap : LockCmd → BluetoothSerial P → Option (WriteValue P)
  | .close => lockButtonDidTap
  | .open => openButtonDidTap

/-- The bytes that taps at these times put on the link, each arriving at the time of its tap. -/
def channel (serial : BluetoothSerial P) (taps : List (Nat × LockCmd)) : List (Nat × UInt8) :=
  taps.flatMap fun tap =>
    match buttonDidTap tap.2 serial with
    | some write => write.data.map fun c => (tap.1, c)
    | none => []

def digit : LockCmd → UInt8
  | .open => 48
  | .close => 49

def bytes (taps : List (Nat × LockCmd)) : List (Nat × UInt8) :=
  taps.map fun tap => (tap.1, digit tap.2)

theorem buttonDidTap_data {serial : BluetoothSerial P} (ready : serial.bluetoothIsReady = true)
    (command : LockCmd) :
    ∃ write, buttonDidTap command serial = some write ∧ write.data = [digit command] := by
  cases command with
  | «open» =>
    obtain ⟨_, _, _, _, sent⟩ := serial.sendMessageToDevice_ready ready "0"
    have tapped : buttonDidTap .open serial = serial.sendMessageToDevice "0" := by
      rw [buttonDidTap, openButtonDidTap, ready]
      rfl
    exact ⟨_, tapped.trans sent, rfl⟩
  | close =>
    obtain ⟨_, _, _, _, sent⟩ := serial.sendMessageToDevice_ready ready "1"
    have tapped : buttonDidTap .close serial = serial.sendMessageToDevice "1" := by
      rw [buttonDidTap, lockButtonDidTap, ready]
      rfl
    exact ⟨_, tapped.trans sent, rfl⟩

theorem channel_ready {serial : BluetoothSerial P} (ready : serial.bluetoothIsReady = true)
    (taps : List (Nat × LockCmd)) : channel serial taps = bytes taps := by
  rw [bytes, List.map_eq_flatMap]
  apply List.flatMap_congr
  intro tap _
  obtain ⟨write, written, data⟩ := buttonDidTap_data ready tap.2
  simp only [written, data, List.map_cons, List.map_nil]

end Channel

section Reading

/-- When a byte waits, the one after it comes only after the timeout of the parser. -/
def Separate (port : Port) : Prop :=
  port.available = true → ∀ next, port.pending[1]? = some next → port.now + streamTimeout ≤ next.1

theorem digit_isDigit (command : LockCmd) : isDigit (digit command) = true := by
  cases command <;> decide

theorem digit_code (command : LockCmd) :
    BitVec.ofNat 32 (digitValue (digit command)) = command.code := by
  cases command <;> decide

theorem digit_ne_minus (command : LockCmd) : digit command ≠ minus := by
  cases command <;> decide

theorem readDigits_digit {now arrival : Nat} (timely : arrival < now + streamTimeout)
    (value : BitVec 32) (command : LockCmd) (later : List (Nat × UInt8)) :
    readDigits now value ((arrival, digit command) :: later) =
      readDigits (max now arrival)
        (value * 10 + BitVec.ofNat 32 (digitValue (digit command))) later := by
  rw [readDigits, if_pos timely, if_pos (digit_isDigit command)]

theorem readDigits_late {now : Nat} {byte : Nat × UInt8}
    (late : ¬ byte.1 < now + streamTimeout) (value : BitVec 32) (later : List (Nat × UInt8)) :
    readDigits now value (byte :: later) = (value, ⟨now + streamTimeout, byte :: later⟩) := by
  rw [readDigits, if_neg late]

theorem readDigits_bytes (now : Nat) (value : BitVec 32) (taps : List (Nat × LockCmd)) :
    ∃ read rest, taps = read ++ rest ∧ (readDigits now value (bytes taps)).2.pending = bytes rest ∧
      (read = [] ↔ ∀ next, taps[0]? = some next → now + streamTimeout ≤ next.1) ∧
      (read = [] → (readDigits now value (bytes taps)).1 = value) := by
  induction taps generalizing now value with
  | nil => exact ⟨[], [], rfl, rfl, iff_of_true rfl nofun, fun _ => rfl⟩
  | cons tap taps ih =>
    obtain ⟨arrival, command⟩ := tap
    by_cases timely : arrival < now + streamTimeout
    · obtain ⟨read, rest, split, pending, _⟩ := ih (max now arrival)
        (value * 10 + BitVec.ofNat 32 (digitValue (digit command)))
      have step : readDigits now value (bytes ((arrival, command) :: taps)) =
          readDigits (max now arrival)
            (value * 10 + BitVec.ofNat 32 (digitValue (digit command))) (bytes taps) :=
        readDigits_digit timely value command (bytes taps)
      rw [step]
      refine ⟨(arrival, command) :: read, rest, by rw [split]; rfl, pending, ?_, nofun⟩
      refine iff_of_false (List.cons_ne_nil _ _) fun late => ?_
      have waited := late (arrival, command) rfl
      omega
    · have step : readDigits now value (bytes ((arrival, command) :: taps)) =
          (value, ⟨now + streamTimeout, bytes ((arrival, command) :: taps)⟩) :=
        readDigits_late timely value (bytes taps)
      rw [step]
      refine ⟨[], (arrival, command) :: taps, rfl, rfl, iff_of_true rfl ?_, fun _ => rfl⟩
      intro next first
      cases first
      omega

theorem parseInt_digit {now arrival : Nat} (timely : arrival < now + streamTimeout)
    (command : LockCmd) (later : List (Nat × UInt8)) :
    Port.parseInt ⟨now, (arrival, digit command) :: later⟩ =
      readDigits (max now arrival) command.code later := by
  simp only [Port.parseInt, peekNextDigit, timely, digit_isDigit, or_true, if_true, digit_ne_minus,
    if_false, digit_code, List.tail_cons]

theorem timely_of_arrived {now arrival : Nat} (arrived : arrival ≤ now) :
    arrival < now + streamTimeout := by
  unfold streamTimeout
  omega

theorem parseInt_bytes {now arrival : Nat} (arrived : arrival ≤ now) (command : LockCmd)
    (taps : List (Nat × LockCmd)) :
    Port.parseInt ⟨now, bytes ((arrival, command) :: taps)⟩ =
      readDigits now command.code (bytes taps) := by
  rw [bytes, List.map_cons, parseInt_digit (timely_of_arrived arrived) command,
    Nat.max_eq_left arrived, bytes]

theorem separate_cons {now : Nat} {tap : Nat × LockCmd} {taps : List (Nat × LockCmd)}
    (waiting : Port.available ⟨now, bytes (tap :: taps)⟩ = true) :
    Separate ⟨now, bytes (tap :: taps)⟩ ↔
      ∀ next, taps[0]? = some next → now + streamTimeout ≤ next.1 := by
  have second : (bytes (tap :: taps))[1]? = taps[0]?.map fun tap => (tap.1, digit tap.2) := by
    simp [bytes]
  constructor
  · intro separate next following
    apply separate waiting (next.1, digit next.2)
    rw [second, following]
    rfl
  · intro late _ next following
    rw [second, Option.map_eq_some_iff] at following
    obtain ⟨tap, first, same⟩ := following
    rw [← same]
    exact late tap first

theorem getCmdFromBLE_bytes {F : Type} (now : Nat) (taps : List (Nat × LockCmd)) :
    ∃ read rest, taps = read ++ rest ∧
      (getCmdFromBLE (F := F) ⟨now, bytes taps⟩).2.1.pending = bytes rest ∧
      (Separate ⟨now, bytes taps⟩ ↔ read.length ≤ 1) ∧
      (read = [] → (getCmdFromBLE (F := F) ⟨now, bytes taps⟩).1 = -1) ∧
      ∀ tap, read = [tap] → (getCmdFromBLE (F := F) ⟨now, bytes taps⟩).1 = tap.2.code := by
  cases waiting : Port.available ⟨now, bytes taps⟩ with
  | false =>
    refine ⟨[], taps, rfl, ?_, iff_of_true ?_ (Nat.zero_le 1), fun _ => ?_, nofun⟩
    · rw [getCmdFromBLE, waiting]
      rfl
    · intro available
      rw [waiting] at available
      cases available
    · rw [getCmdFromBLE, waiting]
      rfl
  | true =>
    cases taps with
    | nil => cases waiting
    | cons tap taps =>
      obtain ⟨arrival, command⟩ := tap
      have arrived : arrival ≤ now := by simpa [Port.available, bytes] using waiting
      obtain ⟨read, rest, split, pending, alone, value⟩ := readDigits_bytes now command.code taps
      have received : getCmdFromBLE (F := F) ⟨now, bytes ((arrival, command) :: taps)⟩ =
          ((readDigits now command.code (bytes taps)).1,
            (readDigits now command.code (bytes taps)).2,
            [.serialWrite (readDigits now command.code (bytes taps)).1]) := by
        rw [getCmdFromBLE, waiting, if_pos rfl, parseInt_bytes arrived]
      have short : ((arrival, command) :: read).length ≤ 1 ↔ read = [] := by
        rw [List.length_cons, ← List.length_eq_zero_iff]
        omega
      rw [received, separate_cons waiting, ← alone]
      refine ⟨(arrival, command) :: read, rest, by rw [split]; rfl, pending, short.symm, nofun, ?_⟩
      intro tap single
      obtain ⟨same, empty⟩ := List.cons.inj single
      rw [← same]
      exact value empty

end Reading

section Execution

variable {G F : Type}

def executedCommand : Event F → Option LockCmd
  | .lockBicycle => some .close
  | .unlockBicycle => some .open
  | _ => none

def executed (events : List (Event F)) : List LockCmd := events.filterMap executedCommand

theorem executed_append (left right : List (Event F)) :
    executed (left ++ right) = executed left ++ executed right := List.filterMap_append

theorem executed_moved {events : List (Event F)}
    (moved : ∀ event ∈ events, ∃ gear posDegrees, event = .servoWrite gear posDegrees) :
    executed events = [] := by
  apply List.filterMap_eq_nil_iff.mpr
  intro event member
  obtain ⟨_, _, rfl⟩ := moved event member
  rfl

theorem executed_sweepUp (gear : Gear) (start : Int) :
    executed (sweepUp (F := F) gear start) = [] :=
  executed_moved fun _ member => ⟨gear, mem_sweepUp member⟩

theorem executed_sweepDown (gear : Gear) (start : Int) :
    executed (sweepDown (F := F) gear start) = [] :=
  executed_moved fun _ member => ⟨gear, mem_sweepDown member⟩

theorem executed_lockBicycle : executed (lockBicycle (F := F)) = [.close] := by
  have sweeps : executed (sweepUp (F := F) .mainServo 0 ++ sweepUp .lockServo 0) = [] := by
    rw [executed_append, executed_sweepUp, executed_sweepUp, List.append_nil]
  exact congrArg (LockCmd.close :: ·) sweeps

theorem executed_unlockBicycle : executed (unlockBicycle (F := F)) = [.open] := by
  have sweeps : executed (sweepDown (F := F) .lockServo 180 ++ sweepDown .mainServo 180) = [] := by
    rw [executed_append, executed_sweepDown, executed_sweepDown, List.append_nil]
  exact congrArg (LockCmd.open :: ·) sweeps

theorem executed_obey (motor : List (Event F)) (state : BicycleState) (link : Link)
    (board : Board G F) : executed (obey motor state link board).2 = executed motor := by
  have reported : executed (updateFirebase .state state.value link board.content).2 = [] := by
    apply List.filterMap_eq_nil_iff.mpr
    intro event member
    rcases mem_updateFirebase_state member with rfl | ⟨_, _, rfl⟩ <;> rfl
  rw [obey_events, executed_append, executed_append, reported, List.append_nil]
  exact List.append_nil _

variable [Zero F] [BEq F] [LE F] [DecidableLE F] [OfNat F 4]

theorem executed_gpsCheck (tiny : TinyGPS G F) (around : Surroundings F) (board : Board G F) :
    executed (gpsCheck tiny around board).2 = [] := by
  apply List.filterMap_eq_nil_iff.mpr
  intro event member
  rcases mem_gpsCheck member with ⟨_, _, rfl⟩ | ⟨rfl, _⟩ | ⟨_, _, _, rfl⟩ <;> rfl

/-- The state that a command leaves, up to a theft detected since. -/
def SettledIn (state : Int) : LockCmd → Prop
  | .open => state = BicycleState.drive.value
  | .close => state = BicycleState.locked.value ∨ state = BicycleState.steel.value

theorem SettledIn.gpsCheck {tiny : TinyGPS G F} {around : Surroundings F} {board : Board G F}
    {command : LockCmd} (settled : SettledIn board.value.state command) :
    SettledIn (gpsCheck tiny around board).1.value.state command := by
  rcases gpsCheck_state tiny around board with same | ⟨locked, stolen⟩
  · rw [same]
    exact settled
  · cases command with
    | «open» =>
      rw [SettledIn, locked] at settled
      simp at settled
    | close => exact .inr stolen

theorem iteration_executed (tiny : TinyGPS G F) (lockCmd : BitVec 32) (around : Surroundings F)
    (board : Board G F) :
    (∃ command : LockCmd, lockCmd = command.code ∧
      executed (iteration tiny lockCmd around board).2 = [command] ∧
      SettledIn (iteration tiny lockCmd around board).1.value.state command) ∨
    ((∀ command : LockCmd, lockCmd ≠ command.code) ∧
      executed (iteration tiny lockCmd around board).2 = [] ∧
      ∀ command, SettledIn board.value.state command →
        SettledIn (iteration tiny lockCmd around board).1.value.state command) := by
  rw [iteration_events, executed_append, executed_gpsCheck, List.append_nil, iteration_board]
  by_cases close : lockCmd = LockCmd.close.code
  · left
    refine ⟨.close, close, ?_, SettledIn.gpsCheck ?_⟩ <;> rw [close, bluetoothCheck_close]
    · rw [executed_obey, executed_lockBicycle]
    · exact .inl rfl
  by_cases opening : lockCmd = LockCmd.open.code
  · left
    refine ⟨.open, opening, ?_, SettledIn.gpsCheck ?_⟩ <;> rw [opening, bluetoothCheck_open]
    · rw [executed_obey, executed_unlockBicycle]
    · rfl
  · right
    rw [bluetoothCheck_other _ _ close opening]
    refine ⟨fun command => ?_, ?_, fun command settled => settled.gpsCheck⟩
    · cases command with
      | «open» => exact opening
      | close => exact close
    · split <;> rfl

end Execution

section Delivery

variable {G F : Type} [Zero F] [BEq F] [LE F] [DecidableLE F] [OfNat F 4]

theorem loopStep_events (tiny : TinyGPS G F) (input : Surroundings F × Nat)
    (state : Board G F × Port) :
    executed (loopStep tiny state input).2 =
      executed (iteration tiny (getCmdFromBLE (F := F) state.2).1 input.1 state.1).2 := by
  have received : executed (getCmdFromBLE (F := F) state.2).2.2 = [] := by
    unfold getCmdFromBLE
    split <;> rfl
  rw [loopStep, loop, executed_append, received, List.nil_append]

theorem run_settled (tiny : TinyGPS G F) (inputs : List (Surroundings F × Nat))
    (state : Board G F × Port) (last : Option LockCmd)
    (settled : ∀ command ∈ last, SettledIn state.1.value.state command) :
    ∀ command ∈ (executed (run (loopStep tiny) state inputs).2).getLast?.or last,
      SettledIn (run (loopStep tiny) state inputs).1.1.value.state command := by
  induction inputs generalizing state last with
  | nil => exact settled
  | cons input inputs ih =>
    rw [run_cons, executed_append, List.getLast?_append, Option.or_assoc]
    apply ih (loopStep tiny state input).1
    intro command latest
    rw [loopStep_events] at latest
    rcases iteration_executed tiny (getCmdFromBLE (F := F) state.2).1 input.1 state.1 with
      ⟨sent, _, done, reached⟩ | ⟨_, done, kept⟩
    · rw [done] at latest
      cases latest
      exact reached
    · rw [done] at latest
      exact kept command (settled command latest)

/-- An iteration takes taps off the channel and executes at most as many commands, all of them
    exactly when it takes no two taps. -/
theorem loopStep_taps (tiny : TinyGPS G F) (input : Surroundings F × Nat) (board : Board G F)
    (now : Nat) (taps : List (Nat × LockCmd)) :
    ∃ read rest later, taps = read ++ rest ∧
      (loopStep tiny (board, ⟨now, bytes taps⟩) input).1.2 = ⟨later, bytes rest⟩ ∧
      (executed (loopStep tiny (board, ⟨now, bytes taps⟩) input).2).length ≤ read.length ∧
      ((executed (loopStep tiny (board, ⟨now, bytes taps⟩) input).2).length = read.length →
        Separate ⟨now, bytes taps⟩) ∧
      (Separate ⟨now, bytes taps⟩ →
        executed (loopStep tiny (board, ⟨now, bytes taps⟩) input).2 = read.map Prod.snd) := by
  obtain ⟨read, rest, split, pending, separate, idle, single⟩ :=
    getCmdFromBLE_bytes (F := F) now taps
  have port : (loopStep tiny (board, ⟨now, bytes taps⟩) input).1.2 =
      ⟨(getCmdFromBLE (F := F) ⟨now, bytes taps⟩).2.1.now + input.2, bytes rest⟩ := by
    rw [← pending]
    rfl
  refine ⟨read, rest, _, split, port, ?_⟩
  rw [loopStep_events, separate]
  match read with
  | [] =>
    rcases iteration_executed tiny (getCmdFromBLE (F := F) ⟨now, bytes taps⟩).1 input.1 board with
      ⟨command, received, _⟩ | ⟨_, done, _⟩
    · rw [idle rfl] at received
      exact absurd received.symm command.code_ne_sentinel
    · rw [done]
      exact ⟨Nat.le_refl 0, fun _ => Nat.zero_le 1, fun _ => rfl⟩
  | [tap] =>
    rcases iteration_executed tiny (getCmdFromBLE (F := F) ⟨now, bytes taps⟩).1 input.1 board with
      ⟨command, received, done, _⟩ | ⟨other, _⟩
    · rw [single tap rfl] at received
      rw [done, ← LockCmd.code_injective received]
      exact ⟨Nat.le_refl 1, fun _ => Nat.le_refl 1, fun _ => rfl⟩
    · exact absurd (single tap rfl) (other tap.2)
  | _ :: _ :: _ =>
    have atMostOne : (executed (iteration tiny (getCmdFromBLE (F := F) ⟨now, bytes taps⟩).1
        input.1 board).2).length ≤ 1 := by
      rcases iteration_executed tiny (getCmdFromBLE (F := F) ⟨now, bytes taps⟩).1 input.1 board with
        ⟨_, _, done, _⟩ | ⟨_, done, _⟩ <;> simp [done]
    simp only [List.length_cons]
    exact ⟨by omega, fun _ => by omega, fun _ => by omega⟩

theorem run_taps (tiny : TinyGPS G F) (inputs : List (Surroundings F × Nat)) (board : Board G F)
    (now : Nat) (taps : List (Nat × LockCmd)) :
    ∃ read rest, taps = read ++ rest ∧
      (run (loopStep tiny) (board, ⟨now, bytes taps⟩) inputs).1.2.pending = bytes rest ∧
      (executed (run (loopStep tiny) (board, ⟨now, bytes taps⟩) inputs).2).length ≤ read.length ∧
      ((executed (run (loopStep tiny) (board, ⟨now, bytes taps⟩) inputs).2).length = read.length →
        Along (loopStep tiny) (fun state _ => Separate state.2) (board, ⟨now, bytes taps⟩) inputs) ∧
      (Along (loopStep tiny) (fun state _ => Separate state.2) (board, ⟨now, bytes taps⟩) inputs →
        executed (run (loopStep tiny) (board, ⟨now, bytes taps⟩) inputs).2 = read.map Prod.snd) := by
  induction inputs generalizing board now taps with
  | nil => exact ⟨[], taps, rfl, rfl, Nat.le_refl 0, fun _ => True.intro, fun _ => rfl⟩
  | cons input inputs ih =>
    obtain ⟨first, between, later, taken, port, few, whole, delivered⟩ :=
      loopStep_taps tiny input board now taps
    obtain ⟨read, rest, split, pending, fewRest, wholeRest, deliveredRest⟩ :=
      ih (loopStep tiny (board, ⟨now, bytes taps⟩) input).1.1 later between
    have reached : (loopStep tiny (board, ⟨now, bytes taps⟩) input).1 =
        ((loopStep tiny (board, ⟨now, bytes taps⟩) input).1.1, ⟨later, bytes between⟩) := by
      rw [← port]
    rw [run_cons, Along, executed_append, List.length_append, reached]
    refine ⟨first ++ read, rest, ?_, pending, ?_⟩
    · rw [taken, split, List.append_assoc]
    rw [List.length_append, List.map_append]
    refine ⟨Nat.add_le_add few fewRest, ?_, ?_⟩
    · intro all
      exact ⟨whole (by omega), wholeRest (by omega)⟩
    · intro separate
      rw [delivered separate.1, deliveredRest separate.2]

/-- When the device has read every tap, it has executed them all exactly when no tap comes, within
    the timeout of the parser, behind one that waits. -/
theorem commands_delivered_iff {P : Type} (tiny : TinyGPS G F) {serial : BluetoothSerial P}
    (ready : serial.bluetoothIsReady = true) (taps : List (Nat × LockCmd)) (board : Board G F)
    (now : Nat) (inputs : List (Surroundings F × Nat))
    (consumed : (run (loopStep tiny) (board, ⟨now, channel serial taps⟩) inputs).1.2.pending = []) :
    (executed (run (loopStep tiny) (board, ⟨now, channel serial taps⟩) inputs).2 =
        taps.map Prod.snd ∧
      ∀ command ∈ (taps.map Prod.snd).getLast?,
        SettledIn (run (loopStep tiny) (board, ⟨now, channel serial taps⟩) inputs).1.1.value.state
          command) ↔
      Along (loopStep tiny) (fun state _ => Separate state.2) (board, ⟨now, channel serial taps⟩)
        inputs := by
  rw [channel_ready ready] at consumed ⊢
  obtain ⟨read, rest, split, pending, _, whole, delivered⟩ := run_taps tiny inputs board now taps
  have empty : rest = [] := List.map_eq_nil_iff.mp (pending.symm.trans consumed)
  rw [empty, List.append_nil] at split
  rw [← split] at whole delivered
  constructor
  · intro both
    apply whole
    rw [both.1, List.length_map]
  · intro separate
    apply And.intro (delivered separate)
    intro command last
    apply run_settled tiny inputs _ none nofun
    rw [delivered separate, Option.or_none]
    exact last

def paired : BluetoothSerial Unit where
  state := .poweredOn
  pendingPeripheral := none
  connectedPeripheral := some ()
  writeCharacteristic := some { peripheral := (), uuid := characteristicUUID, write := true }
  writeType := .withResponse

theorem two_taps_delivered :
    executed (run (loopStep meridianGPS)
      (unpowered, ⟨0, channel paired [(0, .close), (5000, .open)]⟩)
      [(onMeridian 10, 6000), (onMeridian 10, 6000)]).2 = [.close, .open] := by
  have ready : paired.bluetoothIsReady = true := by decide
  have separate : Along (loopStep meridianGPS) (fun state _ => Separate state.2)
      (unpowered, ⟨0, channel paired [(0, .close), (5000, .open)]⟩)
      [(onMeridian 10, 6000), (onMeridian 10, 6000)] := by
    rw [channel_ready ready]
    refine ⟨?_, ?_, True.intro⟩
    · intro _ next following
      cases following
      decide
    · intro _ next following
      cases following
  refine ((commands_delivered_iff meridianGPS ready _ unpowered 0 _ ?_).mpr separate).1
  rw [channel_ready ready]
  rfl

theorem merged_taps_lost :
    ¬ ∀ (serial : BluetoothSerial Unit), serial.bluetoothIsReady = true →
      ∀ (taps : List (Nat × LockCmd)) (board : Board (GPSValue Int) Int) (now : Nat)
        (inputs : List (Surroundings Int × Nat)),
        (run (loopStep meridianGPS) (board, ⟨now, channel serial taps⟩) inputs).1.2.pending = [] →
          executed (run (loopStep meridianGPS) (board, ⟨now, channel serial taps⟩) inputs).2 =
            taps.map Prod.snd := by
  intro delivered
  have ready : paired.bluetoothIsReady = true := by decide
  have all := delivered paired ready [(0, .close), (200, .open)] unpowered 300
    [(onMeridian 10, 5000)]
  rw [channel_ready ready] at all
  have lost := all rfl
  revert lost
  decide

end Delivery

end RockYou.System

import Mathlib
import RockYou.Library.Machine
import RockYou.Firmware.Sketch

namespace RockYou.Firmware.Safety

section Parse

/-- The bytes that arrive one after the other without a gap as long as the timeout. -/
def inTime (now : Nat) : List (Nat × UInt8) → List UInt8
  | [] => []
  | (arrival, c) :: rest =>
    if arrival < now + streamTimeout then c :: inTime (max now arrival) rest else []

def isNoise (c : UInt8) : Bool := !(c == minus || isDigit c)

def decimal (digits : List UInt8) : Nat :=
  digits.foldl (fun value c => value * 10 + digitValue c) 0

def signed (negative : Bool) (value : Nat) : Int := if negative then -value else value

/-- A maximal run of digits in `bytes`, negated when a minus sign stands directly before it. -/
def ContainsNumeral (bytes : List UInt8) (value : Int) : Prop :=
  ∃ front digits back, bytes = front ++ digits ++ back ∧ digits ≠ [] ∧
    (∀ c ∈ digits, isDigit c) ∧ (∀ c ∈ front.getLast?, ¬ isDigit c) ∧
    (∀ c ∈ back.head?, ¬ isDigit c) ∧
    value = signed (front.getLast? == some minus) (decimal digits)

def consumed (before after : Port) : List UInt8 :=
  (before.pending.take (before.pending.length - after.pending.length)).map Prod.snd

theorem peekNextDigit_spec (now : Nat) (pending : List (Nat × UInt8)) :
    (peekNextDigit now pending).1 = ((inTime now pending).dropWhile isNoise).head? ∧
    (∃ skipped, pending = skipped ++ (peekNextDigit now pending).2.pending ∧
      skipped.map Prod.snd = (inTime now pending).takeWhile isNoise) ∧
    ∀ c, (peekNextDigit now pending).1 = some c → ∃ arrival tail,
      (peekNextDigit now pending).2.pending = (arrival, c) :: tail ∧
      (inTime now pending).dropWhile isNoise = c :: inTime (peekNextDigit now pending).2.now tail := by
  induction pending generalizing now with
  | nil => exact ⟨rfl, ⟨[], rfl, rfl⟩, fun c present => by cases present⟩
  | cons item rest ih =>
    obtain ⟨arrival, c⟩ := item
    by_cases timely : arrival < now + streamTimeout
    · by_cases wanted : c = minus ∨ isDigit c = true
      · have loud : isNoise c = false := by
          simpa [isNoise, ← or_iff_not_imp_left] using wanted
        simp [peekNextDigit, inTime, timely, wanted, loud]
      · have noise : isNoise c = true := by
          simpa [isNoise, not_or] using wanted
        obtain ⟨found, ⟨skipped, split, bytes⟩, resume⟩ := ih (max now arrival)
        simp only [peekNextDigit, inTime, timely, wanted, ite_true, ite_false, noise,
          List.dropWhile_cons_of_pos, List.takeWhile_cons_of_pos]
        exact ⟨found, ⟨(arrival, c) :: skipped, by rw [List.cons_append, ← split],
          by rw [List.map_cons, bytes]⟩, resume⟩
    · simp only [peekNextDigit, inTime, timely, ite_false, List.dropWhile_nil, List.takeWhile_nil]
      exact ⟨rfl, ⟨[], rfl, rfl⟩, fun c present => by cases present⟩

def accumulate (value : BitVec 32) (digits : List UInt8) : BitVec 32 :=
  digits.foldl (fun value c => value * 10 + BitVec.ofNat 32 (digitValue c)) value

theorem readDigits_spec (now : Nat) (value : BitVec 32) (pending : List (Nat × UInt8)) :
    (readDigits now value pending).1 =
      accumulate value ((inTime now pending).takeWhile isDigit) ∧
    ∃ read, pending = read ++ (readDigits now value pending).2.pending ∧
      read.map Prod.snd = (inTime now pending).takeWhile isDigit := by
  induction pending generalizing now value with
  | nil => exact ⟨rfl, [], rfl, rfl⟩
  | cons item rest ih =>
    obtain ⟨arrival, c⟩ := item
    by_cases timely : arrival < now + streamTimeout
    · by_cases digit : isDigit c = true
      · obtain ⟨total, read, split, bytes⟩ :=
          ih (max now arrival) (value * 10 + BitVec.ofNat 32 (digitValue c))
        simp only [readDigits, inTime, timely, digit, ite_true, List.takeWhile_cons_of_pos]
        exact ⟨total, (arrival, c) :: read, by rw [List.cons_append, ← split],
          by rw [List.map_cons, bytes]⟩
      · simp only [readDigits, inTime, timely, digit, ite_true, Bool.false_eq_true, ite_false,
          not_false_eq_true, List.takeWhile_cons_of_neg]
        exact ⟨rfl, [], rfl, rfl⟩
    · simp only [readDigits, inTime, timely, ite_false, List.takeWhile_nil]
      exact ⟨rfl, [], rfl, rfl⟩

theorem accumulate_wraps (digits : List UInt8) (value : Nat) :
    accumulate (BitVec.ofNat 32 value) digits =
      BitVec.ofNat 32 (digits.foldl (fun value c => value * 10 + digitValue c) value) := by
  induction digits generalizing value with
  | nil => rfl
  | cons c digits ih =>
    rw [List.foldl_cons, ← ih, BitVec.ofNat_add, BitVec.ofNat_mul]
    rfl

def spokenNumeral (bytes : List UInt8) : Bool × List UInt8 :=
  match bytes.dropWhile isNoise with
  | [] => (false, [])
  | c :: rest =>
    if c = minus then (true, rest.takeWhile isDigit) else (false, (c :: rest).takeWhile isDigit)

def spokenFront (bytes : List UInt8) : List UInt8 :=
  bytes.takeWhile isNoise ++ if (spokenNumeral bytes).1 then [minus] else []

theorem consumed_of_split {before after : Port} {read : List (Nat × UInt8)}
    (split : before.pending = read ++ after.pending) : consumed before after = read.map Prod.snd := by
  unfold consumed
  rw [split, List.length_append, Nat.add_sub_cancel, List.take_left]

theorem parseInt_spec (port : Port) :
    port.parseInt.1 = BitVec.ofInt 32 (signed (spokenNumeral (inTime port.now port.pending)).1
      (decimal (spokenNumeral (inTime port.now port.pending)).2)) ∧
    consumed port port.parseInt.2 = spokenFront (inTime port.now port.pending) ++
      (spokenNumeral (inTime port.now port.pending)).2 := by
  obtain ⟨found, ⟨skipped, split, bytes⟩, resume⟩ := peekNextDigit_spec port.now port.pending
  unfold Port.parseInt
  rcases peeked : peekNextDigit port.now port.pending with ⟨_ | c, middle⟩
  · simp only [peeked] at found split
    have silent := List.head?_eq_none_iff.mp found.symm
    have numeral : spokenNumeral (inTime port.now port.pending) = (false, []) := by
      rw [spokenNumeral, silent]
    rw [spokenFront, numeral, consumed_of_split split, bytes]
    simp [signed, decimal]
  · simp only [peeked] at split resume
    obtain ⟨arrival, tail, unread, rest⟩ := resume c rfl
    obtain ⟨total, read, readSplit, readBytes⟩ :=
      readDigits_spec middle.now (if c = minus then 0 else BitVec.ofNat 32 (digitValue c)) tail
    have whole : port.pending = (skipped ++ (arrival, c) :: read) ++
        (readDigits middle.now (if c = minus then 0 else BitVec.ofNat 32 (digitValue c))
          tail).2.pending := by
      rw [split, unread, List.append_assoc, List.cons_append, ← readSplit]
    simp only [unread, List.tail_cons]
    rw [consumed_of_split whole, List.map_append, List.map_cons, bytes, readBytes, spokenFront]
    by_cases negative : c = minus
    · have numeral : spokenNumeral (inTime port.now port.pending) =
          (true, (inTime middle.now tail).takeWhile isDigit) := by
        rw [spokenNumeral, rest]
        exact if_pos negative
      rw [if_pos negative] at total
      rw [numeral, if_pos negative, if_pos negative, total]
      constructor
      · rw [show (0 : BitVec 32) = BitVec.ofNat 32 0 from rfl, accumulate_wraps]
        simp [signed, decimal, BitVec.ofInt_neg]
      · simp [negative]
    · have digit : isDigit c = true := by
        have loud := List.head?_dropWhile_not isNoise (inTime port.now port.pending)
        rw [rest] at loud
        simpa [isNoise, negative] using loud
      have numeral : spokenNumeral (inTime port.now port.pending) =
          (false, c :: (inTime middle.now tail).takeWhile isDigit) := by
        rw [spokenNumeral, rest]
        simp only [negative, ite_false, digit, List.takeWhile_cons_of_pos]
      rw [if_neg negative] at total
      rw [numeral, if_neg negative, if_neg negative, total]
      constructor
      · rw [accumulate_wraps]
        simp [signed, decimal]
      · simp

theorem containsNumeral_iff {front digits : List UInt8} (plain : ∀ c ∈ front, ¬ isDigit c)
    (all : ∀ c ∈ digits, isDigit c) (value : Int) :
    ContainsNumeral (front ++ digits) value ↔
      digits ≠ [] ∧ value = signed (front.getLast? == some minus) (decimal digits) := by
  constructor
  · intro contains
    obtain ⟨left, run, right, split, nonempty, runDigits, leftStops, rightStops, rfl⟩ := contains
    rw [List.append_assoc] at split
    rcases List.append_eq_append_iff.mp split with ⟨middle, rfl, rest⟩ | ⟨middle, rfl, rest⟩
    · rcases List.eq_nil_or_concat middle with rfl | ⟨init, last, rfl⟩
      · rw [List.nil_append] at rest
        cases right with
        | nil =>
          rw [List.append_nil] at rest
          subst rest
          exact ⟨nonempty, by rw [List.append_nil]⟩
        | cons c right => exact absurd (all c (by simp [rest])) (rightStops c rfl)
      · exact absurd (all last (by simp [rest])) (leftStops last (by simp))
    · cases middle with
      | nil =>
        rw [List.nil_append] at rest
        cases right with
        | nil =>
          rw [List.append_nil] at rest
          subst rest
          exact ⟨nonempty, by rw [List.append_nil]⟩
        | cons c right => exact absurd (all c (by simp [← rest])) (rightStops c rfl)
      | cons c middle =>
        cases run with
        | nil => exact absurd rfl nonempty
        | cons first run =>
          have same : first = c := (List.cons.inj rest).1
          subst same
          exact absurd (runDigits first (by simp)) (plain first (by simp))
  · intro spoken
    obtain ⟨nonempty, rfl⟩ := spoken
    have stops : ∀ c, front.getLast? = some c → ¬ isDigit c :=
      fun c last => plain c (List.mem_of_getLast? last)
    exact ⟨front, digits, [], (List.append_nil _).symm, nonempty, all, stops, nofun, rfl⟩

theorem spokenFront_plain (bytes : List UInt8) : ∀ c ∈ spokenFront bytes, ¬ isDigit c := by
  intro c member
  rcases List.mem_append.mp member with noise | sign
  · have skipped := List.mem_takeWhile_imp noise
    simp only [isNoise, Bool.not_eq_true', Bool.or_eq_false_iff] at skipped
    simp [skipped.2]
  · split at sign
    · rw [List.mem_singleton.mp sign]
      decide
    · cases sign

theorem spokenFront_sign (bytes : List UInt8) :
    ((spokenFront bytes).getLast? == some minus) = (spokenNumeral bytes).1 := by
  unfold spokenFront
  cases negative : (spokenNumeral bytes).1
  · simp only [Bool.false_eq_true, ite_false, List.append_nil, beq_eq_false_iff_ne, ne_eq]
    intro last
    have skipped := List.mem_takeWhile_imp (List.mem_of_getLast? last)
    simp [isNoise] at skipped
  · simp

theorem spokenNumeral_digits (bytes : List UInt8) : ∀ c ∈ (spokenNumeral bytes).2, isDigit c := by
  intro c member
  unfold spokenNumeral at member
  split at member
  · cases member
  · split at member <;> exact List.mem_takeWhile_imp member

theorem consumed_numeral (port : Port) (value : Int) :
    ContainsNumeral (consumed port port.parseInt.2) value ↔
      (spokenNumeral (inTime port.now port.pending)).2 ≠ [] ∧
      value = signed (spokenNumeral (inTime port.now port.pending)).1
        (decimal (spokenNumeral (inTime port.now port.pending)).2) := by
  rw [(parseInt_spec port).2, containsNumeral_iff (spokenFront_plain _) (spokenNumeral_digits _),
    spokenFront_sign]

end Parse

section Called

variable {G F : Type}

theorem command_called {motor : List (Event F)} {state : BicycleState} {link : Link}
    {board : Board G F} {event : Event F} (called : event = .unlockBicycle ∨ event = .lockBicycle) :
    event ∈ (obey motor state link board).2 ↔ event ∈ motor := by
  rw [obey_events, List.append_assoc, List.mem_append]
  constructor
  · intro member
    rcases member with moved | rest
    · exact moved
    rcases List.mem_append.mp rest with acknowledged | reported
    · rw [List.mem_singleton.mp acknowledged] at called
      simp at called
    · rcases mem_updateFirebase_state reported with rfl | ⟨_, _, rfl⟩ <;> simp at called
  · exact .inl

theorem unlock_not_mem_lockBicycle : Event.unlockBicycle ∉ lockBicycle (F := F) := by
  intro member
  rcases mem_lockBicycle member with same | ⟨_, _, same⟩ <;> cases same

theorem lock_not_mem_unlockBicycle : Event.lockBicycle ∉ unlockBicycle (F := F) := by
  intro member
  rcases mem_unlockBicycle member with same | ⟨_, _, same⟩ <;> cases same

theorem printed_not_called {lockCmd : BitVec 32} {event : Event F}
    (called : event = .unlockBicycle ∨ event = .lockBicycle) :
    event ∉ if lockCmd = -1 then [] else [.println "invalid command"] := by
  rcases called with rfl | rfl <;> split <;> simp

theorem unlock_checked_iff (lockCmd : BitVec 32) (link : Link) (board : Board G F) :
    Event.unlockBicycle ∈ (bluetoothCheck lockCmd link board).2 ↔
      lockCmd = LockCmd.open.code := by
  by_cases close : lockCmd = LockCmd.close.code
  · subst close
    rw [bluetoothCheck_close, command_called (.inl rfl)]
    exact iff_of_false unlock_not_mem_lockBicycle LockCmd.open_ne_close.symm
  by_cases opening : lockCmd = LockCmd.open.code
  · subst opening
    rw [bluetoothCheck_open, command_called (.inl rfl)]
    exact iff_of_true List.mem_cons_self rfl
  · rw [bluetoothCheck_other _ _ close opening]
    exact iff_of_false (printed_not_called (.inl rfl)) opening

theorem lock_checked_iff (lockCmd : BitVec 32) (link : Link) (board : Board G F) :
    Event.lockBicycle ∈ (bluetoothCheck lockCmd link board).2 ↔
      lockCmd = LockCmd.close.code := by
  by_cases close : lockCmd = LockCmd.close.code
  · subst close
    rw [bluetoothCheck_close, command_called (.inr rfl)]
    exact iff_of_true List.mem_cons_self rfl
  by_cases opening : lockCmd = LockCmd.open.code
  · subst opening
    rw [bluetoothCheck_open, command_called (.inr rfl)]
    exact iff_of_false lock_not_mem_unlockBicycle LockCmd.open_ne_close
  · rw [bluetoothCheck_other _ _ close opening]
    exact iff_of_false (printed_not_called (.inr rfl)) close

def receivedCmd (state : Board G F × Port) : BitVec 32 := (getCmdFromBLE (F := F) state.2).1

def commandBytes (state : Board G F × Port) : List UInt8 :=
  consumed state.2 (getCmdFromBLE (F := F) state.2).2.1

theorem receivedCmd_of_silence (state : Board G F × Port)
    (silence : state.2.available = false) : receivedCmd state = -1 := by
  simp [receivedCmd, getCmdFromBLE, silence]

theorem receivedCmd_of_bytes (state : Board G F × Port) (bytes : state.2.available = true) :
    receivedCmd state =
      BitVec.ofInt 32 (signed (spokenNumeral (inTime state.2.now state.2.pending)).1
        (decimal (spokenNumeral (inTime state.2.now state.2.pending)).2)) := by
  rw [← (parseInt_spec state.2).1]
  simp [receivedCmd, getCmdFromBLE, bytes]

theorem commandBytes_of_bytes (state : Board G F × Port) (bytes : state.2.available = true) :
    commandBytes state = consumed state.2 state.2.parseInt.2 := by
  simp [commandBytes, getCmdFromBLE, bytes]

theorem ofInt_eq_iff (value : Int) (code : BitVec 32) :
    BitVec.ofInt 32 value = code ↔ value % 2 ^ 32 = code.toNat := by
  rw [← BitVec.toNat_inj, BitVec.toNat_ofInt]
  omega

theorem ofInt_eq_open (value : Int) :
    BitVec.ofInt 32 value = LockCmd.open.code ↔ value % 2 ^ 32 = 0 := ofInt_eq_iff value _

theorem ofInt_eq_close (value : Int) :
    BitVec.ofInt 32 value = LockCmd.close.code ↔ value % 2 ^ 32 = 1 := ofInt_eq_iff value _

end Called

section Loop

variable {G F : Type} [Zero F] [BEq F] [LE F] [DecidableLE F] [OfNat F 4]

variable (tiny : TinyGPS G F) (state : Board G F × Port) (input : Surroundings F × Nat)

theorem mem_loop_iff {event : Event F} (called : event = .unlockBicycle ∨ event = .lockBicycle) :
    event ∈ (loopStep tiny state input).2 ↔
      event ∈ (bluetoothCheck (receivedCmd state) input.1.commandLink state.1).2 := by
  change event ∈ (getCmdFromBLE (F := F) state.2).2.2 ++
    ((bluetoothCheck (receivedCmd state) input.1.commandLink state.1).2 ++ _) ↔ _
  rw [List.mem_append, List.mem_append]
  constructor
  · intro member
    rcases member with received | checked | located
    · unfold getCmdFromBLE at received
      rcases called with rfl | rfl <;> split at received <;> simp at received
    · exact checked
    · rcases mem_gpsCheck located with ⟨_, _, rfl⟩ | ⟨rfl, _⟩ | ⟨_, _, _, rfl⟩ <;> simp at called
  · intro checked
    exact .inr (.inl checked)

/-- The motors and `Value.state` follow only numerals that were spoken in this iteration. -/
structure CommandsSpoken : Prop where
  unlock : Event.unlockBicycle ∈ (loopStep tiny state input).2 →
    ContainsNumeral (commandBytes state) 0
  lock : Event.lockBicycle ∈ (loopStep tiny state input).2 →
    ContainsNumeral (commandBytes state) 1
  drive : state.1.value.state ≠ BicycleState.drive.value →
    (loopStep tiny state input).1.1.value.state = BicycleState.drive.value →
      ContainsNumeral (commandBytes state) 0
  quiet : ¬ ContainsNumeral (commandBytes state) 0 → ¬ ContainsNumeral (commandBytes state) 1 →
    (∀ gear posDegrees, Event.servoWrite gear posDegrees ∉ (loopStep tiny state input).2) ∧
    (bluetoothCheck (receivedCmd state) input.1.commandLink state.1).1.value.state =
      state.1.value.state

/-- If bytes wait, the ones arriving in time hold a numeral that 32 bits do not turn into a
    command it is not. -/
def Readable (port : Port) : Prop :=
  port.available = true →
    let numeral := spokenNumeral (inTime port.now port.pending)
    let value := signed numeral.1 (decimal numeral.2)
    numeral.2 ≠ [] ∧ (value % 2 ^ 32 = 0 → value = 0) ∧ (value % 2 ^ 32 = 1 → value = 1)

theorem called_unlock_iff :
    Event.unlockBicycle ∈ (loopStep tiny state input).2 ↔
      receivedCmd state = LockCmd.open.code :=
  (mem_loop_iff tiny state input (.inl rfl)).trans (unlock_checked_iff _ _ _)

theorem called_lock_iff :
    Event.lockBicycle ∈ (loopStep tiny state input).2 ↔
      receivedCmd state = LockCmd.close.code :=
  (mem_loop_iff tiny state input (.inr rfl)).trans (lock_checked_iff _ _ _)

theorem drive_needs_open (moving : state.1.value.state ≠ BicycleState.drive.value)
    (driven : (loopStep tiny state input).1.1.value.state = BicycleState.drive.value) :
    receivedCmd state = LockCmd.open.code := by
  change (gpsCheck tiny input.1 (bluetoothCheck (receivedCmd state)
    input.1.commandLink state.1).1).1.value.state = BicycleState.drive.value at driven
  by_contra notOpen
  rcases gpsCheck_state tiny input.1 (bluetoothCheck (receivedCmd state)
    input.1.commandLink state.1).1 with same | ⟨_, stolen⟩
  · rw [same] at driven
    by_cases close : receivedCmd state = LockCmd.close.code
    · rw [close, bluetoothCheck_close, obey_board] at driven
      simp at driven
    · rw [bluetoothCheck_other _ _ close notOpen] at driven
      exact moving driven
  · rw [stolen] at driven
    simp at driven

theorem quiet_of_other (notOpen : receivedCmd state ≠ LockCmd.open.code)
    (notClose : receivedCmd state ≠ LockCmd.close.code) :
    (∀ gear posDegrees, Event.servoWrite gear posDegrees ∉ (loopStep tiny state input).2) ∧
    (bluetoothCheck (receivedCmd state) input.1.commandLink state.1).1.value.state =
      state.1.value.state := by
  have checked := bluetoothCheck_other input.1.commandLink state.1 notClose notOpen
  constructor
  · intro gear posDegrees member
    change _ ∈ (getCmdFromBLE (F := F) state.2).2.2 ++
      ((bluetoothCheck (receivedCmd state) input.1.commandLink state.1).2 ++
        (gpsCheck tiny input.1 _).2) at member
    rw [checked, List.mem_append, List.mem_append] at member
    rcases member with received | printed | located
    · unfold getCmdFromBLE at received
      split at received <;> simp at received
    · split at printed <;> simp at printed
    · rcases mem_gpsCheck located with ⟨_, _, same⟩ | ⟨same, _⟩ | ⟨_, _, _, same⟩ <;> cases same
  · rw [checked]

theorem commandsSpoken_of_contains
    (unlock : receivedCmd state = LockCmd.open.code → ContainsNumeral (commandBytes state) 0)
    (lock : receivedCmd state = LockCmd.close.code → ContainsNumeral (commandBytes state) 1) :
    CommandsSpoken tiny state input where
  unlock called := unlock ((called_unlock_iff tiny state input).mp called)
  lock called := lock ((called_lock_iff tiny state input).mp called)
  drive moving driven := unlock (drive_needs_open tiny state input moving driven)
  quiet noOpen noClose := quiet_of_other tiny state input (mt unlock noOpen) (mt lock noClose)

theorem commandsSpoken_iff_readable : CommandsSpoken tiny state input ↔ Readable state.2 := by
  cases bytes : state.2.available
  · have none : receivedCmd state = -1 := receivedCmd_of_silence state bytes
    have safe : CommandsSpoken tiny state input := by
      apply commandsSpoken_of_contains
      · intro opened
        exact absurd (opened.symm.trans none) LockCmd.open.code_ne_sentinel
      · intro closed
        exact absurd (closed.symm.trans none) LockCmd.close.code_ne_sentinel
    have readable : Readable state.2 := by
      intro waiting
      rw [bytes] at waiting
      cases waiting
    exact iff_of_true safe readable
  · have command := receivedCmd_of_bytes state bytes
    have contains := consumed_numeral state.2
    rw [← commandBytes_of_bytes state bytes] at contains
    simp only [Readable, bytes, true_implies]
    generalize spokenNumeral (inTime state.2.now state.2.pending) = numeral at command contains ⊢
    generalize spoken : signed numeral.1 (decimal numeral.2) = value at command contains ⊢
    constructor
    · intro safe
      have digits : numeral.2 ≠ [] := by
        intro empty
        have zero : value = 0 := by
          rw [← spoken, empty]
          simp [signed, decimal]
        have opened : receivedCmd state = LockCmd.open.code := by
          rw [command, zero]
          decide
        exact ((contains 0).mp (safe.unlock ((called_unlock_iff tiny state input).mpr opened))).1 empty
      have zero : value % 2 ^ 32 = 0 → value = 0 := by
        intro wraps
        have opened := command.trans ((ofInt_eq_open value).mpr wraps)
        exact ((contains 0).mp (safe.unlock ((called_unlock_iff tiny state input).mpr opened))).2.symm
      have one : value % 2 ^ 32 = 1 → value = 1 := by
        intro wraps
        have closed := command.trans ((ofInt_eq_close value).mpr wraps)
        exact ((contains 1).mp (safe.lock ((called_lock_iff tiny state input).mpr closed))).2.symm
      exact ⟨digits, zero, one⟩
    · intro readable
      obtain ⟨digits, zero, one⟩ := readable
      apply commandsSpoken_of_contains
      · intro opened
        have wraps := (ofInt_eq_open value).mp (command.symm.trans opened)
        exact (contains 0).mpr ⟨digits, (zero wraps).symm⟩
      · intro closed
        have wraps := (ofInt_eq_close value).mp (command.symm.trans closed)
        exact (contains 1).mpr ⟨digits, (one wraps).symm⟩

theorem commands_spoken_in_every_iteration (earlier : List (Surroundings F × Nat)) :
    CommandsSpoken tiny (Machine.run (loopStep tiny) state earlier).1 input ↔
      Readable (Machine.run (loopStep tiny) state earlier).1.2 :=
  commandsSpoken_iff_readable tiny _ input

end Loop

def chatter : Port where
  now := 0
  pending := [(0, 79), (0, 75), (0, 43), (0, 67), (0, 79), (0, 78), (0, 78)]

def longNumeral : Port where
  now := 0
  pending := [(0, 52), (0, 50), (0, 57), (0, 52), (0, 57), (0, 54), (0, 55), (0, 50), (0, 57),
    (0, 54)]

theorem chatter_unlocks :
    ¬ CommandsSpoken meridianGPS (unpowered, chatter) (onMeridian 10, 0) ∧
    ¬ CommandsSpoken meridianGPS (unpowered, longNumeral) (onMeridian 10, 0) := by
  rw [commandsSpoken_iff_readable, commandsSpoken_iff_readable]
  constructor
  · intro readable
    exact (readable (by decide)).1 (by decide)
  · intro readable
    exact absurd ((readable (by decide)).2.1 (by decide)) (by decide)

end RockYou.Firmware.Safety

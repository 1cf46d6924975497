import Mathlib
import RockYou.Library.Machine
import RockYou.Firmware.Safety.ClosedLock

namespace RockYou.Firmware.Safety

def BicycleState.position : BicycleState → Int
  | .drive => 0
  | .locked => 180
  | .steel => 180

section Reports

variable {F : Type}

/-- The state that an event tells the app over Bluetooth or tries to tell the cloud. -/
def reportedState : Event F → Option Int
  | .sendCmdToBLE lockState => some lockState
  | .updateFirebase .state data => some data
  | .patchDocument updateMask content _ =>
    if "state" ∈ updateMask then
      match content ["fields", "state", "integerValue"] with
      | some (.text data) => some data
      | _ => none
    else none
  | _ => none

def Matches (servos : Servos) (event : Event F) : Prop :=
  ∀ data, reportedState event = some data →
    ∃ state : BicycleState, data = state.value ∧ servos = Servos.both (BicycleState.position state)

abbrev AllMatch (servos : Servos) (events : List (Event F)) : Prop :=
  Machine.EachEvent Servos.observe Matches servos events

theorem allMatch_of_silent {events : List (Event F)}
    (silent : ∀ event ∈ events, reportedState event = none) (servos : Servos) :
    AllMatch servos events := by
  apply Machine.eachEvent_of_forall
  intro event member servos data reported
  rw [silent event member] at reported
  cases reported

theorem lockBicycle_silent {event : Event F} (member : event ∈ lockBicycle) :
    reportedState event = none := by
  rcases mem_lockBicycle member with rfl | ⟨_, _, rfl⟩ <;> rfl

theorem unlockBicycle_silent {event : Event F} (member : event ∈ unlockBicycle) :
    reportedState event = none := by
  rcases mem_unlockBicycle member with rfl | ⟨_, _, rfl⟩ <;> rfl

theorem updateFirebase_matches (state : BicycleState) (link : Link) (content : FirebaseJson F) :
    AllMatch (Servos.both (BicycleState.position state))
      (updateFirebase .state state.value link content).2 := by
  have sent (succeeded : Bool) : Matches (Servos.both (BicycleState.position state))
      (.patchDocument (F := F) ["state"]
        (FirebaseJson.cleared.set ["fields", "state", "integerValue"] (.text state.value))
        succeeded) := by
    intro data reported
    simp only [reportedState, List.mem_singleton, FirebaseJson.set, Function.update_self, if_true,
      Option.some.injEq] at reported
    exact ⟨state, reported.symm, rfl⟩
  have called : Matches (Servos.both (BicycleState.position state))
      (.updateFirebase (F := F) .state state.value) := by
    intro data reported
    exact ⟨state, (Option.some.inj reported).symm, rfl⟩
  rw [updateFirebase_state]
  apply And.intro called
  cases link with
  | notReady => exact True.intro
  | failed => exact ⟨sent false, True.intro⟩
  | delivered => exact ⟨sent true, True.intro⟩

theorem obey_matches {G : Type} {motor : List (Event F)} {state : BicycleState}
    (silent : ∀ event ∈ motor, reportedState event = none) {servos : Servos}
    (moved : motor.foldl Servos.observe servos = Servos.both (BicycleState.position state))
    (link : Link) (board : Board G F) : AllMatch servos (obey motor state link board).2 := by
  have acknowledged : Matches (Servos.both (BicycleState.position state))
      (.sendCmdToBLE (F := F) state.value) := by
    intro data reported
    exact ⟨state, (Option.some.inj reported).symm, rfl⟩
  rw [obey_events, AllMatch, Machine.eachEvent_append, Machine.eachEvent_append,
    List.foldl_append, moved]
  refine ⟨⟨allMatch_of_silent silent servos, acknowledged, True.intro⟩, ?_⟩
  exact updateFirebase_matches state link board.content

end Reports

variable {G F : Type}

/-- The state is an enumerator, and a bicycle that counts as locked is locked. -/
structure Mechanism (board : Board G F) (servos : Servos) : Prop where
  enumerator : ∃ state : BicycleState, board.value.state = state.value
  locked : board.value.state = BicycleState.locked.value → servos = Servos.both 180

theorem bluetoothCheck_mechanism (lockCmd : BitVec 32) (link : Link) {board : Board G F}
    {servos : Servos} (mechanism : Mechanism board servos) :
    AllMatch servos (bluetoothCheck lockCmd link board).2 ∧
      Mechanism (bluetoothCheck lockCmd link board).1
        ((bluetoothCheck lockCmd link board).2.foldl Servos.observe servos) := by
  by_cases close : lockCmd = LockCmd.close.code
  · rw [close, bluetoothCheck_close]
    have moved := lockBicycle_final (F := F) servos
    constructor
    · exact obey_matches (fun _ member => lockBicycle_silent member) moved link board
    · refine ⟨⟨.locked, rfl⟩, fun _ => ?_⟩
      rw [obey_events, List.foldl_append, List.foldl_append, moved]
      exact observe_front (List.prefix_refl _) (updateFirebase_state_untouched _ _ _) _
  by_cases opening : lockCmd = LockCmd.open.code
  · rw [opening, bluetoothCheck_open]
    have moved := unlockBicycle_final (F := F) servos
    constructor
    · exact obey_matches (fun _ member => unlockBicycle_silent member) moved link board
    · refine ⟨⟨.drive, rfl⟩, fun locked => ?_⟩
      simp [obey_board] at locked
  · rw [bluetoothCheck_other _ _ close opening]
    split
    · exact ⟨True.intro, mechanism⟩
    · exact ⟨⟨nofun, True.intro⟩, mechanism⟩

variable [Zero F] [BEq F] [LE F] [DecidableLE F] [OfNat F 4]

omit [Zero F] [BEq F] [LE F] [DecidableLE F] [OfNat F 4] in
theorem reportPosition_unreported (tiny : TinyGPS G F) (around : Surroundings F)
    (board : Board G F) {event : Event F} (member : event ∈ (reportPosition tiny around board).2) :
    reportedState event = none := by
  rcases mem_reportPosition tiny around board member with ⟨_, _, rfl⟩ | ⟨_, _, rfl⟩ <;> rfl

theorem gpsCheck_mechanism (tiny : TinyGPS G F) (around : Surroundings F) {board : Board G F}
    {servos : Servos} (mechanism : Mechanism board servos) :
    AllMatch servos (gpsCheck tiny around board).2 ∧
      Mechanism (gpsCheck tiny around board).1
        ((gpsCheck tiny around board).2.foldl Servos.observe servos) := by
  rw [observe_front (List.prefix_refl _) (gpsCheck_untouched tiny around board)]
  have positions : AllMatch servos (reportPosition tiny around board).2 :=
    allMatch_of_silent (fun _ member => reportPosition_unreported tiny around board member) servos
  rcases gpsCheck_cases tiny around board with
    ⟨_, result⟩ | ⟨_, unlocked, result⟩ | ⟨_, locked, result⟩ <;> rw [result]
  · exact ⟨True.intro, mechanism.enumerator, mechanism.locked⟩
  · exact ⟨positions, mechanism.enumerator, fun locked => absurd locked unlocked⟩
  · have closed := mechanism.locked locked
    constructor
    · rw [AllMatch, Machine.eachEvent_append]
      apply And.intro positions
      have unmoved : (reportPosition tiny around board).2.foldl Servos.observe servos = servos := by
        apply observe_front (List.prefix_refl _)
        intro gear posDegrees member
        rcases mem_reportPosition tiny around board member with ⟨_, _, same⟩ | ⟨_, _, same⟩ <;>
          cases same
      rw [unmoved, closed]
      exact updateFirebase_matches .steel _ _
    · exact ⟨⟨.steel, rfl⟩, fun locked => by simp at locked⟩

abbrev Iterations (F : Type) := List (BitVec 32 × Surroundings F)

def loops (iterations : Iterations F) : List (Step F) :=
  iterations.map fun iteration => .loop iteration.1 iteration.2

/-- The values of `Value.state`: at the start, after each command step and after each GPS step. -/
def stateTrace (tiny : TinyGPS G F) : Board G F → Iterations F → List Int
  | board, [] => [board.value.state]
  | board, (lockCmd, around) :: iterations =>
    board.value.state :: (bluetoothCheck lockCmd around.commandLink board).1.value.state ::
      stateTrace tiny (iteration tiny lockCmd around board).1 iterations

def EntersSteelFromLocked (before after : Int) : Prop :=
  after = BicycleState.steel.value → before = after ∨ before = BicycleState.locked.value

theorem stateTrace_head (tiny : TinyGPS G F) (board : Board G F) (iterations : Iterations F) :
    ∃ later, stateTrace tiny board iterations = board.value.state :: later := by
  cases iterations with
  | nil => exact ⟨[], rfl⟩
  | cons iteration iterations => exact ⟨_, rfl⟩

omit [Zero F] [BEq F] [LE F] [DecidableLE F] [OfNat F 4] in
theorem bluetoothCheck_enters (lockCmd : BitVec 32) (link : Link) (board : Board G F) :
    EntersSteelFromLocked board.value.state (bluetoothCheck lockCmd link board).1.value.state := by
  intro stolen
  by_cases close : lockCmd = LockCmd.close.code
  · rw [close, bluetoothCheck_close, obey_board] at stolen
    simp at stolen
  by_cases opening : lockCmd = LockCmd.open.code
  · rw [opening, bluetoothCheck_open, obey_board] at stolen
    simp at stolen
  · rw [bluetoothCheck_other _ _ close opening]
    exact .inl rfl

theorem gpsCheck_enters (tiny : TinyGPS G F) (around : Surroundings F) (board : Board G F) :
    EntersSteelFromLocked board.value.state (gpsCheck tiny around board).1.value.state := by
  intro _
  rcases gpsCheck_state tiny around board with same | ⟨locked, _⟩
  · exact .inl same.symm
  · exact .inr locked

theorem stateTrace_chain (tiny : TinyGPS G F) (iterations : Iterations F) (board : Board G F) :
    (stateTrace tiny board iterations).IsChain EntersSteelFromLocked := by
  induction iterations generalizing board with
  | nil => exact .singleton _
  | cons first iterations ih =>
    obtain ⟨lockCmd, around⟩ := first
    have rest := ih (iteration tiny lockCmd around board).1
    obtain ⟨later, head⟩ := stateTrace_head tiny (iteration tiny lockCmd around board).1 iterations
    rw [stateTrace, head]
    rw [head] at rest
    refine .cons_cons (bluetoothCheck_enters lockCmd around.commandLink board) (.cons_cons ?_ rest)
    exact gpsCheck_enters tiny around _

theorem stateTrace_enumerators (tiny : TinyGPS G F) (iterations : Iterations F) {board : Board G F}
    {servos : Servos} (mechanism : Mechanism board servos) :
    ∀ value ∈ stateTrace tiny board iterations, ∃ state : BicycleState, value = state.value := by
  induction iterations generalizing board servos with
  | nil =>
    intro value member
    rw [List.mem_singleton.mp member]
    exact mechanism.enumerator
  | cons first iterations ih =>
    obtain ⟨lockCmd, around⟩ := first
    have commanded := (bluetoothCheck_mechanism lockCmd around.commandLink mechanism).2
    intro value member
    rcases List.mem_cons.mp member with rfl | member
    · exact mechanism.enumerator
    rcases List.mem_cons.mp member with rfl | member
    · exact commanded.enumerator
    · exact ih (gpsCheck_mechanism tiny around commanded).2 value member

theorem iteration_mechanism (tiny : TinyGPS G F) (lockCmd : BitVec 32) (around : Surroundings F)
    {board : Board G F} {servos : Servos} (mechanism : Mechanism board servos) :
    AllMatch servos (iteration tiny lockCmd around board).2 ∧
      Mechanism (iteration tiny lockCmd around board).1
        ((iteration tiny lockCmd around board).2.foldl Servos.observe servos) := by
  obtain ⟨commandMatches, commanded⟩ :=
    bluetoothCheck_mechanism lockCmd around.commandLink mechanism
  obtain ⟨positionMatches, moved⟩ := gpsCheck_mechanism tiny around commanded
  rw [iteration_board, iteration_events, AllMatch, Machine.eachEvent_append, List.foldl_append]
  exact ⟨⟨commandMatches, positionMatches⟩, moved⟩

omit [BEq F] [LE F] [DecidableLE F] [OfNat F 4] in
theorem powerUp_mechanism (tiny : TinyGPS G F) (value : ValueClass F) (servos : Servos) :
    Mechanism (powerUp tiny value).1 servos :=
  ⟨⟨.drive, rfl⟩, fun locked => by simp [powerUp, setup, ValueClass.initValue] at locked⟩

/-- At every instant of a run from a power-up on, a state that is acknowledged or reported is the
    one in which both gears stand; the state is always an enumerator, and `STEEL` follows only
    `LOCKED`. -/
theorem reported_state_matches (tiny : TinyGPS G F) (board : Board G F) (value : ValueClass F)
    (servos : Servos) (iterations : Iterations F) :
    (∀ front event back data,
      (Machine.run (deviceStep tiny) board (.setup value :: loops iterations)).2 =
        front ++ event :: back → reportedState event = some data →
      ∃ state : BicycleState, data = state.value ∧
        front.foldl Servos.observe servos = Servos.both (BicycleState.position state)) ∧
    (∀ entry ∈ stateTrace tiny (powerUp tiny value).1 iterations,
      ∃ state : BicycleState, entry = state.value) ∧
    (stateTrace tiny (powerUp tiny value).1 iterations).IsChain EntersSteelFromLocked := by
  have started := powerUp_mechanism tiny value
  have loopsMatch : ∀ servos, AllMatch servos
      (Machine.run (deviceStep tiny) (powerUp tiny value).1 (loops iterations)).2 := by
    intro servos
    apply Machine.run_eachEvent Mechanism _ _ (loops iterations) _ _ _ (started servos)
    · exact fun step => ∃ lockCmd around, step = .loop lockCmd around
    · intro board servos step looped mechanism
      obtain ⟨lockCmd, around, rfl⟩ := looped
      exact (iteration_mechanism tiny lockCmd around mechanism).2
    · intro board servos step looped mechanism
      obtain ⟨lockCmd, around, rfl⟩ := looped
      exact (iteration_mechanism tiny lockCmd around mechanism).1
    · intro step member
      obtain ⟨iteration, _, rfl⟩ := List.mem_map.mp member
      exact ⟨_, _, rfl⟩
  refine ⟨?_, stateTrace_enumerators tiny iterations (started servos),
    stateTrace_chain tiny iterations _⟩
  intro front event back data whole reported
  have each : AllMatch servos
      (Machine.run (deviceStep tiny) board (.setup value :: loops iterations)).2 := by
    rw [Machine.run_cons]
    exact ⟨nofun, loopsMatch _⟩
  exact Machine.eachEvent_iff.mp each front event back whole data reported

end RockYou.Firmware.Safety

import Mathlib
import RockYou.App.Safety.WriteIsolation
import RockYou.Firmware.Firebase
import RockYou.Firmware.Sketch
import RockYou.Library.Causation

namespace RockYou.System

open Cloud App Firmware Machine

structure Running (F : Type) where
  step : Step F
  written : Nat

/-- The device, the collection, and the alarms of every user, with the snapshots that are on their
    way to the users. While a step runs, `board` is as the step found it. -/
structure Installation (G F : Type) where
  board : Board G F
  running : Option (Running F)
  bicycle : Collection F
  alarms : String → AlarmController
  answers : List (String × List (QueryDocument F))

inductive InstallationMove (F : Type) where
  | device (step : Step F)
  | write
  | finish
  | register (userid : String) (viewFlag : Nat) (txtNumberOfLocker txtNicknameBicycle : String)
  | remove (txt : String) (documents : List (QueryDocument F))
  | answer (userid : String) (documents : List (QueryDocument F))
  | deliver (before : List (String × List (QueryDocument F))) (userid : String)
      (documents : List (QueryDocument F)) (after : List (String × List (QueryDocument F)))
  | refresh (userid : String)
  | delete (userid : String) (row : Nat)

variable {G F : Type}

def Installation.start (board : Board G F) : Installation G F where
  board := board
  running := none
  bicycle := ∅
  alarms := fun _ => .initial
  answers := []

def stateOf (id : String) (bicycle : Collection F) : Option Int :=
  (bicycle.lookup id).bind fun content => FieldValue.asInt (content "state")

variable [Zero F] [BEq F] [LE F] [DecidableLE F] [OfNat F 4]

/-- The patches of a step that are delivered, in their order. -/
def writes (tiny : TinyGPS G F) (board : Board G F) (step : Step F) : List (Event F) :=
  (deviceStep tiny board step).2.filter Event.isWrite

/-- One step of the device or of any user. The writes of an iteration reach the cloud one by one,
    with any moves of the users in between, and a power-up may cut an iteration off; a snapshot is
    taken before it is delivered, in any order, and a removal works on an answer of any age. -/
def InstallationMoves (tiny : TinyGPS G F) (installation : Installation G F) :
    InstallationMove F → Installation G F → Prop
  | .device step, next =>
    (installation.running = none ∨ ∃ value, step = .setup value) ∧
      next = { installation with running := some ⟨step, 0⟩ }
  | .write, next =>
    ∃ step written event, installation.running = some ⟨step, written⟩ ∧
      (writes tiny installation.board step)[written]? = some event ∧
      next = { installation with
        running := some ⟨step, written + 1⟩
        bicycle := observeCloud installation.bicycle event }
  | .finish, next =>
    ∃ step written, installation.running = some ⟨step, written⟩ ∧
      (writes tiny installation.board step).length ≤ written ∧
      next = { installation with
        board := (deviceStep tiny installation.board step).1
        running := none }
  | .register userid viewFlag txtNumberOfLocker txtNicknameBicycle, next =>
    ∃ bicycle, register userid viewFlag txtNumberOfLocker txtNicknameBicycle
        installation.bicycle = some bicycle ∧ next = { installation with bicycle := bicycle }
  | .remove txt documents, next =>
    next = { installation with
      bicycle := bicycleRemoveBtnDidTap txt documents installation.bicycle }
  | .answer userid documents, next =>
    DocumentStore.Snapshot installation.bicycle documents ∧
      next = { installation with answers := installation.answers ++ [(userid, documents)] }
  | .deliver before userid documents after, next =>
    installation.answers = before ++ (userid, documents) :: after ∧
      ∃ alarm, (stateCheck userid documents (installation.alarms userid)).state? = some alarm ∧
        next = { installation with
          alarms := Function.update installation.alarms userid alarm
          answers := before ++ after }
  | .refresh userid, next =>
    next = { installation with
      alarms := Function.update installation.alarms userid
        (resetBtnDidTap (installation.alarms userid)) }
  | .delete userid row, next =>
    ∃ document alarm, commitDelete row (installation.alarms userid) = some (document, alarm) ∧
      next = { installation with
        bicycle := resetState document installation.bicycle
        alarms := Function.update installation.alarms userid alarm }

inductive Delivers (tiny : TinyGPS G F) (lockCmd : BitVec 32) (around : Surroundings F)
    (board : Board G F) : BicycleState → Prop where
  | opened (command : lockCmd = LockCmd.open.code) (link : around.commandLink = .delivered) :
      Delivers tiny lockCmd around board .drive
  | closed (command : lockCmd = LockCmd.close.code) (link : around.commandLink = .delivered) :
      Delivers tiny lockCmd around board .locked
  | stolen (locked : (bluetoothCheck lockCmd around.commandLink board).1.value.state =
        BicycleState.locked.value)
      (far : Exceeds tiny around (bluetoothCheck lockCmd around.commandLink board).1)
      (link : around.theftLink = .delivered) : Delivers tiny lockCmd around board .steel

def stateReport (state : BicycleState) : Event F :=
  .patchDocument ["state"]
    (FirebaseJson.cleared.set ["fields", "state", "integerValue"] (.text state.value)) true

/-- The moves that write the state of a document, with what they write. -/
inductive Sets (tiny : TinyGPS G F) (id : String) (installation : Installation G F) :
    InstallationMove F → Int → Prop where
  | reported {lockCmd : BitVec 32} {around : Surroundings F} {written : Nat}
      {state : BicycleState} (device : id = bicycleId)
      (running : installation.running = some ⟨.loop lockCmd around, written⟩)
      (report : (writes tiny installation.board (.loop lockCmd around))[written]? =
        some (stateReport state))
      (delivers : Delivers tiny lockCmd around installation.board state) :
      Sets tiny id installation .write state.value
  | registered {userid : String} {viewFlag : Nat}
      {txtNumberOfLocker txtNicknameBicycle document bicycleNickname : String}
      (tap : (nextButtonDidTap viewFlag txtNumberOfLocker txtNicknameBicycle).2 =
        .addServerData document bicycleNickname)
      (path : documentWithPath document = some [id]) :
      Sets tiny id installation
        (.register userid viewFlag txtNumberOfLocker txtNicknameBicycle) 0
  | dismissed {userid : String} {row : Nat} {alarm : AlarmController}
      (deleted : commitDelete row (installation.alarms userid) = some (id, alarm)) :
      Sets tiny id installation (.delete userid row) 0

section Device

omit [BEq F] [LE F] [DecidableLE F] [OfNat F 4]

omit [Zero F] in
theorem stateOf_device (bicycle : Collection F) :
    stateOf bicycleId bicycle = FieldValue.asInt (deviceField bicycle "state") := by
  rw [stateOf, deviceField]
  cases bicycle.lookup bicycleId <;> rfl

theorem stateOf_unpatched {event : Event F} (unpatched : ¬ event.Patches "state")
    (bicycle : Collection F) :
    stateOf bicycleId (observeCloud bicycle event) = stateOf bicycleId bicycle := by
  rw [stateOf_device, observeCloud_field unpatched, stateOf_device]

theorem stateOf_report (state : BicycleState) (bicycle : Collection F) :
    stateOf bicycleId (observeCloud bicycle (stateReport state)) = some state.value := by
  have shown : deviceField (observeCloud bicycle (stateReport state)) "state" =
      some (.integer state.value) := by
    rw [stateReport, observeCloud, deviceField, DocumentStore.lookup_patch, Option.bind_some,
      DocumentStore.Document.patch_masked (List.mem_singleton_self _), document_state]
  rw [stateOf_device, shown]
  rfl

theorem stateOf_other {id : String} (different : id ≠ bicycleId) (event : Event F)
    (bicycle : Collection F) : stateOf id (observeCloud bicycle event) = stateOf id bicycle := by
  rw [stateOf, stateOf]
  exact congrArg (Option.bind · _) (observeCloud_other different [event] bicycle)

end Device

section Iteration

variable {tiny : TinyGPS G F} {lockCmd : BitVec 32} {around : Surroundings F} {board : Board G F}
  {event : Event F}

omit [Zero F] [BEq F] [LE F] [DecidableLE F] [OfNat F 4] in
theorem updateFirebase_patches {state : BicycleState} {link : Link} {content : FirebaseJson F}
    {name : String} (member : event ∈ (updateFirebase .state state.value link content).2)
    (patches : event.Patches name) :
    name = "state" ∧ link = .delivered ∧ event = stateReport state := by
  rw [updateFirebase_state, List.mem_cons] at member
  rcases member with rfl | sent
  · exact patches.elim
  · cases link with
    | notReady => cases sent
    | failed =>
      rw [List.mem_singleton.mp sent] at patches
      exact patches.elim
    | delivered =>
      obtain rfl := List.mem_singleton.mp sent
      exact ⟨List.mem_singleton.mp patches, rfl, rfl⟩

omit [Zero F] [BEq F] [LE F] [DecidableLE F] [OfNat F 4] in
theorem obey_patches {motor : List (Event F)} {state : BicycleState} {link : Link} {name : String}
    (silent : ∀ event ∈ motor, ¬ event.Patches name)
    (member : event ∈ (obey motor state link board).2) (patches : event.Patches name) :
    name = "state" ∧ link = .delivered ∧ event = stateReport state := by
  rw [obey_events, List.append_assoc] at member
  rcases List.mem_append.mp member with moved | member
  · exact absurd patches (silent event moved)
  rcases List.mem_append.mp member with acknowledged | reported
  · rw [List.mem_singleton.mp acknowledged] at patches
    exact patches.elim
  · exact updateFirebase_patches reported patches

omit [Zero F] [BEq F] [LE F] [DecidableLE F] [OfNat F 4] in
theorem lockBicycle_unpatched (name : String) :
    ∀ event ∈ lockBicycle (F := F), ¬ event.Patches name := by
  intro event member
  rcases mem_lockBicycle member with rfl | ⟨_, _, rfl⟩ <;> exact id

omit [Zero F] [BEq F] [LE F] [DecidableLE F] [OfNat F 4] in
theorem unlockBicycle_unpatched (name : String) :
    ∀ event ∈ unlockBicycle (F := F), ¬ event.Patches name := by
  intro event member
  rcases mem_unlockBicycle member with rfl | ⟨_, _, rfl⟩ <;> exact id

omit [DecidableLE F] in
theorem bluetoothCheck_reports {name : String}
    (member : event ∈ (bluetoothCheck lockCmd around.commandLink board).2)
    (patches : event.Patches name) :
    name = "state" ∧
      ∃ state, event = stateReport state ∧ Delivers tiny lockCmd around board state := by
  by_cases close : lockCmd = LockCmd.close.code
  · rw [close, bluetoothCheck_close] at member
    obtain ⟨named, link, same⟩ := obey_patches (lockBicycle_unpatched name) member patches
    exact ⟨named, .locked, same, .closed close link⟩
  by_cases opening : lockCmd = LockCmd.open.code
  · rw [opening, bluetoothCheck_open] at member
    obtain ⟨named, link, same⟩ := obey_patches (unlockBicycle_unpatched name) member patches
    exact ⟨named, .drive, same, .opened opening link⟩
  · rw [bluetoothCheck_other _ _ close opening] at member
    dsimp only at member
    split at member
    · cases member
    · rw [List.mem_singleton.mp member] at patches
      exact patches.elim

omit [Zero F] [BEq F] [LE F] [DecidableLE F] [OfNat F 4] in
theorem reportPosition_patches {name : String}
    (member : event ∈ (reportPosition tiny around board).2) (patches : event.Patches name) :
    name = "GPS" := by
  rcases mem_reportPosition tiny around board member with ⟨_, _, rfl⟩ | ⟨_, succeeded, rfl⟩
  · exact patches.elim
  · cases succeeded with
    | false => exact patches.elim
    | true => exact List.mem_singleton.mp patches

theorem iteration_patches {name : String} (member : event ∈ (iteration tiny lockCmd around board).2)
    (patches : event.Patches name) :
    (name = "state" ∧
        ∃ state, event = stateReport state ∧ Delivers tiny lockCmd around board state) ∨
      (name = "GPS" ∧
        Exceeds tiny around (bluetoothCheck lockCmd around.commandLink board).1 ∧ event ∈
          (reportPosition tiny around (bluetoothCheck lockCmd around.commandLink board).1).2) := by
  rw [iteration_events] at member
  rcases List.mem_append.mp member with checked | located
  · exact .inl (bluetoothCheck_reports checked patches)
  · rcases gpsCheck_cases tiny around (bluetoothCheck lockCmd around.commandLink board).1 with
      ⟨_, result⟩ | ⟨far, _, result⟩ | ⟨far, locked, result⟩ <;> rw [result] at located
    · cases located
    · exact .inr ⟨reportPosition_patches located patches, far, located⟩
    · rcases List.mem_append.mp located with placed | stolen
      · exact .inr ⟨reportPosition_patches placed patches, far, placed⟩
      · obtain ⟨named, link, same⟩ := updateFirebase_patches stolen patches
        exact .inl ⟨named, .steel, same, .stolen locked far link⟩

theorem write_of_iteration {step : Step F} {written : Nat}
    (found : (writes tiny board step)[written]? = some event) :
    event.isWrite = true ∧ ∃ lockCmd around, step = .loop lockCmd around ∧
      event ∈ (iteration tiny lockCmd around board).2 := by
  obtain ⟨member, isWrite⟩ := List.mem_filter.mp (List.mem_of_getElem? found)
  cases step with
  | setup value =>
    rw [List.mem_singleton.mp member] at isWrite
    cases isWrite
  | loop lockCmd around => exact ⟨isWrite, lockCmd, around, rfl, member⟩

end Iteration

section Step

variable {tiny : TinyGPS G F} {installation next : Installation G F} {move : InstallationMove F}

theorem moves_state (id : String) (moved : InstallationMoves tiny installation move next) :
    (∃ value, Sets tiny id installation move value ∧ stateOf id next.bicycle = some value) ∨
      stateOf id next.bicycle = stateOf id installation.bicycle ∨
      (stateOf id next.bicycle = none ∧ ∃ txt documents, move = .remove txt documents) := by
  cases move with
  | device step =>
    obtain ⟨_, rfl⟩ := moved
    exact .inr (.inl rfl)
  | write =>
    obtain ⟨step, written, event, running, found, rfl⟩ := moved
    obtain ⟨_, lockCmd, around, rfl, member⟩ := write_of_iteration found
    by_cases device : id = bicycleId
    · subst device
      by_cases patches : event.Patches "state"
      · rcases iteration_patches member patches with ⟨_, state, same, delivers⟩ | ⟨other, _⟩
        · subst same
          exact .inl ⟨state.value, .reported rfl running found delivers,
            stateOf_report state installation.bicycle⟩
        · exact absurd other (by decide)
      · exact .inr (.inl (stateOf_unpatched patches installation.bicycle))
    · exact .inr (.inl (stateOf_other device event installation.bicycle))
  | finish =>
    obtain ⟨_, _, _, _, rfl⟩ := moved
    exact .inr (.inl rfl)
  | register userid viewFlag txtNumberOfLocker txtNicknameBicycle =>
    obtain ⟨bicycle, registered, rfl⟩ := moved
    rcases Safety.register_cases registered with
      ⟨document, nickname, written, tap, path, rfl⟩ | ⟨_, rfl⟩
    · by_cases same : id = written
      · subst same
        refine .inl ⟨0, .registered tap path, ?_⟩
        rw [stateOf, DocumentStore.lookup_setData]
        rfl
      · refine .inr (.inl ?_)
        rw [stateOf, DocumentStore.lookup_setData_ne same, stateOf]
    · exact .inr (.inl rfl)
  | remove txt documents =>
    cases moved
    rw [bicycleRemoveBtnDidTap]
    split
    · exact .inr (.inl rfl)
    · split
      · rw [stateOf, DocumentStore.lookup_deleteAll]
        split
        · exact .inr (.inr ⟨rfl, txt, documents, rfl⟩)
        · exact .inr (.inl rfl)
      · exact .inr (.inl rfl)
  | answer userid documents =>
    obtain ⟨_, rfl⟩ := moved
    exact .inr (.inl rfl)
  | deliver before userid documents after =>
    obtain ⟨_, _, _, rfl⟩ := moved
    exact .inr (.inl rfl)
  | refresh userid =>
    cases moved
    exact .inr (.inl rfl)
  | delete userid row =>
    obtain ⟨document, alarm, deleted, rfl⟩ := moved
    by_cases same : id = document
    · subst same
      rw [stateOf, resetState, DocumentStore.lookup_updateData, stateOf]
      cases installation.bicycle.lookup id with
      | none => exact .inr (.inl rfl)
      | some content => exact .inl ⟨0, .dismissed deleted, rfl⟩
    · refine .inr (.inl ?_)
      rw [stateOf, resetState, DocumentStore.lookup_updateData_ne same, stateOf]

theorem moves_alarms (userid : String) (moved : InstallationMoves tiny installation move next) :
    next.alarms userid = installation.alarms userid ∨
      (∃ before documents after, move = .deliver before userid documents after ∧
        installation.answers = before ++ (userid, documents) :: after ∧
        (stateCheck userid documents (installation.alarms userid)).state? =
          some (next.alarms userid)) ∨
      (move = .refresh userid ∧
        next.alarms userid = resetBtnDidTap (installation.alarms userid)) ∨
      ∃ row document, move = .delete userid row ∧
        commitDelete row (installation.alarms userid) = some (document, next.alarms userid) := by
  cases move with
  | device step =>
    obtain ⟨_, rfl⟩ := moved
    exact .inl rfl
  | write =>
    obtain ⟨_, _, _, _, _, rfl⟩ := moved
    exact .inl rfl
  | finish =>
    obtain ⟨_, _, _, _, rfl⟩ := moved
    exact .inl rfl
  | register other viewFlag txtNumberOfLocker txtNicknameBicycle =>
    obtain ⟨_, _, rfl⟩ := moved
    exact .inl rfl
  | remove txt documents =>
    cases moved
    exact .inl rfl
  | answer other documents =>
    obtain ⟨_, rfl⟩ := moved
    exact .inl rfl
  | deliver before other documents after =>
    obtain ⟨whole, alarm, polled, rfl⟩ := moved
    by_cases same : userid = other
    · subst same
      refine .inr (.inl ⟨before, documents, after, rfl, whole, ?_⟩)
      dsimp only
      rw [polled, Function.update_self]
    · exact .inl (Function.update_of_ne same ..)
  | refresh other =>
    cases moved
    by_cases same : userid = other
    · subst same
      exact .inr (.inr (.inl ⟨rfl, Function.update_self ..⟩))
    · exact .inl (Function.update_of_ne same ..)
  | delete other row =>
    obtain ⟨document, alarm, deleted, rfl⟩ := moved
    by_cases same : userid = other
    · subst same
      refine .inr (.inr (.inr ⟨row, document, rfl, ?_⟩))
      dsimp only
      rw [deleted, Function.update_self]
    · exact .inl (Function.update_of_ne same ..)

end Step

section Undisturbed

variable (tiny : TinyGPS G F)

def Installation.stepped (step : Step F) (installation : Installation G F) : Installation G F :=
  { installation with
    board := (deviceStep tiny installation.board step).1
    bicycle := (deviceStep tiny installation.board step).2.foldl observeCloud installation.bicycle }

variable {tiny} {installation : Installation G F} {step : Step F}

theorem writes_undisturbed {before after : List (Event F)}
    (whole : writes tiny installation.board step = before ++ after)
    (running : installation.running = some ⟨step, before.length⟩) :
    Path (InstallationMoves tiny) installation (List.replicate after.length .write)
      { installation with
        running := some ⟨step, (writes tiny installation.board step).length⟩
        bicycle := after.foldl observeCloud installation.bicycle } := by
  induction after generalizing installation before with
  | nil =>
    rw [List.append_nil] at whole
    rw [whole, ← running]
    exact .nil
  | cons event after ih =>
    have found : (writes tiny installation.board step)[before.length]? = some event := by
      rw [whole, List.getElem?_append_right (Nat.le_refl _), Nat.sub_self, List.getElem?_cons_zero]
    rw [List.length_cons, List.replicate_succ]
    refine .cons ⟨step, before.length, event, running, found, rfl⟩ ?_
    refine @ih { installation with
      running := some ⟨step, before.length + 1⟩
      bicycle := observeCloud installation.bicycle event } (before ++ [event]) ?_ ?_
    · rw [List.append_assoc]
      exact whole
    · rw [List.length_append]
      rfl

/-- Without moves in between, the writes of a step arrive as one. -/
theorem device_undisturbed (idle : installation.running = none) :
    Path (InstallationMoves tiny) installation
      (.device step ::
        (List.replicate (writes tiny installation.board step).length .write ++ [.finish]))
      (installation.stepped tiny step) := by
  have written := @writes_undisturbed _ _ _ _ _ _ _ tiny
    { installation with running := some ⟨step, 0⟩ } step [] _ rfl rfl
  refine .cons ⟨.inl idle, rfl⟩ (written.append (.cons ⟨step, _, rfl, Nat.le_refl _, ?_⟩ .nil))
  rw [Installation.stepped, ← observeCloud_writes, idle.symm]

end Undisturbed

end RockYou.System

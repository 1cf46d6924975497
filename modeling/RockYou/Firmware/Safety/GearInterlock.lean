import Mathlib
import RockYou.Firmware.Safety.ClosedLock

namespace RockYou.Firmware.Safety

open Machine

section Sweeps

variable {F : Type}

/-- A write that moves `mainServo` finds `lockServo` at 0, and a write to either servo stays within
    5 degrees of the position before it. -/
def Gentle (servos : Servos) : Event F → Prop
  | .servoWrite gear posDegrees =>
    (gear = .mainServo → servos .mainServo ≠ some posDegrees → servos .lockServo = some 0) ∧
      ∀ previous, servos gear = some previous →
        previous ≤ posDegrees + 5 ∧ posDegrees ≤ previous + 5
  | _ => True

theorem untouched_gentle {events : List (Event F)}
    (untouched : ∀ gear posDegrees, Event.servoWrite gear posDegrees ∉ events) (servos : Servos) :
    EachEvent Servos.observe Gentle servos events := by
  apply eachEvent_of_forall
  intro event member servos
  cases event with
  | servoWrite gear posDegrees => exact absurd member (untouched gear posDegrees)
  | _ => exact True.intro

variable {gear : Gear} {start : Int} {servos : Servos}

theorem write_gentle (current : Int) (position : servos gear = some current)
    (near : current ≤ start + 5 ∧ start ≤ current + 5)
    (free : gear = .mainServo → servos .lockServo = some 0) :
    Gentle servos (.servoWrite gear start : Event F) ∧
      (gear = .mainServo →
        servos.observe (.servoWrite gear start : Event F) .lockServo = some 0) := by
  refine ⟨⟨fun main _ => free main, ?_⟩, ?_⟩
  · intro previous written
    rw [position] at written
    cases written
    exact near
  · intro main
    subst main
    exact (Function.update_of_ne (by decide) _ _).trans (free rfl)

theorem sweepUp_gentle (current : Int) (position : servos gear = some current)
    (near : current ≤ start + 5 ∧ start ≤ current + 5)
    (free : gear = .mainServo → servos .lockServo = some 0) :
    EachEvent Servos.observe Gentle servos (sweepUp (F := F) gear start) := by
  fun_induction sweepUp (F := F) gear start generalizing servos current with
  | case1 posDegrees _ ih =>
    obtain ⟨gentle, still⟩ := write_gentle (F := F) current position near free
    exact ⟨gentle, ih posDegrees (Function.update_self ..) (by omega) still⟩
  | case2 => exact True.intro

theorem sweepDown_gentle (current : Int) (position : servos gear = some current)
    (near : current ≤ start + 5 ∧ start ≤ current + 5)
    (free : gear = .mainServo → servos .lockServo = some 0) :
    EachEvent Servos.observe Gentle servos (sweepDown (F := F) gear start) := by
  fun_induction sweepDown (F := F) gear start generalizing servos current with
  | case1 posDegrees _ ih =>
    obtain ⟨gentle, still⟩ := write_gentle (F := F) current position near free
    exact ⟨gentle, ih posDegrees (Function.update_self ..) (by omega) still⟩
  | case2 => exact True.intro

def gears (closed : Bool) : Servos := Servos.both (if closed then 180 else 0)

theorem lockBicycle_gentle_iff (closed : Bool) :
    EachEvent Servos.observe Gentle (gears closed) (lockBicycle (F := F)) ↔ closed = false := by
  constructor
  · intro gentle
    cases closed with
    | false => rfl
    | true =>
      rw [lockBicycle, sweepUp, if_pos (by decide)] at gentle
      have jump := gentle.2.1.2 180 rfl
      omega
  · intro opened
    subst opened
    refine ⟨True.intro, eachEvent_append.mpr ⟨?_, ?_⟩⟩
    · exact sweepUp_gentle 0 rfl (by decide) fun _ => rfl
    · rw [sweepUp_final _ 0 (by decide) (by decide)]
      exact sweepUp_gentle 0 rfl (by decide) fun main => absurd main (by decide)

theorem unlockBicycle_gentle_iff (closed : Bool) :
    EachEvent Servos.observe Gentle (gears closed) (unlockBicycle (F := F)) ↔ closed = true := by
  constructor
  · intro gentle
    cases closed with
    | true => rfl
    | false =>
      rw [unlockBicycle, sweepDown, if_pos (by decide)] at gentle
      have jump := gentle.2.1.2 0 rfl
      omega
  · intro locked
    subst locked
    refine ⟨True.intro, eachEvent_append.mpr ⟨?_, ?_⟩⟩
    · exact sweepDown_gentle 180 rfl (by decide) fun main => absurd main (by decide)
    · rw [sweepDown_final _ 180 (by decide) (by decide)]
      exact sweepDown_gentle 180 rfl (by decide) fun _ => rfl

end Sweeps

variable {G F : Type} [Zero F] [BEq F] [LE F] [DecidableLE F] [OfNat F 4]

section Commands

variable (tiny : TinyGPS G F) (around : Surroundings F) (board : Board G F)

theorem obey_gentle_iff (motor : List (Event F)) (state : BicycleState) (closed after : Bool)
    (moved : motor.foldl Servos.observe (gears closed) = gears after) (later : Board G F) :
    (EachEvent Servos.observe Gentle (gears closed)
        ((obey motor state around.commandLink board).2 ++ (gpsCheck tiny around later).2) ↔
      EachEvent Servos.observe Gentle (gears closed) motor) ∧
    ((obey motor state around.commandLink board).2 ++ (gpsCheck tiny around later).2).foldl
      Servos.observe (gears closed) = gears after := by
  have quiet (gear : Gear) (posDegrees : Int) : Event.servoWrite gear posDegrees ∉
      (sendCmdToBLE state.value ++
        (updateFirebase .state state.value around.commandLink board.content).2) ++
          (gpsCheck tiny around later).2 := by
    intro member
    rcases List.mem_append.mp member with answered | located
    · rcases List.mem_append.mp answered with acknowledged | reported
      · simp [sendCmdToBLE] at acknowledged
      · exact updateFirebase_state_untouched _ _ _ gear posDegrees reported
    · exact gpsCheck_untouched tiny around later gear posDegrees located
  rw [obey_events, List.append_assoc, List.append_assoc, ← List.append_assoc (sendCmdToBLE _)]
  constructor
  · rw [eachEvent_append]
    exact and_iff_left (untouched_gentle quiet _)
  · rw [List.foldl_append, moved]
    exact observe_front (List.prefix_refl _) quiet _

theorem close_gentle_iff (closed : Bool) :
    (EachEvent Servos.observe Gentle (gears closed)
        (iteration tiny LockCmd.close.code around board).2 ↔ closed = false) ∧
    (iteration tiny LockCmd.close.code around board).2.foldl Servos.observe (gears closed) =
      gears true := by
  rw [iteration_events, bluetoothCheck_close, ← lockBicycle_gentle_iff (F := F) closed]
  exact obey_gentle_iff tiny around board _ _ _ _ (lockBicycle_final _) _

theorem open_gentle_iff (closed : Bool) :
    (EachEvent Servos.observe Gentle (gears closed)
        (iteration tiny LockCmd.open.code around board).2 ↔ closed = true) ∧
    (iteration tiny LockCmd.open.code around board).2.foldl Servos.observe (gears closed) =
      gears false := by
  rw [iteration_events, bluetoothCheck_open, ← unlockBicycle_gentle_iff (F := F) closed]
  exact obey_gentle_iff tiny around board _ _ _ _ (unlockBicycle_final _) _

/-- From gears that are closed or not, every CLOSE finds them open and every OPEN closed. -/
def Alternates : Bool → List (BitVec 32) → Prop
  | _, [] => True
  | closed, lockCmd :: lockCmds =>
    if lockCmd = LockCmd.close.code then closed = false ∧ Alternates true lockCmds
    else if lockCmd = LockCmd.open.code then closed = true ∧ Alternates false lockCmds
    else Alternates closed lockCmds

def obeying (commands : List (BitVec 32 × Surroundings F)) : List (Event F) :=
  (run (deviceStep tiny) board (commands.map fun command => .loop command.1 command.2)).2

theorem obeying_gentle_iff (closed : Bool) (commands : List (BitVec 32 × Surroundings F)) :
    EachEvent Servos.observe Gentle (gears closed) (obeying tiny board commands) ↔
      Alternates closed (commands.map Prod.fst) := by
  induction commands generalizing board closed with
  | nil => exact Iff.rfl
  | cons command commands ih =>
    obtain ⟨lockCmd, around⟩ := command
    have split : obeying tiny board ((lockCmd, around) :: commands) =
        (iteration tiny lockCmd around board).2 ++
          obeying tiny (iteration tiny lockCmd around board).1 commands := rfl
    rw [split, eachEvent_append, List.map_cons, Alternates]
    by_cases close : lockCmd = LockCmd.close.code
    · subst close
      obtain ⟨gentle, moved⟩ := close_gentle_iff tiny around board closed
      rw [gentle, moved, ih, if_pos rfl]
    by_cases opening : lockCmd = LockCmd.open.code
    · subst opening
      obtain ⟨gentle, moved⟩ := open_gentle_iff tiny around board closed
      rw [gentle, moved, ih, if_neg LockCmd.open_ne_close, if_pos rfl]
    · have quiet := idle_untouched tiny (show Idle (.loop lockCmd around) from ⟨close, opening⟩)
        board
      have still := observe_front (List.prefix_refl _) quiet (gears closed)
      rw [deviceStep] at quiet still
      rw [still, ih, if_neg close, if_neg opening]
      exact and_iff_right (untouched_gentle quiet _)

def setUpGears (value : ValueClass F) (servos : Servos) : Servos :=
  (powerUp tiny value).2.foldl Servos.observe (Function.update servos .mainServo (some 0))

omit [BEq F] [LE F] [DecidableLE F] [OfNat F 4] in
theorem setUpGears_open (value : ValueClass F) (servos : Servos) :
    setUpGears tiny value servos = gears false := by
  funext gear
  cases gear <;> rfl

end Commands

/-- The gears move smoothly and the main gear only past an open lock gear exactly when the commands
    alternate, beginning with CLOSE. -/
theorem gentle_iff_alternates (tiny : TinyGPS G F) (value : ValueClass F) (servos : Servos)
    (commands : List (BitVec 32 × Surroundings F)) :
    EachEvent Servos.observe Gentle (setUpGears tiny value servos)
        (obeying tiny (powerUp tiny value).1 commands) ↔
      Alternates false (commands.map Prod.fst) := by
  rw [setUpGears_open]
  exact obeying_gentle_iff tiny _ false commands

theorem repeated_close_not_gentle :
    ¬ ∀ (servos : Servos) (commands : List (BitVec 32 × Surroundings Int)),
      (∀ command ∈ commands, command.1 = LockCmd.close.code ∨ command.1 = LockCmd.open.code) →
        EachEvent Servos.observe Gentle (setUpGears meridianGPS unpowered.value servos)
          (obeying meridianGPS (powerUp meridianGPS unpowered.value).1 commands) := by
  intro gentle
  have twice := gentle (fun _ => none)
    [(LockCmd.close.code, onMeridian 10), (LockCmd.close.code, onMeridian 10)] (by simp)
  rw [setUpGears_open, obeying_gentle_iff] at twice
  simp [Alternates] at twice

end RockYou.Firmware.Safety

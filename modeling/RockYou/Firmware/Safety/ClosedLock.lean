import Mathlib
import RockYou.Library.Machine
import RockYou.Firmware.Sketch

namespace RockYou.Firmware.Safety

section Servos

variable {F : Type}

theorem observe_front {events front : List (Event F)} (prefixed : front <+: events)
    (untouched : ∀ gear posDegrees, Event.servoWrite gear posDegrees ∉ events) (servos : Servos) :
    front.foldl Servos.observe servos = servos := by
  funext gear
  exact observe_untouched
    (fun posDegrees member => untouched gear posDegrees (prefixed.subset member)) servos

theorem updateFirebase_state_untouched (data : Int) (link : Link) (content : FirebaseJson F)
    (gear : Gear) (posDegrees : Int) :
    Event.servoWrite gear posDegrees ∉ (updateFirebase .state data link content).2 := by
  intro member
  rcases mem_updateFirebase_state member with same | ⟨_, _, same⟩ <;> cases same

theorem lockBicycle_guarded {front : List (Event F)} (prefixed : front <+: lockBicycle) :
    front.foldl Servos.observe (Servos.both 180) .lockServo = some 180 ∨
      front.foldl Servos.observe (Servos.both 180) .mainServo = some 180 := by
  rcases List.prefix_cons_iff.mp prefixed with rfl | ⟨moves, rfl, swept⟩
  · exact .inl rfl
  · rw [List.foldl_cons]
    change moves.foldl Servos.observe (Servos.both 180) .lockServo = some 180 ∨ _
    rcases Machine.prefix_append_cases swept with first | ⟨second, rfl, later⟩
    · exact .inl (sweepUp_other (by decide) 0 first _)
    · right
      rw [List.foldl_append, sweepUp_other (by decide) 0 later]
      change (sweepUp .mainServo 0).foldl Servos.observe (Servos.both 180) .mainServo = some 180
      rw [sweepUp_final _ 0 (by decide) (by decide)]
      exact Function.update_self _ _ _

end Servos

variable {G F : Type} [Zero F] [BEq F] [LE F] [DecidableLE F] [OfNat F 4]

theorem gpsCheck_untouched (tiny : TinyGPS G F) (around : Surroundings F) (board : Board G F)
    (gear : Gear) (posDegrees : Int) :
    Event.servoWrite gear posDegrees ∉ (gpsCheck tiny around board).2 := by
  intro member
  rcases mem_gpsCheck member with ⟨_, _, same⟩ | ⟨same, _⟩ | ⟨_, _, _, same⟩ <;> cases same

def Opens : Step F → Prop
  | .setup _ => False
  | .loop lockCmd _ => lockCmd = LockCmd.open.code

def Idle : Step F → Prop
  | .setup _ => False
  | .loop lockCmd _ => lockCmd ≠ LockCmd.close.code ∧ lockCmd ≠ LockCmd.open.code

def KeepsClosed : Step F → Prop
  | .setup _ => False
  | .loop lockCmd _ => lockCmd ≠ LockCmd.open.code

section Run

variable (tiny : TinyGPS G F) (start : Board G F) (servos : Servos) (before : List (Step F))
  (around : Surroundings F) (after : List (Step F))

def closedBoard : Board G F :=
  (bluetoothCheck LockCmd.close.code around.commandLink
    (Machine.run (deviceStep tiny) start before).1).1

def handledClose : List (Event F) :=
  (Machine.run (deviceStep tiny) start before).2 ++
    (bluetoothCheck LockCmd.close.code around.commandLink
      (Machine.run (deviceStep tiny) start before).1).2

/-- The events from then on: the GPS step of that iteration and the steps `after` it. -/
def afterClose : List (Event F) :=
  (gpsCheck tiny around (closedBoard tiny start before around)).2 ++
    (Machine.run (deviceStep tiny)
      (gpsCheck tiny around (closedBoard tiny start before around)).1 after).2

theorem run_split_close :
    (Machine.run (deviceStep tiny) start
      (before ++ .loop LockCmd.close.code around :: after)).2 =
      handledClose tiny start before around ++ afterClose tiny start before around after := by
  rw [Machine.run_append, Machine.run_cons]
  simp only [deviceStep, iteration_events, iteration_board, handledClose, afterClose, closedBoard,
    List.append_assoc]

def StaysClosed : Prop :=
  ∀ front, front <+: afterClose tiny start before around after →
    (handledClose tiny start before around ++ front).foldl Servos.observe servos = Servos.both 180

theorem handledClose_servos :
    (handledClose tiny start before around).foldl Servos.observe servos = Servos.both 180 := by
  rw [handledClose, bluetoothCheck_close]
  simp only [obey, List.foldl_append, lockBicycle_final]
  exact observe_front (List.prefix_refl _) (updateFirebase_state_untouched _ _ _) _

theorem idle_untouched {step : Step F} (idle : Idle step) (board : Board G F) (gear : Gear)
    (posDegrees : Int) : Event.servoWrite gear posDegrees ∉ (deviceStep tiny board step).2 := by
  cases step with
  | setup value => exact idle.elim
  | loop lockCmd around =>
    rw [deviceStep, iteration_events, bluetoothCheck_other _ _ idle.1 idle.2, List.mem_append]
    intro member
    rcases member with printed | located
    · split at printed <;> simp at printed
    · exact gpsCheck_untouched tiny around board gear posDegrees located

theorem keepsClosed_guarded {step : Step F} (keeps : KeepsClosed step) (board : Board G F)
    {front : List (Event F)} (prefixed : front <+: (deviceStep tiny board step).2) :
    front.foldl Servos.observe (Servos.both 180) .lockServo = some 180 ∨
      front.foldl Servos.observe (Servos.both 180) .mainServo = some 180 := by
  cases step with
  | setup value => exact keeps.elim
  | loop lockCmd around =>
    by_cases close : lockCmd = LockCmd.close.code
    · subst close
      rw [deviceStep, iteration_events, bluetoothCheck_close, obey, List.append_assoc,
        List.append_assoc] at prefixed
      rcases Machine.prefix_append_cases prefixed with inside | ⟨tail, rfl, later⟩
      · exact lockBicycle_guarded inside
      · have quiet : tail.foldl Servos.observe (Servos.both 180) = Servos.both 180 := by
          apply observe_front later
          intro gear posDegrees member
          rcases List.mem_append.mp member with acknowledged | member
          · simp [sendCmdToBLE] at acknowledged
          rcases List.mem_append.mp member with reported | located
          · exact updateFirebase_state_untouched _ _ _ gear posDegrees reported
          · exact gpsCheck_untouched tiny around _ gear posDegrees located
        rw [List.foldl_append, lockBicycle_final, quiet]
        exact .inl rfl
    · have idle : Idle (.loop lockCmd around) := ⟨close, keeps⟩
      rw [observe_front prefixed (idle_untouched tiny idle board)]
      exact .inl rfl

theorem keepsClosed_final {step : Step F} (keeps : KeepsClosed step) (board : Board G F) :
    (deviceStep tiny board step).2.foldl Servos.observe (Servos.both 180) = Servos.both 180 := by
  cases step with
  | setup value => exact keeps.elim
  | loop lockCmd around =>
    by_cases close : lockCmd = LockCmd.close.code
    · subst close
      have handled := handledClose_servos tiny board (Servos.both 180) [] around
      simp only [handledClose, Machine.run_nil, List.nil_append] at handled
      rw [deviceStep, iteration_events, List.foldl_append, handled]
      exact observe_front (List.prefix_refl _) (gpsCheck_untouched tiny around _) _
    · have idle : Idle (.loop lockCmd around) := ⟨close, keeps⟩
      exact observe_front (List.prefix_refl _) (idle_untouched tiny idle board) _

theorem afterClose_instants (good : Servos → Prop) (closed : good (Servos.both 180))
    (later : ∀ (board : Board G F) (tail : List (Event F)),
      tail <+: (Machine.run (deviceStep tiny) board after).2 →
        good (tail.foldl Servos.observe (Servos.both 180)))
    (front : List (Event F)) (prefixed : front <+: afterClose tiny start before around after) :
    good ((handledClose tiny start before around ++ front).foldl Servos.observe servos) := by
  rw [List.foldl_append, handledClose_servos]
  rcases Machine.prefix_append_cases prefixed with inside | ⟨tail, rfl, rest⟩
  · rw [observe_front inside (gpsCheck_untouched tiny around _)]
    exact closed
  · rw [List.foldl_append, observe_front (List.prefix_refl _) (gpsCheck_untouched tiny around _)]
    exact later _ tail rest

theorem idle_staysClosed (idle : ∀ step ∈ after, Idle step) :
    StaysClosed tiny start servos before around after := by
  apply afterClose_instants tiny start servos before around after (· = Servos.both 180) rfl
  intro board tail prefixed
  refine Machine.run_instants (fun _ world => world = Servos.both 180) (· = Servos.both 180)
    (fun _ _ same => same) ?_ ?_ after idle board _ rfl tail prefixed
  · intro board world step quiet closed
    subst closed
    exact observe_front (List.prefix_refl _) (idle_untouched tiny quiet board) _
  · intro board world step quiet closed front inside
    subst closed
    exact observe_front inside (idle_untouched tiny quiet board) _

def Guarded (servos : Servos) : Prop :=
  servos .lockServo = some 180 ∨ servos .mainServo = some 180

theorem keepsClosed_instants (keeps : ∀ step ∈ after, KeepsClosed step) (front : List (Event F))
    (prefixed : front <+: afterClose tiny start before around after) :
    Guarded ((handledClose tiny start before around ++ front).foldl Servos.observe servos) := by
  apply afterClose_instants tiny start servos before around after Guarded (.inl rfl) ?_ front prefixed
  intro board tail rest
  refine Machine.run_instants (fun _ world => world = Servos.both 180) Guarded ?_ ?_ ?_ after keeps
    board _ rfl tail rest
  · intro board world closed
    subst closed
    exact .inl rfl
  · intro board world step kept closed
    subst closed
    exact keepsClosed_final tiny kept board
  · intro board world step kept closed front inside
    subst closed
    exact keepsClosed_guarded tiny kept board inside

theorem keepsClosed_ends (keeps : ∀ step ∈ after, KeepsClosed step) :
    (handledClose tiny start before around ++ afterClose tiny start before around after).foldl
      Servos.observe servos = Servos.both 180 := by
  rw [List.foldl_append, handledClose_servos, afterClose, List.foldl_append,
    observe_front (List.prefix_refl _) (gpsCheck_untouched tiny around _)]
  refine Machine.run_joint (fun _ world => world = Servos.both 180) ?_ after keeps _ _ rfl
  intro board world step kept closed
  subst closed
  exact keepsClosed_final tiny kept board

/-- A closed lock stays closed until a further command or a power-up; a repeated close command
    leaves it closed again and never takes both gears off 180 together. -/
theorem closed_until_next_command :
    ((∀ step ∈ after, Idle step) → StaysClosed tiny start servos before around after) ∧
    ((∀ step ∈ after, KeepsClosed step) →
      (Machine.run (deviceStep tiny) start
        (before ++ .loop LockCmd.close.code around :: after)).2.foldl Servos.observe servos =
          Servos.both 180 ∧
      ∀ front, front <+: afterClose tiny start before around after →
        Guarded ((handledClose tiny start before around ++ front).foldl Servos.observe servos)) := by
  constructor
  · exact idle_staysClosed tiny start servos before around after
  · intro keeps
    rw [run_split_close]
    have ends := keepsClosed_ends tiny start servos before around after keeps
    exact ⟨ends, keepsClosed_instants tiny start servos before around after keeps⟩

end Run

theorem closed_until_next_command_parked :
    StaysClosed meridianGPS unpowered (fun _ => none) [.setup unpowered.value] (onMeridian 10)
      [.loop (-1) (onMeridian 90), .loop 7 (onMeridian 10)] := by
  apply (closed_until_next_command meridianGPS unpowered (fun _ => none) [.setup unpowered.value]
    (onMeridian 10) [.loop (-1) (onMeridian 90), .loop 7 (onMeridian 10)]).1
  intro step member
  simp only [List.mem_cons, List.not_mem_nil, or_false] at member
  rcases member with rfl | rfl <;> exact ⟨by decide, by decide⟩

section Moves

variable (tiny : TinyGPS G F) (start : Board G F) (servos : Servos) (before : List (Step F))
  (around : Surroundings F)

theorem not_staysClosed_of_write {step : Step F} (gear : Gear) {posDegrees : Int}
    (away : posDegrees ≠ 180)
    (writes : ∀ board, ∃ first rest,
      (deviceStep tiny board step).2 = first ++ .servoWrite gear posDegrees :: rest) :
    ¬ StaysClosed tiny start servos before around [step] := by
  intro closed
  obtain ⟨first, rest, events⟩ :=
    writes (gpsCheck tiny around (closedBoard tiny start before around)).1
  have written : (gpsCheck tiny around (closedBoard tiny start before around)).2 ++
      (first ++ [.servoWrite gear posDegrees]) <+: afterClose tiny start before around [step] := by
    rw [afterClose, Machine.run_singleton, events, List.prefix_append_right_inj]
    exact ⟨rest, by simp⟩
  have position := congrFun (closed _ written) gear
  simp only [← List.append_assoc] at position
  rw [List.foldl_append, List.foldl_cons, List.foldl_nil] at position
  simp only [Servos.observe, Function.update_self, Servos.both, Option.some.injEq] at position
  exact away position

theorem repeated_close_moves (again : Surroundings F) :
    ¬ StaysClosed tiny start servos before around [.loop LockCmd.close.code again] := by
  have first_write : ∃ rest : List (Event F),
      sweepUp .mainServo 0 = .servoWrite .mainServo 0 :: rest := ⟨_, by rw [sweepUp, if_pos (by decide)]⟩
  obtain ⟨rest, swept⟩ := first_write
  have away : (0 : Int) ≠ 180 := by decide
  apply not_staysClosed_of_write tiny start servos before around .mainServo away
  intro board
  rw [deviceStep, iteration_events, bluetoothCheck_close, obey, lockBicycle, swept]
  exact ⟨[.lockBicycle], _, rfl⟩

theorem power_up_moves (value : ValueClass F) :
    ¬ StaysClosed tiny start servos before around [.setup value] := by
  have away : (0 : Int) ≠ 180 := by decide
  exact not_staysClosed_of_write tiny start servos before around .lockServo away fun _ => ⟨[], [], rfl⟩

end Moves

theorem closed_lock_moves :
    (¬ Opens (.loop LockCmd.close.code (onMeridian 10)) ∧
      ¬ StaysClosed meridianGPS unpowered (fun _ => none) [.setup unpowered.value] (onMeridian 10)
        [.loop LockCmd.close.code (onMeridian 10)]) ∧
    (¬ Opens (.setup unpowered.value) ∧
      ¬ StaysClosed meridianGPS unpowered (fun _ => none) [.setup unpowered.value] (onMeridian 10)
        [.setup unpowered.value]) :=
  ⟨⟨LockCmd.open_ne_close.symm, repeated_close_moves _ _ _ _ _ _⟩,
    id, power_up_moves _ _ _ _ _ _⟩

end RockYou.Firmware.Safety

import RockYou.Firmware.Event

namespace RockYou.Firmware

variable {F : Type}

def setMotor : List (Event F) := [.servoWrite .lockServo 0]

/-- `for (posDegrees = ..; posDegrees <= 180; posDegrees += 5) servo.write(posDegrees)` -/
def sweepUp (gear : Gear) (posDegrees : Int) : List (Event F) :=
  if posDegrees ≤ 180 then .servoWrite gear posDegrees :: sweepUp gear (posDegrees + 5) else []
termination_by (181 - posDegrees).toNat

def sweepDown (gear : Gear) (posDegrees : Int) : List (Event F) :=
  if 0 ≤ posDegrees then .servoWrite gear posDegrees :: sweepDown gear (posDegrees - 5) else []
termination_by (posDegrees + 1).toNat

def unlockBicycle : List (Event F) :=
  .unlockBicycle :: (sweepDown .lockServo 180 ++ sweepDown .mainServo 180)

def lockBicycle : List (Event F) :=
  .lockBicycle :: (sweepUp .mainServo 0 ++ sweepUp .lockServo 0)

theorem observe_untouched {gear : Gear} {events : List (Event F)}
    (untouched : ∀ posDegrees, Event.servoWrite gear posDegrees ∉ events) (servos : Servos) :
    events.foldl Servos.observe servos gear = servos gear := by
  induction events generalizing servos with
  | nil => rfl
  | cons event events ih =>
    rw [List.foldl_cons, ih fun posDegrees member => untouched posDegrees (by simp [member])]
    cases event with
    | servoWrite other posDegrees =>
      have different : gear ≠ other := by
        intro same
        subst same
        exact untouched posDegrees (by simp)
      exact Function.update_of_ne different _ _
    | _ => rfl

theorem mem_sweepUp {gear : Gear} {start : Int} {event : Event F}
    (member : event ∈ sweepUp gear start) : ∃ posDegrees, event = .servoWrite gear posDegrees := by
  fun_induction sweepUp gear start with
  | case1 posDegrees below ih =>
    rcases List.mem_cons.mp member with rfl | later
    · exact ⟨posDegrees, rfl⟩
    · exact ih later
  | case2 => cases member

theorem mem_sweepDown {gear : Gear} {start : Int} {event : Event F}
    (member : event ∈ sweepDown gear start) :
    ∃ posDegrees, event = .servoWrite gear posDegrees := by
  fun_induction sweepDown gear start with
  | case1 posDegrees above ih =>
    rcases List.mem_cons.mp member with rfl | later
    · exact ⟨posDegrees, rfl⟩
    · exact ih later
  | case2 => cases member

theorem mem_lockBicycle {event : Event F} (member : event ∈ lockBicycle) :
    event = .lockBicycle ∨ ∃ gear posDegrees, event = .servoWrite gear posDegrees := by
  rcases List.mem_cons.mp member with same | moved
  · exact .inl same
  rcases List.mem_append.mp moved with first | second
  · exact .inr ⟨_, mem_sweepUp first⟩
  · exact .inr ⟨_, mem_sweepUp second⟩

theorem mem_unlockBicycle {event : Event F} (member : event ∈ unlockBicycle) :
    event = .unlockBicycle ∨ ∃ gear posDegrees, event = .servoWrite gear posDegrees := by
  rcases List.mem_cons.mp member with same | moved
  · exact .inl same
  rcases List.mem_append.mp moved with first | second
  · exact .inr ⟨_, mem_sweepDown first⟩
  · exact .inr ⟨_, mem_sweepDown second⟩

theorem sweepUp_final (gear : Gear) (start : Int) (below : start ≤ 180) (aligned : start % 5 = 0)
    (servos : Servos) :
    (sweepUp (F := F) gear start).foldl Servos.observe servos =
      Function.update servos gear (some 180) := by
  fun_induction sweepUp (F := F) gear start generalizing servos with
  | case1 posDegrees _ ih =>
    rw [List.foldl_cons]
    by_cases last : posDegrees = 180
    · subst last
      rw [sweepUp]
      simp [Servos.observe]
    · rw [ih (by omega) (by omega)]
      simp [Servos.observe]
  | case2 posDegrees above => omega

theorem sweepDown_final (gear : Gear) (start : Int) (above : 0 ≤ start) (aligned : start % 5 = 0)
    (servos : Servos) :
    (sweepDown (F := F) gear start).foldl Servos.observe servos =
      Function.update servos gear (some 0) := by
  fun_induction sweepDown (F := F) gear start generalizing servos with
  | case1 posDegrees _ ih =>
    rw [List.foldl_cons]
    by_cases last : posDegrees = 0
    · subst last
      rw [sweepDown]
      simp [Servos.observe]
    · rw [ih (by omega) (by omega)]
      simp [Servos.observe]
  | case2 posDegrees below => omega

def Servos.both (posDegrees : Int) : Servos := fun _ => some posDegrees

theorem lockBicycle_final (servos : Servos) :
    (lockBicycle (F := F)).foldl Servos.observe servos = Servos.both 180 := by
  rw [lockBicycle, List.foldl_cons, List.foldl_append,
    sweepUp_final _ 0 (by decide) (by decide), sweepUp_final _ 0 (by decide) (by decide)]
  funext gear
  cases gear <;> simp [Servos.both]

theorem unlockBicycle_final (servos : Servos) :
    (unlockBicycle (F := F)).foldl Servos.observe servos = Servos.both 0 := by
  rw [unlockBicycle, List.foldl_cons, List.foldl_append,
    sweepDown_final _ 180 (by decide) (by decide), sweepDown_final _ 180 (by decide) (by decide)]
  funext gear
  cases gear <;> simp [Servos.both]

theorem sweepUp_other {gear other : Gear} (different : other ≠ gear) (start : Int)
    {front : List (Event F)} (prefixed : front <+: sweepUp gear start) (servos : Servos) :
    front.foldl Servos.observe servos other = servos other := by
  apply observe_untouched
  intro posDegrees member
  obtain ⟨_, same⟩ := mem_sweepUp (prefixed.subset member)
  cases same
  exact different rfl

end RockYou.Firmware

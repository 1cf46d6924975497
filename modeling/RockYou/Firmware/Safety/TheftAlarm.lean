import RockYou.Firmware.Safety.TheftDetection

namespace RockYou.Firmware.Safety

variable {G F : Type} [Zero F] [BEq F] [LE F] [DecidableLE F] [OfNat F 4]

structure Watch (G F : Type) where
  board : Board G F
  lastFix : Option (GPSValue F)
  lockFix : Option (GPSValue F)
  lockReference : Option (GPSValue F)

section Observer

variable (tiny : TinyGPS G F)

def observedFix (around : Surroundings F) (gps : G) : Option (GPSValue F) :=
  if newData tiny around.window gps then some (decodedFix tiny around.window gps) else none

/-- The position at which the bicycle was locked, as known in the GPS step of an iteration: the
    latest fix up to the GPS step that followed the close command, or else the first one later. -/
def Watch.lockedAt (watch : Watch G F) (lockCmd : BitVec 32) (around : Surroundings F) :
    Option (GPSValue F) :=
  if lockCmd = LockCmd.close.code then
    (observedFix tiny around watch.board.gps).or watch.lastFix
  else watch.lockFix

def Watch.referenceAt (watch : Watch G F) (lockCmd : BitVec 32) : Option (GPSValue F) :=
  if lockCmd = LockCmd.close.code then some watch.board.value.preGpsValue
  else watch.lockReference

def Watch.next (watch : Watch G F) (input : BitVec 32 × Surroundings F) : Watch G F where
  board := (iteration tiny input.1 input.2 watch.board).1
  lastFix := (observedFix tiny input.2 watch.board.gps).or watch.lastFix
  lockFix := (watch.lockedAt tiny input.1 input.2).or (observedFix tiny input.2 watch.board.gps)
  lockReference := watch.referenceAt input.1

def watched (value : ValueClass F) (before : List (BitVec 32 × Surroundings F)) : Watch G F :=
  before.foldl (Watch.next tiny)
    { board := (powerUp tiny value).1, lastFix := none, lockFix := none, lockReference := none }

def Alarms (lockCmd : BitVec 32) (around : Surroundings F) (board : Board G F) : Prop :=
  (bluetoothCheck lockCmd around.commandLink board).1.value.state = BicycleState.locked.value ∧
    (iteration tiny lockCmd around board).1.value.state = BicycleState.steel.value

/-- Every alarm is raised by a new fix 4 m away from where the bicycle was locked. -/
def NoFalseAlarm : Prop :=
  ∀ value before lockCmd around,
    Alarms tiny lockCmd around (watched tiny value before).board →
      newData tiny around.window (watched tiny value before).board.gps = true ∧
        ∃ position ∈ (watched tiny value before).lockedAt tiny lockCmd around,
          4 ≤ tiny.distance (decodedFix tiny around.window (watched tiny value before).board.gps)
            position

theorem watched_append (value : ValueClass F) (before : List (BitVec 32 × Surroundings F))
    (input : BitVec 32 × Surroundings F) :
    watched tiny value (before ++ [input]) = (watched tiny value before).next tiny input := by
  simp [watched]

end Observer

section Reference

variable {tiny : TinyGPS G F}

omit [Zero F] [BEq F] [LE F] [DecidableLE F] [OfNat F 4] in
theorem bluetoothCheck_locked {lockCmd : BitVec 32} {link : Link} {board : Board G F}
    (locked : (bluetoothCheck lockCmd link board).1.value.state = BicycleState.locked.value) :
    lockCmd = LockCmd.close.code ∨
      (lockCmd ≠ LockCmd.close.code ∧ board.value.state = BicycleState.locked.value) := by
  by_cases close : lockCmd = LockCmd.close.code
  · exact .inl close
  by_cases opening : lockCmd = LockCmd.open.code
  · rw [opening, bluetoothCheck_open, obey_board] at locked
    simp at locked
  · rw [bluetoothCheck_other _ _ close opening] at locked
    exact .inr ⟨close, locked⟩

def ReferenceHeld (watch : Watch G F) : Prop :=
  watch.board.value.state = BicycleState.locked.value →
    watch.lockReference = some watch.board.value.preGpsValue

omit [Zero F] [BEq F] [LE F] [DecidableLE F] [OfNat F 4] in
theorem referenceAt_held {watch : Watch G F} (held : ReferenceHeld watch) {lockCmd : BitVec 32}
    {link : Link}
    (locked : (bluetoothCheck lockCmd link watch.board).1.value.state =
      BicycleState.locked.value) :
    watch.referenceAt lockCmd = some watch.board.value.preGpsValue := by
  rcases bluetoothCheck_locked locked with close | ⟨notClose, already⟩
  · exact if_pos close
  · exact (if_neg notClose).trans (held already)

theorem next_held (watch : Watch G F) (held : ReferenceHeld watch)
    (input : BitVec 32 × Surroundings F) : ReferenceHeld (watch.next tiny input) := by
  intro locked
  have same := (bluetoothCheck_frame input.2.commandLink watch.board input.1).1
  obtain ⟨already, _, frozen⟩ := gpsCheck_still_locked locked
  have kept : (watch.next tiny input).board.value.preGpsValue =
      watch.board.value.preGpsValue := frozen.trans same
  rw [kept]
  exact referenceAt_held held already

theorem watched_held (value : ValueClass F) (before : List (BitVec 32 × Surroundings F)) :
    ReferenceHeld (watched tiny value before) := by
  induction before using List.reverseRecOn with
  | nil =>
    intro locked
    simp [watched, powerUp, setup, ValueClass.initValue] at locked
  | append_singleton before input ih =>
    rw [watched_append]
    exact next_held _ ih input

def Near (tiny : TinyGPS G F) (position stored : GPSValue F) : Prop :=
  position = stored ∨ ¬ 4 ≤ tiny.distance position stored

theorem gpsCheck_near {around : Surroundings F} {board : Board G F}
    (decoded : newData tiny around.window board.gps = true) :
    Near tiny (decodedFix tiny around.window board.gps)
      (gpsCheck tiny around board).1.value.preGpsValue := by
  have fix : returnedFix tiny around board = decodedFix tiny around.window board.gps :=
    getGPSValue_of_newData decoded _
  rcases gpsCheck_cases tiny around board with
    ⟨near, result⟩ | ⟨_, _, result⟩ | ⟨_, _, result⟩ <;> rw [result]
  · right
    intro far
    apply near
    by_cases stored : (board.value.preGpsValue.latitude != 0) = true
    · exact (exceeds_iff stored decoded).mpr far
    · exact .inr (by simpa [bne] using stored)
  · exact .inl fix.symm
  · exact .inl fix.symm

def LockedNear (tiny : TinyGPS G F) (watch : Watch G F) : Prop :=
  watch.board.value.state = BicycleState.locked.value →
    ∀ position ∈ watch.lockFix, Near tiny position watch.board.value.preGpsValue

theorem iteration_near {lockCmd : BitVec 32} {around : Surroundings F} {board : Board G F}
    (decoded : newData tiny around.window board.gps = true) :
    Near tiny (decodedFix tiny around.window board.gps)
      (iteration tiny lockCmd around board).1.value.preGpsValue := by
  have same := (bluetoothCheck_frame around.commandLink board lockCmd).2
  rw [← same] at decoded ⊢
  exact gpsCheck_near decoded

theorem next_lockedNear (watch : Watch G F) (near : LockedNear tiny watch)
    (input : BitVec 32 × Surroundings F)
    (decoded : newData tiny input.2.window watch.board.gps = true) :
    LockedNear tiny (watch.next tiny input) := by
  intro locked position member
  have observed : observedFix tiny input.2 watch.board.gps =
      some (decodedFix tiny input.2.window watch.board.gps) := if_pos decoded
  have latest : Near tiny (decodedFix tiny input.2.window watch.board.gps)
      (watch.next tiny input).board.value.preGpsValue := iteration_near decoded
  obtain ⟨checked, _, frozen⟩ := gpsCheck_still_locked locked
  have kept : (watch.next tiny input).board.value.preGpsValue =
      watch.board.value.preGpsValue :=
    frozen.trans (bluetoothCheck_frame input.2.commandLink watch.board input.1).1
  rcases bluetoothCheck_locked checked with close | ⟨notClose, already⟩
  · have fix : (watch.next tiny input).lockFix =
        some (decodedFix tiny input.2.window watch.board.gps) := by
      simp [Watch.next, Watch.lockedAt, close, observed]
    rw [fix, Option.mem_some_iff] at member
    exact member ▸ latest
  · have fix : (watch.next tiny input).lockFix =
        watch.lockFix.or (some (decodedFix tiny input.2.window watch.board.gps)) := by
      simp [Watch.next, Watch.lockedAt, notClose, observed]
    rw [fix] at member
    cases before : watch.lockFix with
    | none =>
      rw [before, Option.none_or, Option.mem_some_iff] at member
      exact member ▸ latest
    | some earlier =>
      rw [before, Option.some_or, Option.mem_some_iff] at member
      rw [kept]
      exact near already position (by rw [before, member]; rfl)

theorem alarm_far {lockCmd : BitVec 32} {around : Surroundings F} {board : Board G F}
    (alarm : Alarms tiny lockCmd around board)
    (stored : (board.value.preGpsValue.latitude != 0) = true)
    (decoded : newData tiny around.window board.gps = true) :
    4 ≤ tiny.distance (decodedFix tiny around.window board.gps) board.value.preGpsValue := by
  obtain ⟨locked, stolen⟩ := alarm
  obtain ⟨samePosition, sameDecoder⟩ := bluetoothCheck_frame around.commandLink board lockCmd
  rw [← samePosition] at stored ⊢
  rw [← sameDecoder] at decoded ⊢
  apply (exceeds_iff stored decoded).mp
  by_contra near
  rw [iteration_board, gpsCheck_quiet _ _ _ near, locked] at stolen
  simp at stolen

def Receives (tiny : TinyGPS G F) (value : ValueClass F)
    (before : List (BitVec 32 × Surroundings F)) : Prop :=
  ∀ earlier input, earlier ++ [input] <+: before →
    newData tiny input.2.window (watched tiny value earlier).board.gps = true

theorem watched_lockedNear (value : ValueClass F) (before : List (BitVec 32 × Surroundings F))
    (receives : Receives tiny value before) : LockedNear tiny (watched tiny value before) := by
  induction before using List.reverseRecOn with
  | nil =>
    intro _ position member
    cases member
  | append_singleton before input ih =>
    rw [watched_append]
    apply next_lockedNear
    · apply ih
      intro earlier other prefixed
      exact receives earlier other (prefixed.trans (List.prefix_append _ _))
    · exact receives before input (List.prefix_refl _)

end Reference

/-- An alarm on a new fix and a stored position compares with the position stored at the close
    command, and where a sentence completes in every iteration the bicycle was locked near it. -/
theorem alarm_far_from_reference (tiny : TinyGPS G F) (value : ValueClass F)
    (before : List (BitVec 32 × Surroundings F)) (lockCmd : BitVec 32) (around : Surroundings F)
    (alarm : Alarms tiny lockCmd around (watched tiny value before).board)
    (stored : ((watched tiny value before).board.value.preGpsValue.latitude != 0) = true)
    (decoded : newData tiny around.window (watched tiny value before).board.gps = true) :
    ∃ reference, (watched tiny value before).referenceAt lockCmd = some reference ∧
      (watched tiny value before).board.value.preGpsValue = reference ∧
      4 ≤ tiny.distance
        (decodedFix tiny around.window (watched tiny value before).board.gps) reference ∧
      (Receives tiny value before → lockCmd ≠ LockCmd.close.code →
        ∀ position ∈ (watched tiny value before).lockFix, Near tiny position reference) := by
  obtain ⟨locked, stolen⟩ := alarm
  refine ⟨_, referenceAt_held (watched_held value before) locked, rfl,
    alarm_far ⟨locked, stolen⟩ stored decoded, ?_⟩
  intro receives notClose
  rcases bluetoothCheck_locked locked with close | ⟨_, already⟩
  · exact absurd close notClose
  · exact watched_lockedNear value before receives already

def driftAndLock : List (BitVec 32 × Surroundings Int) :=
  [(-1, onMeridian 10), (-1, onMeridian 13), (LockCmd.close.code, onMeridian 13)]

theorem alarm_far_from_reference_drift :
    ∃ reference,
      (watched meridianGPS unpowered.value driftAndLock).referenceAt (-1) = some reference ∧
      (watched meridianGPS unpowered.value driftAndLock).board.value.preGpsValue = reference ∧
      4 ≤ meridianGPS.distance (decodedFix meridianGPS (onMeridian 14).window
        (watched meridianGPS unpowered.value driftAndLock).board.gps) reference ∧
      (Receives meridianGPS unpowered.value driftAndLock → (-1 : BitVec 32) ≠ LockCmd.close.code →
        ∀ position ∈ (watched meridianGPS unpowered.value driftAndLock).lockFix,
          Near meridianGPS position reference) :=
  alarm_far_from_reference meridianGPS unpowered.value driftAndLock (-1) (onMeridian 14)
    (by unfold Alarms; decide) (by decide) (by decide)

theorem false_alarm_near_the_lock : ¬ NoFalseAlarm meridianGPS := by
  intro claimed
  obtain ⟨_, position, member, far⟩ :=
    claimed unpowered.value driftAndLock (-1) (onMeridian 14) (by unfold Alarms; decide)
  have lockedAt : (watched meridianGPS unpowered.value driftAndLock).lockedAt meridianGPS (-1)
      (onMeridian 14) = some { latitude := 13, longitude := 1 } := by decide
  rw [lockedAt, Option.mem_some_iff] at member
  subst member
  revert far
  decide

end RockYou.Firmware.Safety

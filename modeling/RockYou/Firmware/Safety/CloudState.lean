import Mathlib
import RockYou.Library.Machine
import RockYou.Firmware.Sketch

namespace RockYou.Firmware.Safety

open Cloud

variable {G F : Type}

inductive Report where
  | absent
  | lost
  | delivered
  deriving DecidableEq

def Report.observe (report : Report) : Event F → Report
  | .updateFirebase .state _ => .lost
  | .patchDocument updateMask _ true => if "state" ∈ updateMask then .delivered else report
  | _ => report

def Silent (event : Event F) : Prop :=
  ¬ event.Patches "state" ∧ ∀ data, event ≠ .updateFirebase .state data

theorem silent_report {events : List (Event F)} (silent : ∀ event ∈ events, Silent event)
    (report : Report) : events.foldl Report.observe report = report := by
  induction events with
  | nil => rfl
  | cons event events ih =>
    have first : Report.observe report event = report := by
      obtain ⟨unpatched, uncalled⟩ := silent event (by simp)
      cases event with
      | updateFirebase updateValue data =>
        cases updateValue with
        | state => exact absurd rfl (uncalled data)
        | _ => rfl
      | patchDocument updateMask content succeeded =>
        cases succeeded with
        | false => rfl
        | true => exact if_neg unpatched
      | _ => rfl
    rw [List.foldl_cons, first]
    exact ih fun other member => silent other (List.mem_cons_of_mem _ member)

theorem updateFirebase_report (data : Int) (link : Link) (content : FirebaseJson F)
    (report : Report) :
    (updateFirebase .state data link content).2.foldl Report.observe report =
      if link = .delivered then .delivered else .lost := by
  cases link <;> rfl

theorem obey_report (motor : List (Event F)) (state : BicycleState) (link : Link)
    (board : Board G F) (report : Report) :
    (obey motor state link board).2.foldl Report.observe report =
      if link = .delivered then .delivered else .lost := by
  rw [obey_events, List.foldl_append]
  exact updateFirebase_report _ _ _ _

variable [Zero F]

def Agrees (report : Report) (bicycle : Collection F) (state : Int) : Prop :=
  report = .delivered → deviceField bicycle "state" = some (.integer state)

theorem silent_agrees {events : List (Event F)} (silent : ∀ event ∈ events, Silent event)
    {report : Report} {bicycle : Collection F} {state : Int}
    (agrees : Agrees report bicycle state) :
    Agrees (events.foldl Report.observe report) (events.foldl observeCloud bicycle) state := by
  intro delivered
  rw [silent_report silent] at delivered
  have unpatched : ∀ event ∈ events, ¬ event.Patches "state" :=
    fun event member => (silent event member).1
  rw [observeCloud_fields unpatched]
  exact agrees delivered

theorem updateFirebase_agrees (data : Int) (link : Link) (content : FirebaseJson F)
    (report : Report) (bicycle : Collection F) :
    Agrees ((updateFirebase .state data link content).2.foldl Report.observe report)
      ((updateFirebase .state data link content).2.foldl observeCloud bicycle) data := by
  intro delivered
  rw [updateFirebase_report] at delivered
  rw [updateFirebase_field]
  cases link with
  | delivered => rfl
  | _ => simp at delivered

theorem lockBicycle_cloud (bicycle : Collection F) :
    lockBicycle.foldl observeCloud bicycle = bicycle := by
  apply observeCloud_unpatched
  intro event member updateMask content
  rcases mem_lockBicycle member with rfl | ⟨_, _, rfl⟩ <;> exact nofun

theorem obey_agrees (motor : List (Event F)) (state : BicycleState) (link : Link)
    (board : Board G F) (report : Report) (bicycle : Collection F) :
    Agrees ((obey motor state link board).2.foldl Report.observe report)
      ((obey motor state link board).2.foldl observeCloud bicycle)
      (obey motor state link board).1.value.state := by
  simp only [obey_events, List.foldl_append]
  exact updateFirebase_agrees state.value link board.content _ _

variable [BEq F] [LE F] [DecidableLE F] [OfNat F 4]

section Iteration

variable (tiny : TinyGPS G F) (around : Surroundings F)

omit [Zero F] [BEq F] [LE F] [DecidableLE F] [OfNat F 4] in
theorem reportPosition_silent (board : Board G F) {event : Event F}
    (member : event ∈ (reportPosition tiny around board).2) : Silent event := by
  rcases mem_reportPosition tiny around board member with ⟨_, _, rfl⟩ | ⟨_, succeeded, rfl⟩
  · exact ⟨id, nofun⟩
  · refine ⟨?_, nofun⟩
    cases succeeded <;> simp [Event.Patches]

omit [Zero F] [BEq F] [LE F] [DecidableLE F] [OfNat F 4] in
theorem bluetoothCheck_silent {lockCmd : BitVec 32} {link : Link} {board : Board G F}
    (close : lockCmd ≠ LockCmd.close.code) (opening : lockCmd ≠ LockCmd.open.code) :
    ∀ event ∈ (bluetoothCheck lockCmd link board).2, Silent event := by
  intro event member
  rw [bluetoothCheck_other _ _ close opening] at member
  dsimp only at member
  split at member
  · cases member
  · rw [List.mem_singleton.mp member]
    exact ⟨id, nofun⟩

omit [BEq F] [LE F] [DecidableLE F] [OfNat F 4] in
theorem bluetoothCheck_agrees (lockCmd : BitVec 32) (link : Link) (board : Board G F)
    {report : Report} {bicycle : Collection F} (agrees : Agrees report bicycle board.value.state) :
    Agrees ((bluetoothCheck lockCmd link board).2.foldl Report.observe report)
      ((bluetoothCheck lockCmd link board).2.foldl observeCloud bicycle)
      (bluetoothCheck lockCmd link board).1.value.state := by
  by_cases close : lockCmd = LockCmd.close.code
  · rw [close, bluetoothCheck_close]
    exact obey_agrees _ _ _ _ _ _
  by_cases opening : lockCmd = LockCmd.open.code
  · rw [opening, bluetoothCheck_open]
    exact obey_agrees _ _ _ _ _ _
  · have silent := @bluetoothCheck_silent _ _ _ link board close opening
    rw [bluetoothCheck_other _ _ close opening] at silent ⊢
    exact silent_agrees silent agrees

theorem gpsCheck_agrees (board : Board G F) {report : Report} {bicycle : Collection F}
    (agrees : Agrees report bicycle board.value.state) :
    Agrees ((gpsCheck tiny around board).2.foldl Report.observe report)
      ((gpsCheck tiny around board).2.foldl observeCloud bicycle)
      (gpsCheck tiny around board).1.value.state := by
  rcases gpsCheck_cases tiny around board with
    ⟨_, result⟩ | ⟨_, _, result⟩ | ⟨_, _, result⟩ <;> rw [result]
  · exact agrees
  · exact silent_agrees (fun event => reportPosition_silent tiny around board) agrees
  · rw [List.foldl_append, List.foldl_append]
    exact updateFirebase_agrees _ _ _ _ _

theorem iteration_agrees (lockCmd : BitVec 32) (board : Board G F) {report : Report}
    {bicycle : Collection F} (agrees : Agrees report bicycle board.value.state) :
    Agrees ((iteration tiny lockCmd around board).2.foldl Report.observe report)
      ((iteration tiny lockCmd around board).2.foldl observeCloud bicycle)
      (iteration tiny lockCmd around board).1.value.state := by
  rw [iteration_board, iteration_events, List.foldl_append, List.foldl_append]
  exact gpsCheck_agrees tiny around _ (bluetoothCheck_agrees lockCmd _ _ agrees)

omit [Zero F] [BEq F] [LE F] [DecidableLE F] [OfNat F 4] in
theorem bluetoothCheck_delivered {lockCmd : BitVec 32} {board : Board G F}
    (changed : (bluetoothCheck lockCmd .delivered board).1.value.state ≠ board.value.state)
    (report : Report) :
    (bluetoothCheck lockCmd .delivered board).2.foldl Report.observe report = .delivered := by
  by_cases close : lockCmd = LockCmd.close.code
  · rw [close, bluetoothCheck_close]
    exact obey_report _ _ _ _ _
  by_cases opening : lockCmd = LockCmd.open.code
  · rw [opening, bluetoothCheck_open]
    exact obey_report _ _ _ _ _
  · rw [bluetoothCheck_other _ _ close opening] at changed
    exact absurd rfl changed

theorem gpsCheck_delivered {board : Board G F} (link : around.theftLink = .delivered)
    {report : Report}
    (reported : (gpsCheck tiny around board).1.value.state = board.value.state →
      report = .delivered) :
    (gpsCheck tiny around board).2.foldl Report.observe report = .delivered := by
  rcases gpsCheck_cases tiny around board with
    ⟨_, result⟩ | ⟨_, _, result⟩ | ⟨_, _, result⟩ <;> rw [result] at reported ⊢
  · exact reported rfl
  · rw [silent_report fun event => reportPosition_silent tiny around board]
    exact reported rfl
  · rw [List.foldl_append, updateFirebase_report, link]
    rfl

theorem iteration_delivered {lockCmd : BitVec 32} {board : Board G F}
    (commandLink : around.commandLink = .delivered) (theftLink : around.theftLink = .delivered)
    (changed : (iteration tiny lockCmd around board).1.value.state ≠ board.value.state)
    (report : Report) :
    (iteration tiny lockCmd around board).2.foldl Report.observe report = .delivered := by
  rw [iteration_events, List.foldl_append]
  apply gpsCheck_delivered tiny around theftLink
  intro same
  rw [iteration_board, same] at changed
  rw [commandLink] at changed ⊢
  exact bluetoothCheck_delivered changed report

/-- The steps that report the state: a command, also a repeated one, or a theft. -/
def Reports (board : Board G F) : Step F → Prop
  | .setup _ => False
  | .loop lockCmd around =>
    lockCmd = LockCmd.close.code ∨ lockCmd = LockCmd.open.code ∨
      ((bluetoothCheck lockCmd around.commandLink board).1.value.state =
          BicycleState.locked.value ∧
        Exceeds tiny around (bluetoothCheck lockCmd around.commandLink board).1)

theorem deviceStep_silent {board : Board G F} {step : Step F}
    (unreported : ¬ Reports tiny board step) :
    ∀ event ∈ (deviceStep tiny board step).2, Silent event := by
  intro event member
  cases step with
  | setup value =>
    rw [List.mem_singleton.mp member]
    exact ⟨id, nofun⟩
  | loop lockCmd around =>
    obtain ⟨close, opening, harmless⟩ : lockCmd ≠ LockCmd.close.code ∧
        lockCmd ≠ LockCmd.open.code ∧ _ := by simpa only [Reports, not_or] using unreported
    rw [deviceStep, iteration_events] at member
    rcases List.mem_append.mp member with checked | located
    · exact bluetoothCheck_silent close opening event checked
    · rcases gpsCheck_cases tiny around (bluetoothCheck lockCmd around.commandLink board).1 with
        ⟨_, result⟩ | ⟨_, _, result⟩ | ⟨far, locked, _⟩
      · rw [result] at located
        cases located
      · rw [result] at located
        exact reportPosition_silent tiny around _ located
      · exact absurd ⟨locked, far⟩ harmless

omit [Zero F] [BEq F] [LE F] [DecidableLE F] [OfNat F 4] in
theorem obey_reports (motor : List (Event F)) (state : BicycleState) (link : Link)
    (board : Board G F) :
    .updateFirebase .state state.value ∈ (obey motor state link board).2 := by
  rw [obey_events, updateFirebase_state]
  exact List.mem_append_right _ (List.mem_cons_self ..)

theorem deviceStep_reports {board : Board G F} {step : Step F}
    (reports : Reports tiny board step) :
    ∃ data, .updateFirebase .state data ∈ (deviceStep tiny board step).2 := by
  cases step with
  | setup value => exact reports.elim
  | loop lockCmd around =>
    rw [deviceStep, iteration_events]
    rcases reports with rfl | rfl | ⟨locked, far⟩
    · rw [bluetoothCheck_close]
      exact ⟨_, List.mem_append_left _ (obey_reports ..)⟩
    · rw [bluetoothCheck_open]
      exact ⟨_, List.mem_append_left _ (obey_reports ..)⟩
    · rw [gpsCheck_theft tiny around _ far locked, updateFirebase_state]
      exact ⟨_, List.mem_append_right _ (List.mem_append_right _ (List.mem_cons_self ..))⟩

theorem reports_iff (board : Board G F) (step : Step F) :
    (∃ event ∈ (deviceStep tiny board step).2, ¬ Silent event) ↔ Reports tiny board step := by
  constructor
  · rintro ⟨event, member, loud⟩
    by_contra unreported
    exact loud (deviceStep_silent tiny unreported event member)
  · intro reports
    obtain ⟨data, member⟩ := deviceStep_reports tiny reports
    exact ⟨_, member, fun silent => silent.2 data rfl⟩

end Iteration

section Runs

variable (tiny : TinyGPS G F)

structure Observed (G F : Type) where
  board : Board G F
  bicycle : Collection F
  report : Report

def observedStep (observed : Observed G F) (step : Step F) : Observed G F × List (Event F) :=
  let (board, events) := deviceStep tiny observed.board step
  let report := match step with
    | .setup _ => .absent
    | .loop _ _ => observed.report
  ({ board := board
     bicycle := events.foldl observeCloud observed.bicycle
     report := events.foldl Report.observe report }, events)

def poweredOn (value : ValueClass F) (bicycle : Collection F) : Observed G F where
  board := (powerUp tiny value).1
  bicycle := bicycle
  report := .absent

def Connected (around : Surroundings F) : Prop :=
  around.commandLink = .delivered ∧ around.latitudeLink = .delivered ∧
    around.longitudeLink = .delivered ∧ around.theftLink = .delivered

def Observed.Agrees (observed : Observed G F) : Prop :=
  Safety.Agrees observed.report observed.bicycle observed.board.value.state

theorem observedStep_agrees (observed : Observed G F) (step : Step F) (agrees : observed.Agrees) :
    (observedStep tiny observed step).1.Agrees := by
  cases step with
  | setup value =>
    intro delivered
    cases delivered
  | loop lockCmd around => exact iteration_agrees tiny around lockCmd observed.board agrees

theorem observedStep_close (observed : Observed G F) (around : Surroundings F) :
    (observedStep tiny observed (.loop LockCmd.close.code around)).1.bicycle =
      (gpsCheck tiny around
        (obey lockBicycle .locked around.commandLink observed.board).1).2.foldl observeCloud
        ((updateFirebase .state BicycleState.locked.value around.commandLink
          observed.board.content).2.foldl observeCloud observed.bicycle) := by
  simp only [observedStep, deviceStep, iteration_events, bluetoothCheck_close, obey_events,
    List.foldl_append, lockBicycle_cloud]
  rfl

/-- After every run: a report whose patch was delivered since the power-up, and after which none
    was lost, is what the document shows, in particular after every change of the state with a
    working network; a step that delivers no state patch leaves the field as it was; and the steps
    that report the state are the commands and the thefts, so no power-up does. -/
theorem cloud_shows_delivered_report (value : ValueClass F) (bicycle : Collection F)
    (steps : List (Step F)) :
    let after := (Machine.run (observedStep tiny) (poweredOn tiny value bicycle) steps).1
    (after.report = .delivered →
      deviceField after.bicycle "state" = some (.integer after.board.value.state)) ∧
    (∀ lockCmd around, Connected around →
      (iteration tiny lockCmd around after.board).1.value.state ≠ after.board.value.state →
        deviceField (observedStep tiny after (.loop lockCmd around)).1.bicycle "state" =
          some (.integer (observedStep tiny after (.loop lockCmd around)).1.board.value.state)) ∧
    (∀ step, (∀ event ∈ (deviceStep tiny after.board step).2, ¬ event.Patches "state") →
      deviceField (observedStep tiny after step).1.bicycle "state" =
        deviceField after.bicycle "state") ∧
    ∀ step, (∃ event ∈ (deviceStep tiny after.board step).2, ¬ Silent event) ↔
      Reports tiny after.board step := by
  intro after
  have agrees : after.Agrees := by
    apply Machine.run_invariant Observed.Agrees (fun state step _ => observedStep_agrees tiny state step)
      steps (fun _ _ => True.intro) (poweredOn tiny value bicycle)
    exact nofun
  refine ⟨agrees, ?_, ?_, reports_iff tiny after.board⟩
  · intro lockCmd around connected changed
    apply observedStep_agrees tiny after (.loop lockCmd around) agrees
    exact iteration_delivered tiny around connected.1 connected.2.2.2 changed after.report
  · intro step unpatched
    exact observeCloud_fields unpatched after.bicycle

def CloudRecovers : Prop :=
  ∀ value bicycle steps lockCmd around,
    deviceField bicycle "state" = some (.integer BicycleState.drive.value) →
    Connected around →
      let before := (Machine.run (observedStep tiny) (poweredOn tiny value bicycle) steps).1
      let after := (observedStep tiny before (.loop lockCmd around)).1
      deviceField after.bicycle "state" = some (.integer after.board.value.state)

end Runs

def registeredBicycle : Collection Int :=
  DocumentStore.setData bicycleId
    (Function.update DocumentStore.Document.empty "state"
      (some (.integer BicycleState.drive.value))) ∅

theorem cloud_shows_delivered_report_locked :
    deviceField (observedStep meridianGPS
      (Machine.run (observedStep meridianGPS)
        (poweredOn meridianGPS unpowered.value registeredBicycle) [.loop (-1) (onMeridian 10)]).1
      (.loop LockCmd.close.code (onMeridian 10))).1.bicycle "state" =
        some (.integer BicycleState.locked.value) :=
  (cloud_shows_delivered_report meridianGPS unpowered.value registeredBicycle
    [.loop (-1) (onMeridian 10)]).2.1 LockCmd.close.code (onMeridian 10) ⟨rfl, rfl, rfl, rfl⟩
    (by decide)

def disconnected : Surroundings Int := { onMeridian 10 with commandLink := .failed }

/-- A lock command whose patch was dropped is not made up for by a connected iteration. -/
theorem lost_report_stays_lost : ¬ CloudRecovers meridianGPS := by
  intro recovers
  have stale := recovers unpowered.value registeredBicycle
    [.loop (-1) (onMeridian 10), .loop LockCmd.close.code disconnected] (-1) (onMeridian 10) rfl
    ⟨rfl, rfl, rfl, rfl⟩
  have later (observed : Observed (GPSValue Int) Int) :
      (observedStep meridianGPS observed (.loop (-1) (onMeridian 10))).1.bicycle =
        (iteration meridianGPS (-1) (onMeridian 10) observed.board).2.foldl observeCloud
          observed.bicycle := rfl
  simp only [Machine.run_cons, Machine.run_nil, later, observedStep_close] at stale
  revert stale
  decide

end RockYou.Firmware.Safety

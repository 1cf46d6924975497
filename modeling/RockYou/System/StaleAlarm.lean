import Mathlib
import RockYou.App.Safety.AlarmRows

namespace RockYou.System

open Cloud App App.Safety Machine Roster

variable {F : Type}

/-- A snapshot on its way to the callback; `outdated` are the bicycles whose alarm was deleted after
    it was taken. -/
structure Answer (F : Type) where
  documents : List (QueryDocument F)
  outdated : List String

/-- The collection with one `AlarmViewController`: its queries without a snapshot so far, the
    snapshots not yet delivered, and the bicycles whose alarm was deleted with no state 2 written
    to their documents since. -/
structure Monitor (F : Type) where
  bicycle : Collection F
  alarm : AlarmController
  requests : Nat
  answers : List (Answer F)
  dismissed : List String

inductive MonitorMove (F : Type) where
  | patch (id : String) (updateMask : List String) (content : Document F)
  | register (id bicycleNickname uid : String)
  | remove (ids : List String)
  | request
  | answer (documents : List (QueryDocument F))
  | deliver (before : List (Answer F)) (answer : Answer F) (after : List (Answer F))
  | refresh
  | delete (row : Nat)

def ReportsTheft (updateMask : List String) (content : Document F) : Prop :=
  "state" ∈ updateMask ∧ FieldValue.asInt (content "state") = some 2

instance (updateMask : List String) (content : Document F) :
    Decidable (ReportsTheft updateMask content) :=
  inferInstanceAs (Decidable (_ ∧ _))

namespace Monitor

def start (bicycle : Collection F) (alarm : AlarmController) : Monitor F where
  bicycle := bicycle
  alarm := alarm
  requests := 0
  answers := []
  dismissed := []

def patch (id : String) (updateMask : List String) (content : Document F) (monitor : Monitor F) :
    Monitor F :=
  { monitor with
    bicycle := DocumentStore.patch id updateMask content monitor.bicycle
    dismissed := if ReportsTheft updateMask content then monitor.dismissed.filter (· ≠ id)
      else monitor.dismissed }

def dismiss (id : String) (alarm : AlarmController) (monitor : Monitor F) : Monitor F :=
  let ids := if (monitor.bicycle.lookup id).isSome then [id] else []
  { monitor with
    bicycle := resetState id monitor.bicycle
    alarm := alarm
    answers := monitor.answers.map fun answer => { answer with outdated := ids ++ answer.outdated }
    dismissed := ids ++ monitor.dismissed }

end Monitor

/-- A write of a device or another client, a registration, a removal, or a step of the controller;
    a snapshot is taken between its request and its delivery, and delivered in any order. -/
def MonitorMoves (userid : String) (monitor : Monitor F) : MonitorMove F → Monitor F → Prop
  | .patch id updateMask content, next => next = monitor.patch id updateMask content
  | .register id bicycleNickname uid, next =>
    next = { monitor with
      bicycle := DocumentStore.setData id (registeredDocument bicycleNickname 0 uid)
        monitor.bicycle }
  | .remove ids, next =>
    next = { monitor with bicycle := DocumentStore.deleteAll ids monitor.bicycle }
  | .request, next => next = { monitor with requests := monitor.requests + 1 }
  | .answer documents, next =>
    0 < monitor.requests ∧ DocumentStore.Snapshot monitor.bicycle documents ∧
      next = { monitor with
        requests := monitor.requests - 1
        answers := monitor.answers ++ [{ documents := documents, outdated := [] }] }
  | .deliver before answer after, next =>
    monitor.answers = before ++ answer :: after ∧
      ∃ alarm, (stateCheck userid answer.documents monitor.alarm).state? = some alarm ∧
        next = { monitor with alarm := alarm, answers := before ++ after }
  | .refresh, next => next = { monitor with alarm := resetBtnDidTap monitor.alarm }
  | .delete row, next =>
    ∃ document alarm, commitDelete row monitor.alarm = some (document, alarm) ∧
      next = monitor.dismiss document alarm

def NotReraised (monitor : Monitor F) : MonitorMove F → Monitor F → Prop
  | .deliver .., next =>
    ∀ id ∈ monitor.dismissed, next.alarm.arr.count id ≤ monitor.alarm.arr.count id
  | _, _ => True

/-- A delivered snapshot does not ask for an unlisted alarm of a bicycle whose alarm was deleted
    after the snapshot was taken. -/
def NothingStale (userid : String) (monitor : Monitor F) : MonitorMove F → Monitor F → Prop
  | .deliver _ answer _, _ =>
    ∀ id ∈ monitor.dismissed, id ∈ answer.outdated →
      ¬ Enters (monitor.alarm.alarmDatas, monitor.alarm.arr) (alerts userid answer.documents) id
  | _, _ => True

def NotStolen (document : Document F) : Prop := FieldValue.asInt (document "state") ≠ some 2

/-- No dismissed bicycle is stolen, in the collection or in a snapshot taken since. -/
structure Settled (monitor : Monitor F) : Prop where
  stored : ∀ id ∈ monitor.dismissed, ∀ content, monitor.bicycle.lookup id = some content →
    NotStolen content
  answered : ∀ answer ∈ monitor.answers, ∀ id ∈ monitor.dismissed, id ∉ answer.outdated →
    ∀ content, ⟨id, content⟩ ∈ answer.documents → NotStolen content

variable {userid : String} {monitor next : Monitor F}

theorem Settled.change (settled : Settled monitor) {bicycle : Collection F}
    {dismissed : List String} (fewer : ∀ id ∈ dismissed, id ∈ monitor.dismissed)
    (stored : ∀ id ∈ dismissed, ∀ content, bicycle.lookup id = some content →
      NotStolen content) :
    Settled { monitor with bicycle := bicycle, dismissed := dismissed } where
  stored := stored
  answered := fun answer member id old => settled.answered answer member id (fewer id old)

theorem settled_patch (settled : Settled monitor) (id : String) (updateMask : List String)
    (content : Document F) : Settled (monitor.patch id updateMask content) := by
  have fewer : ∀ other ∈ (monitor.patch id updateMask content).dismissed,
      other ∈ monitor.dismissed ∧ (other = id → ¬ ReportsTheft updateMask content) := by
    intro other member
    by_cases theft : ReportsTheft updateMask content
    · simp only [Monitor.patch, if_pos theft, List.mem_filter, decide_eq_true_eq] at member
      exact ⟨member.1, fun same => absurd same member.2⟩
    · simp only [Monitor.patch, if_neg theft] at member
      exact ⟨member, fun _ => theft⟩
  apply settled.change fun other member => (fewer other member).1
  intro other member later found
  obtain ⟨old, quiet⟩ := fewer other member
  by_cases same : other = id
  · subst same
    rw [DocumentStore.lookup_patch, Option.some.injEq] at found
    rw [← found, NotStolen]
    by_cases masked : "state" ∈ updateMask
    · rw [DocumentStore.Document.patch_masked masked]
      exact fun theft => quiet rfl ⟨masked, theft⟩
    · rw [DocumentStore.Document.patch_unmasked masked]
      cases before : monitor.bicycle.lookup other with
      | none => simp [DocumentStore.Document.empty, FieldValue.asInt]
      | some earlier => exact settled.stored other old earlier before
  · rw [DocumentStore.lookup_patch_ne same] at found
    exact settled.stored other old later found

theorem settled_register (settled : Settled monitor) (id bicycleNickname uid : String) :
    Settled { monitor with
      bicycle := DocumentStore.setData id (registeredDocument bicycleNickname 0 uid)
        monitor.bicycle } := by
  apply settled.change fun _ member => member
  intro other member later found
  by_cases same : other = id
  · subst same
    rw [DocumentStore.lookup_setData, Option.some.injEq] at found
    rw [← found]
    simp [NotStolen]
  · rw [DocumentStore.lookup_setData_ne same] at found
    exact settled.stored other member later found

theorem settled_remove (settled : Settled monitor) (ids : List String) :
    Settled { monitor with bicycle := DocumentStore.deleteAll ids monitor.bicycle } := by
  apply settled.change fun _ member => member
  intro other member later found
  rw [DocumentStore.lookup_deleteAll] at found
  split at found
  · cases found
  · exact settled.stored other member later found

theorem settled_answer (settled : Settled monitor) {documents : List (QueryDocument F)}
    (taken : DocumentStore.Snapshot monitor.bicycle documents) (requests : Nat) :
    Settled { monitor with
      requests := requests
      answers := monitor.answers ++ [{ documents := documents, outdated := [] }] } where
  stored := settled.stored
  answered := by
    intro answer member id dismissed current content shown
    rcases List.mem_append.mp member with old | new
    · exact settled.answered answer old id dismissed current content shown
    · rw [List.mem_singleton.mp new] at shown
      exact settled.stored id dismissed content (taken.mem_iff.mp shown)

theorem settled_dismiss (settled : Settled monitor) (document : String)
    (alarm : AlarmController) : Settled (monitor.dismiss document alarm) := by
  have only (id : String) (member : id ∈ (if (monitor.bicycle.lookup document).isSome
      then [document] else [])) : id = document := by
    split at member
    · exact List.mem_singleton.mp member
    · cases member
  constructor
  · intro id member content found
    by_cases same : id = document
    · subst same
      simp only [Monitor.dismiss, resetState, DocumentStore.lookup_updateData] at found
      obtain ⟨earlier, _, written⟩ := Option.map_eq_some_iff.mp found
      rw [← written]
      simp [NotStolen]
    · simp only [Monitor.dismiss, resetState] at found
      rw [DocumentStore.lookup_updateData_ne same] at found
      rcases List.mem_append.mp member with new | old
      · exact absurd (only id new) same
      · exact settled.stored id old content found
  · intro later member id dismissed current content shown
    obtain ⟨answer, located, rfl⟩ := List.mem_map.mp member
    rw [List.mem_append, not_or] at current
    rcases List.mem_append.mp dismissed with new | old
    · exact absurd new current.1
    · exact settled.answered answer located id old current.2 content shown

theorem settled_step {move : MonitorMove F} (settled : Settled monitor)
    (moved : MonitorMoves userid monitor move next) : Settled next := by
  cases move with
  | patch id updateMask content =>
    cases moved
    exact settled_patch settled id updateMask content
  | register id bicycleNickname uid =>
    cases moved
    exact settled_register settled id bicycleNickname uid
  | remove ids =>
    cases moved
    exact settled_remove settled ids
  | request =>
    cases moved
    exact ⟨settled.stored, settled.answered⟩
  | answer documents =>
    obtain ⟨_, taken, rfl⟩ := moved
    exact settled_answer settled taken _
  | deliver before answer after =>
    obtain ⟨whole, alarm, _, rfl⟩ := moved
    refine ⟨settled.stored, ?_⟩
    intro other member
    apply settled.answered other
    rw [whole]
    rcases List.mem_append.mp member with earlier | later
    · exact List.mem_append_left _ earlier
    · exact List.mem_append_right _ (List.mem_cons_of_mem _ later)
  | refresh =>
    cases moved
    exact ⟨settled.stored, settled.answered⟩
  | delete row =>
    obtain ⟨document, alarm, _, rfl⟩ := moved
    exact settled_dismiss settled document alarm

theorem enters_stolen {documents : List (QueryDocument F)} {roster : List String × List String}
    {id : String} (enters : Enters roster (alerts userid documents) id) :
    ∃ content, ⟨id, content⟩ ∈ documents ∧ FieldValue.asInt (content "state") = some 2 := by
  obtain ⟨before, key, later, whole, _, _⟩ := enters
  have alerted : (key, id) ∈ alerts userid documents := by
    rw [whole]
    simp
  obtain ⟨document, member, asked⟩ := List.mem_filterMap.mp alerted
  obtain ⟨stolen, recorded, _⟩ := alert_eq_some.mp asked
  have same : id = document.1 := recorded.symm
  rw [same]
  exact ⟨document.2, (List.takeWhile_prefix _).subset member, stolen.2⟩

theorem notReraised_iff_nothingStale {move : MonitorMove F} (settled : Settled monitor)
    (moved : MonitorMoves userid monitor move next) :
    NotReraised monitor move next ↔ NothingStale userid monitor move next := by
  cases move with
  | deliver before answer after =>
    obtain ⟨whole, alarm, polled, rfl⟩ := moved
    have entered := stateCheck_alerts polled
    subst entered
    constructor
    · intro kept id dismissed _ enters
      exact absurd (count_lt_enterAll.mpr enters) (Nat.not_lt_of_le (kept id dismissed))
    · intro fresh id dismissed
      apply Nat.le_of_not_lt
      intro grown
      have enters : Enters (monitor.alarm.alarmDatas, monitor.alarm.arr)
          (alerts userid answer.documents) id := count_lt_enterAll.mp grown
      by_cases old : id ∈ answer.outdated
      · exact fresh id dismissed old enters
      · obtain ⟨content, shown, stolen⟩ := enters_stolen enters
        have pending : answer ∈ monitor.answers := by
          rw [whole]
          simp
        exact settled.answered answer pending id dismissed old content shown stolen
  | _ => exact Iff.rfl

def redStolen : Collection Int :=
  DocumentStore.setData "a" (registeredDocument "red" 2 "u") ∅

end RockYou.System

import Mathlib
import RockYou.App.Safety.TheftListing
import RockYou.System.Provenance

namespace RockYou.System

open Cloud App App.Safety Firmware Loop Machine Path

/-- The alarms that the labels of a list ask for: the messages with the ids. -/
def thefts (labels : List LabelData) : List (String × String) :=
  (labels.filter fun label => label.state = "도난!!").map fun label =>
    (theftMessage label.nickName, label.idNum)

def lines (labels : List LabelData) : String :=
  labels.foldl (fun text label => text ++ label.nickName ++ "\n") ""

theorem thefts_append (left right : List LabelData) :
    thefts (left ++ right) = thefts left ++ thefts right := by
  rw [thefts, List.filter_append, List.map_append]
  rfl

theorem lines_append (labels : List LabelData) (label : LabelData) :
    lines (labels ++ [label]) = lines labels ++ label.nickName ++ "\n" := by
  rw [lines, List.foldl_append]
  rfl

theorem enterAlarms_append (alarm : AlarmController) (left right : List (String × String)) :
    enterAlarms (enterAlarms alarm left) right = enterAlarms alarm (left ++ right) := by
  rw [enterAlarms, enterAlarms, enterAlarms, Roster.enterAll_append]

section Documents

variable {F : Type} {userid : String} {document : QueryDocument F} {labels : List LabelData}

def StateKnown (document : QueryDocument F) : Prop :=
  ∀ value, FieldValue.asInt (document.get "state") = some value →
    ∃ state : BicycleState, state.value = value

theorem label_stolen_iff (state : BicycleState) :
    stateCheckLabelChange state.value = "도난!!" ↔ state.value = 2 := by
  cases state <;> decide

theorem checkDocument_follows (known : StateKnown document) (alarm : AlarmController) :
    (readDocument userid document labels).Simulates
      (fun labels after => after = enterAlarms alarm (thefts labels))
      (checkDocument userid document (enterAlarms alarm (thefts labels))) := by
  rcases readDocument_cases userid document labels with
    ⟨missing, read⟩ | ⟨uid, owner, different, read⟩ | read | ⟨nickname, value, owner, named,
      valued, read⟩ <;> rw [read]
  · exact ⟨_, checkDocument_stop missing _, rfl⟩
  · exact ⟨_, checkDocument_other owner different _, rfl⟩
  · exact True.intro
  · refine ⟨_, checkDocument_enters owner named valued _, ?_⟩
    obtain ⟨state, rfl⟩ := known value valued
    rw [enterAlarms_append, thefts_append, alert_own owner named valued]
    by_cases stolen : state.value = 2
    · have shown := (label_stolen_iff state).mpr stolen
      rw [if_pos stolen]
      simp [thefts, shown]
    · have hidden := mt (label_stolen_iff state).mp stolen
      rw [if_neg stolen]
      simp [thefts, hidden]

theorem listDocument_follows (userid : String) (document : QueryDocument F)
    (labels : List LabelData) :
    (readDocument userid document labels).Simulates
      (fun labels view => view = ⟨lines labels, ""⟩)
      (listDocument userid document ⟨lines labels, ""⟩) := by
  rcases readDocument_cases userid document labels with
    ⟨missing, read⟩ | ⟨uid, owner, different, read⟩ | read | ⟨nickname, value, owner, named,
      valued, read⟩ <;> rw [read]
  · refine ⟨_, ?_, rfl⟩
    rw [listDocument, missing]
  · refine ⟨_, ?_, rfl⟩
    simp only [listDocument, owner, if_neg different]
  · exact True.intro
  · refine ⟨⟨lines labels ++ nickname ++ "\n", ""⟩, ?_, ?_⟩
    · simp only [listDocument, owner, named, if_true]
    · dsimp only
      rw [lines_append]

theorem listDocument_next {view after : UserView}
    (moved : listDocument userid document view = .next after) : owned document = true := by
  cases owner : FieldValue.asString (document.get "uid") with
  | none =>
    rw [listDocument, owner] at moved
    cases moved
  | some uid => rw [owned, owner, Option.isSome_some]

theorem listDocument_stop {view after : UserView}
    (returned : listDocument userid document view = .stop after) : owned document = false := by
  cases owner : FieldValue.asString (document.get "uid") with
  | none => rw [owned, owner, Option.isSome_none]
  | some uid =>
    simp only [listDocument, owner] at returned
    split at returned
    · cases named : FieldValue.asString (document.get "bicycleNickname") <;>
        simp [named] at returned
    · cases returned

end Documents

section Runs

variable {G F : Type} [Zero F] [BEq F] [LE F] [DecidableLE F] [OfNat F 4] {tiny : TinyGPS G F}
  {board : Board G F} {installation next : Installation G F} {moves : List (InstallationMove F)}
  {move : InstallationMove F} {userid : String} {documents : List (QueryDocument F)}

theorem sets_known {id : String} {value : Int} (sets : Sets tiny id installation move value) :
    ∃ state : BicycleState, state.value = value := by
  cases sets with
  | @reported _ _ _ state _ _ _ _ => exact ⟨state, rfl⟩
  | registered => exact ⟨.drive, rfl⟩
  | dismissed => exact ⟨.drive, rfl⟩

theorem answered_known (path : Path (InstallationMoves tiny) (.start board) moves installation)
    (answered : (userid, documents) ∈ installation.answers) :
    ∀ document ∈ documents, StateKnown document := by
  intro document member value valued
  obtain ⟨_, wrote⟩ := state_provenance path answered member valued
  exact sets_known wrote

omit [Zero F] [BEq F] [LE F] [DecidableLE F] [OfNat F 4] in
theorem polled_nodup {alarm after : AlarmController} (distinct : alarm.alarmDatas.Nodup)
    (polled : (stateCheck userid documents alarm).state? = some after) :
    after.alarmDatas.Nodup := by
  refine forEach_invariant (fun alarm => alarm.alarmDatas.Nodup) ?_ distinct polled
  intro document _ before after distinct checked
  rcases checkDocument_cases checked with rfl | ⟨nickname, _, _, _, fresh, rfl⟩
  · exact distinct
  · rw [List.nodup_append_comm]
    exact List.nodup_cons.mpr ⟨fresh, distinct⟩

theorem nodup_step (moved : InstallationMoves tiny installation move next)
    (distinct : (installation.alarms userid).alarmDatas.Nodup) :
    (next.alarms userid).alarmDatas.Nodup := by
  rcases moves_alarms userid moved with same | ⟨_, _, _, _, _, polled⟩ | ⟨_, same⟩ |
    ⟨row, _, _, deleted⟩
  · rw [same]
    exact distinct
  · exact polled_nodup distinct polled
  · rw [same]
    exact distinct
  · rw [(commitDelete_spec deleted).2.2.2]
    exact distinct.eraseIdx row

theorem messages_nodup (path : Path (InstallationMoves tiny) (.start board) moves installation)
    (userid : String) : (installation.alarms userid).alarmDatas.Nodup :=
  path.invariant (fun _ => True)
    (fun installation : Installation G F => (installation.alarms userid).alarmDatas.Nodup)
    (fun _ _ _ _ moved distinct => nodup_step moved distinct) (fun _ _ => True.intro) .nil

omit [Zero F] [BEq F] [LE F] [DecidableLE F] [OfNat F 4] in
theorem stateCheck_again {alarm other after : AlarmController}
    (polled : (stateCheck userid documents alarm).state? = some after) :
    ∃ later, (stateCheck userid documents other).state? = some later := by
  have follows : (stateCheck userid documents alarm).Simulates (fun _ _ => True)
      (stateCheck userid documents other) := by
    refine forEach_simulates ?_ True.intro
    intro document _ alarm other _
    cases owner : FieldValue.asString (document.get "uid") with
    | none =>
      rw [checkDocument_stop owner, checkDocument_stop owner]
      exact ⟨other, rfl, True.intro⟩
    | some uid =>
      by_cases same : uid = userid
      · subst same
        rcases checkDocument_trap owner alarm with trapped | ⟨nickname, state, named, valued⟩
        · rw [trapped]
          exact True.intro
        · rw [checkDocument_own owner named valued, checkDocument_own owner named valued]
          exact ⟨_, rfl, True.intro⟩
      · rw [checkDocument_other owner same, checkDocument_other owner same]
        exact ⟨other, rfl, True.intro⟩
  obtain ⟨later, ended, _⟩ := follows.state polled
  exact ⟨later, ended⟩

omit [Zero F] [BEq F] [LE F] [DecidableLE F] [OfNat F 4] in
theorem stateCheck_known {alarm earlier after : AlarmController}
    (polled : (stateCheck userid documents earlier).state? = some after)
    (known : ∀ message ∈ after.alarmDatas, message ∈ alarm.alarmDatas) :
    (stateCheck userid documents alarm).state? = some alarm := by
  obtain ⟨later, again⟩ : ∃ later, (stateCheck userid documents alarm).state? = some later :=
    stateCheck_again polled
  have listed : ∀ entry ∈ alerts userid documents, entry.1 ∈ alarm.alarmDatas := by
    intro entry member
    apply known
    rw [stateCheck_alerts polled, enterAlarms, Roster.mem_enterAll_keys]
    exact .inr (List.mem_map_of_mem member)
  have same : enterAlarms alarm (alerts userid documents) = alarm := by
    rw [enterAlarms, Roster.enterAll_known listed]
  rw [again, stateCheck_alerts again, same]

theorem message_kept {message : String} (moved : InstallationMoves tiny installation move next)
    (undeleted : ∀ row, move ≠ .delete userid row)
    (listed : message ∈ (installation.alarms userid).alarmDatas) :
    message ∈ (next.alarms userid).alarmDatas := by
  rcases moves_alarms userid moved with same | ⟨_, _, _, _, _, polled⟩ | ⟨_, same⟩ |
    ⟨row, _, deleted, _⟩
  · rw [same]
    exact listed
  · exact stateCheck_grows listed polled
  · rw [same]
    exact listed
  · exact absurd deleted (undeleted row)

/-- A snapshot that is delivered twice raises its alarms once: unless the user dismisses one in
    between, the second delivery changes nothing, whatever the other moves are. -/
theorem redelivery_harmless {delivered later : Installation G F}
    {before after : List (String × List (QueryDocument F))}
    (first : InstallationMoves tiny installation (.deliver before userid documents after) delivered)
    (path : Path (restrict (InstallationMoves tiny) fun _ move _ => ∀ row, move ≠ .delete userid row)
      delivered moves later) :
    (stateCheck userid documents (later.alarms userid)).state? = some (later.alarms userid) := by
  obtain ⟨_, alarm, polled, rfl⟩ := first
  refine stateCheck_known polled fun message member => ?_
  have listed : message ∈ ((Function.update installation.alarms userid alarm) userid).alarmDatas := by
    rw [Function.update_self]
    exact member
  exact path.invariant (fun _ => True)
    (fun installation : Installation G F => message ∈ (installation.alarms userid).alarmDatas)
    (fun _ _ _ _ moved listed => message_kept moved.1 moved.2 listed) (fun _ _ => True.intro) listed

end Runs

theorem redelivery_harmless_parked :
    (stateCheck "u" stolenParked.bicycle.entries ⟨[bicycleId], [theftMessage "bike"], 1⟩).state? =
      some ⟨[bicycleId], [theftMessage "bike"], 1⟩ := by
  have first : InstallationMoves meridianGPS queriedParked
      (.deliver [] "u" stolenParked.bicycle.entries []) raisedParked :=
    ⟨rfl, ⟨[bicycleId], [theftMessage "bike"], 0⟩, rfl, rfl⟩
  have refreshed : Path (restrict (InstallationMoves meridianGPS)
      fun _ move _ => ∀ row, move ≠ .delete "u" row) raisedParked [.refresh "u"]
      { raisedParked with
        alarms := Function.update raisedParked.alarms "u"
          (resetBtnDidTap (raisedParked.alarms "u")) } := by
    refine .cons ⟨rfl, fun row same => ?_⟩ .nil
    cases same
  exact redelivery_harmless first refreshed

end RockYou.System

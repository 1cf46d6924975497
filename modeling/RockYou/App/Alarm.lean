import RockYou.Library.Loop
import RockYou.Cloud.Document

namespace RockYou.App

open Cloud Loop

variable {F : Type}

/-- `AlarmViewController` with the global `alarmModel` and the rows its table displays. -/
structure AlarmController where
  arr : List String
  alarmDatas : List String
  rows : Nat
  deriving DecidableEq

def AlarmController.initial : AlarmController where
  arr := []
  alarmDatas := []
  rows := 0

def theftMessage (bicycleNickname : String) : String :=
  "자전거 : " ++ bicycleNickname ++ "가 도난되었습니다."

theorem theftMessage_injective : Function.Injective theftMessage := by
  intro bicycleNickname other same
  rw [theftMessage, theftMessage, String.append_left_inj, String.append_right_inj] at same
  exact same

def checkDocument (userid : String) (document : QueryDocument F) (alarm : AlarmController) :
    Flow AlarmController :=
  match FieldValue.asString (document.get "uid") with
  | none => .stop alarm
  | some documentUid =>
    if documentUid = userid then
      match FieldValue.asString (document.get "bicycleNickname"),
        FieldValue.asInt (document.get "state") with
      | some bicycleNickname, some state =>
        let index := alarm.alarmDatas.idxOf? (theftMessage bicycleNickname)
        if state = 2 ∧ index = none then
          .next { alarm with
            arr := alarm.arr ++ [document.documentID]
            alarmDatas := alarm.alarmDatas ++ [theftMessage bicycleNickname] }
        else .next alarm
      | _, _ => .trap
    else .next alarm

def stateCheck (userid : String) (documents : List (QueryDocument F)) (alarm : AlarmController) :
    Flow AlarmController :=
  forEach (checkDocument userid) documents alarm

def resetBtnDidTap (alarm : AlarmController) : AlarmController :=
  { alarm with rows := alarm.alarmDatas.length }

/-- `tableView(_:commit:forRowAt:)` for a displayed row: the document whose state is reset and
    the controller afterwards, or a trap: an index out of range, or a table whose row count does
    not match `alarmDatas`. -/
def commitDelete (row : Nat) (alarm : AlarmController) : Option (String × AlarmController) :=
  match alarm.arr[row]? with
  | none => none
  | some document =>
    if row < alarm.alarmDatas.length then
      let arr := alarm.arr.eraseIdx row
      let alarmDatas := alarm.alarmDatas.eraseIdx row
      if alarmDatas.length + 1 = alarm.rows then
        some (document, { arr := arr, alarmDatas := alarmDatas, rows := alarmDatas.length })
      else none
    else none

/-- `updateData(["state":0])`, which fails on a missing document. -/
def resetState (document : String) (bicycle : Collection F) : Collection F :=
  DocumentStore.updateData document ["state"]
    (Function.update DocumentStore.Document.empty "state" (some (.integer 0))) bicycle

theorem checkDocument_stop {userid : String} {document : QueryDocument F}
    (missing : FieldValue.asString (document.get "uid") = none) (alarm : AlarmController) :
    checkDocument userid document alarm = .stop alarm := by
  rw [checkDocument, missing]

theorem checkDocument_other {userid uid : String} {document : QueryDocument F}
    (owner : FieldValue.asString (document.get "uid") = some uid) (different : uid ≠ userid)
    (alarm : AlarmController) : checkDocument userid document alarm = .next alarm := by
  simp only [checkDocument, owner, if_neg different]

theorem checkDocument_own {userid nickname : String} {state : Int} {document : QueryDocument F}
    (owner : FieldValue.asString (document.get "uid") = some userid)
    (named : FieldValue.asString (document.get "bicycleNickname") = some nickname)
    (valued : FieldValue.asInt (document.get "state") = some state) (alarm : AlarmController) :
    checkDocument userid document alarm =
      .next (if state = 2 ∧ theftMessage nickname ∉ alarm.alarmDatas then
        { alarm with
          arr := alarm.arr ++ [document.documentID]
          alarmDatas := alarm.alarmDatas ++ [theftMessage nickname] }
      else alarm) := by
  simp only [checkDocument, owner, named, valued, List.idxOf?_eq_none_iff, if_true]
  split <;> rfl

theorem checkDocument_trap {userid : String} {document : QueryDocument F}
    (owner : FieldValue.asString (document.get "uid") = some userid) (alarm : AlarmController) :
    checkDocument userid document alarm = .trap ∨ ∃ nickname state,
      FieldValue.asString (document.get "bicycleNickname") = some nickname ∧
        FieldValue.asInt (document.get "state") = some state := by
  cases named : FieldValue.asString (document.get "bicycleNickname") with
  | none => simp [checkDocument, owner, named]
  | some nickname =>
    cases valued : FieldValue.asInt (document.get "state") with
    | none => simp [checkDocument, owner, named, valued]
    | some state => exact .inr ⟨nickname, state, rfl, rfl⟩

theorem checkDocument_cases {userid : String} {document : QueryDocument F}
    {alarm after : AlarmController}
    (checked : (checkDocument userid document alarm).state? = some after) :
    after = alarm ∨ ∃ nickname,
      FieldValue.asString (document.get "uid") = some userid ∧
        FieldValue.asString (document.get "bicycleNickname") = some nickname ∧
        FieldValue.asInt (document.get "state") = some 2 ∧
        theftMessage nickname ∉ alarm.alarmDatas ∧
        after = { alarm with
          arr := alarm.arr ++ [document.documentID]
          alarmDatas := alarm.alarmDatas ++ [theftMessage nickname] } := by
  cases owner : FieldValue.asString (document.get "uid") with
  | none =>
    rw [checkDocument_stop owner] at checked
    cases checked
    exact .inl rfl
  | some uid =>
    by_cases same : uid = userid
    · subst same
      rcases checkDocument_trap owner alarm with trapped | ⟨nickname, state, named, valued⟩
      · rw [trapped] at checked
        cases checked
      · rw [checkDocument_own owner named valued] at checked
        by_cases fresh : state = 2 ∧ theftMessage nickname ∉ alarm.alarmDatas
        · rw [if_pos fresh] at checked
          cases checked
          exact .inr ⟨nickname, rfl, named, by rw [valued, fresh.1], fresh.2, rfl⟩
        · rw [if_neg fresh] at checked
          cases checked
          exact .inl rfl
    · rw [checkDocument_other owner same] at checked
      cases checked
      exact .inl rfl

theorem stateCheck_grows {userid message : String} {documents : List (QueryDocument F)}
    {alarm after : AlarmController} (listed : message ∈ alarm.alarmDatas)
    (polled : (stateCheck userid documents alarm).state? = some after) :
    message ∈ after.alarmDatas := by
  apply forEach_invariant (fun alarm => message ∈ alarm.alarmDatas) _ listed polled
  intro document _ alarm after listed checked
  rcases checkDocument_cases checked with rfl | ⟨_, _, _, _, _, rfl⟩
  · exact listed
  · exact List.mem_append_left _ listed

theorem stateCheck_arr {userid : String} {documents : List (QueryDocument F)}
    {alarm after : AlarmController} (good : String → Prop) (known : ∀ id ∈ alarm.arr, good id)
    (own : ∀ document ∈ documents,
      FieldValue.asString (QueryDocument.get document "uid") = some userid →
        good (QueryDocument.documentID document))
    (polled : (stateCheck userid documents alarm).state? = some after) :
    ∀ id ∈ after.arr, good id := by
  apply forEach_invariant (fun alarm => ∀ id ∈ alarm.arr, good id) _ known polled
  intro document member alarm after known checked
  rcases checkDocument_cases checked with rfl | ⟨_, owner, _, _, _, rfl⟩
  · exact known
  · intro id located
    rcases List.mem_append.mp located with old | new
    · exact known id old
    · rw [List.mem_singleton.mp new]
      exact own document member owner

def Complete (userid : String) (documents : List (QueryDocument F)) : Prop :=
  ∀ document ∈ documents,
    ∃ uid, FieldValue.asString (QueryDocument.get document "uid") = some uid ∧
      (uid = userid →
        (∃ nickname, FieldValue.asString (QueryDocument.get document "bicycleNickname") =
          some nickname) ∧
        ∃ state, FieldValue.asInt (QueryDocument.get document "state") = some state)

theorem checkDocument_next {userid : String} {documents : List (QueryDocument F)}
    (complete : Complete userid documents) {document : QueryDocument F}
    (member : document ∈ documents) (alarm : AlarmController) :
    ∃ after, checkDocument userid document alarm = .next after := by
  obtain ⟨uid, owner, fields⟩ := complete document member
  by_cases same : uid = userid
  · obtain ⟨⟨nickname, named⟩, state, valued⟩ := fields same
    rw [same] at owner
    exact ⟨_, checkDocument_own owner named valued alarm⟩
  · exact ⟨_, checkDocument_other owner same alarm⟩

theorem stateCheck_next {userid : String} {documents : List (QueryDocument F)}
    (complete : Complete userid documents) (alarm : AlarmController) :
    ∃ after, stateCheck userid documents alarm = .next after := by
  induction documents generalizing alarm with
  | nil => exact ⟨alarm, rfl⟩
  | cons document documents ih =>
    obtain ⟨middle, checked⟩ := checkDocument_next complete (List.mem_cons_self ..) alarm
    have remaining : Complete userid documents :=
      fun other member => complete other (List.mem_cons_of_mem _ member)
    obtain ⟨after, rest⟩ := ih remaining middle
    exact ⟨after, (forEach_cons_next checked).trans rest⟩

theorem commitDelete_spec {row : Nat} {alarm after : AlarmController} {document : String}
    (deleted : commitDelete row alarm = some (document, after)) :
    alarm.arr[row]? = some document ∧ row < alarm.alarmDatas.length ∧
      (alarm.alarmDatas.eraseIdx row).length + 1 = alarm.rows ∧
      after = { arr := alarm.arr.eraseIdx row
                alarmDatas := alarm.alarmDatas.eraseIdx row
                rows := (alarm.alarmDatas.eraseIdx row).length } := by
  unfold commitDelete at deleted
  cases found : alarm.arr[row]? with
  | none => simp [found] at deleted
  | some id =>
    simp only [found] at deleted
    split at deleted
    · rename_i bound
      split at deleted
      · rename_i consistent
        cases deleted
        exact ⟨rfl, bound, consistent, rfl⟩
      · cases deleted
    · cases deleted

end RockYou.App

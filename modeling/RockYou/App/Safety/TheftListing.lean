import Mathlib.Data.List.Nodup
import RockYou.Library.Machine
import RockYou.Library.Roster
import RockYou.App.Safety.ReadIsolation

namespace RockYou.App.Safety

open Cloud Loop Machine Roster

variable {F : Type}

inductive AlarmEvent (F : Type) where
  | stateCheck (documents : List (QueryDocument F))
  | resetBtnDidTap
  | commitDelete (row : Nat)

inductive AlarmStep (userid : String) :
    AlarmController → AlarmEvent F → AlarmController → Prop where
  | stateCheck {alarm after : AlarmController} {documents : List (QueryDocument F)}
      (complete : Complete userid documents)
      (distinct : (documents.map QueryDocument.documentID).Nodup)
      (polled : stateCheck userid documents alarm = .next after) :
      AlarmStep userid alarm (.stateCheck documents) after
  | resetBtnDidTap {alarm : AlarmController} :
      AlarmStep userid alarm .resetBtnDidTap (resetBtnDidTap alarm)
  | commitDelete {alarm after : AlarmController} {row : Nat} {document : String}
      (deleted : commitDelete row alarm = some (document, after)) :
      AlarmStep userid alarm (.commitDelete row) after

def Stolen (userid : String) (document : QueryDocument F) : Prop :=
  FieldValue.asString (document.get "uid") = some userid ∧
    FieldValue.asInt (document.get "state") = some 2

/-- After a poll, every stolen bicycle of the snapshot has exactly one entry. -/
def Raised (userid : String) (_ : AlarmController) : AlarmEvent F → AlarmController → Prop
  | .stateCheck documents, after =>
    ∀ document ∈ documents, Stolen userid document →
      after.arr.count (QueryDocument.documentID document) = 1
  | _, _ => True

section Alerts

def alert (userid : String) (document : QueryDocument F) : Option (String × String) :=
  if FieldValue.asString (document.get "uid") = some userid ∧
      FieldValue.asInt (document.get "state") = some 2 then
    (FieldValue.asString (document.get "bicycleNickname")).map fun bicycleNickname =>
      (theftMessage bicycleNickname, document.documentID)
  else none

variable {userid : String}

theorem alert_eq_some {document : QueryDocument F} {message id : String} :
    alert userid document = some (message, id) ↔ Stolen userid document ∧
      document.documentID = id ∧ ∃ bicycleNickname,
        FieldValue.asString (document.get "bicycleNickname") = some bicycleNickname ∧
          theftMessage bicycleNickname = message := by
  unfold alert Stolen
  split
  · next stolen =>
    simp only [stolen, Option.map_eq_some_iff, Prod.mk.injEq, and_self, true_and]
    constructor
    · rintro ⟨nickname, named, text, own⟩
      exact ⟨own, nickname, named, text⟩
    · rintro ⟨own, nickname, named, text⟩
      exact ⟨nickname, named, text, own⟩
  · next safe => simp [safe]

theorem alert_of_stolen {documents : List (QueryDocument F)} (complete : Complete userid documents)
    {document : QueryDocument F} (member : document ∈ documents)
    (stolen : Stolen userid document) :
    ∃ message, alert userid document = some (message, document.documentID) := by
  obtain ⟨uid, owner, fields⟩ := complete document member
  have same : uid = userid := Option.some.inj (owner.symm.trans stolen.1)
  obtain ⟨⟨nickname, named⟩, _⟩ := fields same
  have asked : alert userid document =
      (FieldValue.asString (document.get "bicycleNickname")).map fun bicycleNickname =>
        (theftMessage bicycleNickname, document.documentID) := if_pos stolen
  rw [named] at asked
  exact ⟨_, asked⟩

theorem alerts_nodup {documents : List (QueryDocument F)}
    (distinct : (documents.map QueryDocument.documentID).Nodup) :
    ((documents.filterMap (alert userid)).map Prod.snd).Nodup := by
  apply List.Nodup.sublist _ distinct
  induction documents with
  | nil => exact .slnil
  | cons document documents ih =>
    have rest := ih (List.nodup_cons.mp distinct).2
    cases alerted : alert userid document with
    | none =>
      rw [List.filterMap_cons_none alerted]
      exact rest.cons _
    | some entry =>
      obtain ⟨message, id⟩ := entry
      obtain ⟨_, own, _⟩ := alert_eq_some.mp alerted
      rw [List.filterMap_cons_some alerted, List.map_cons, List.map_cons, own]
      exact rest.cons_cons _

/-- The alarms that a poll asks for: those of the documents before the first one without a uid. -/
def alerts (userid : String) (documents : List (QueryDocument F)) : List (String × String) :=
  (documents.takeWhile owned).filterMap (alert userid)

def enterAlarms (alarm : AlarmController) (entries : List (String × String)) : AlarmController :=
  { alarm with
    arr := (enterAll (alarm.alarmDatas, alarm.arr) entries).2
    alarmDatas := (enterAll (alarm.alarmDatas, alarm.arr) entries).1 }

theorem alert_own {nickname : String} {state : Int} {document : QueryDocument F}
    (owner : FieldValue.asString (document.get "uid") = some userid)
    (named : FieldValue.asString (document.get "bicycleNickname") = some nickname)
    (valued : FieldValue.asInt (document.get "state") = some state) :
    alert userid document =
      if state = 2 then some (theftMessage nickname, document.documentID) else none := by
  simp [alert, owner, named, valued]

theorem checkDocument_enters {nickname : String} {state : Int} {document : QueryDocument F}
    (owner : FieldValue.asString (document.get "uid") = some userid)
    (named : FieldValue.asString (document.get "bicycleNickname") = some nickname)
    (valued : FieldValue.asInt (document.get "state") = some state) (alarm : AlarmController) :
    checkDocument userid document alarm =
      .next (enterAlarms alarm (alert userid document).toList) := by
  rw [checkDocument_own owner named valued, alert_own owner named valued]
  by_cases stolen : state = 2
  · by_cases listed : theftMessage nickname ∈ alarm.alarmDatas <;>
      simp [enterAlarms, enterAll, enter, listed, stolen]
  · simp [enterAlarms, enterAll, stolen]

theorem enterAlarms_cons (alarm : AlarmController) (document : QueryDocument F)
    (documents : List (QueryDocument F)) :
    enterAlarms alarm ((document :: documents).filterMap (alert userid)) =
      enterAlarms (enterAlarms alarm (alert userid document).toList)
        (documents.filterMap (alert userid)) := by
  cases alerted : alert userid document with
  | none =>
    rw [List.filterMap_cons_none alerted]
    rfl
  | some entry =>
    rw [List.filterMap_cons_some alerted]
    rfl

theorem stateCheck_alerts {documents : List (QueryDocument F)} {alarm after : AlarmController}
    (polled : (stateCheck userid documents alarm).state? = some after) :
    after = enterAlarms alarm (alerts userid documents) := by
  induction documents generalizing alarm with
  | nil =>
    cases polled
    rfl
  | cons document documents ih =>
    cases owner : FieldValue.asString (document.get "uid") with
    | none =>
      rw [stateCheck, forEach_cons, checkDocument_stop owner] at polled
      cases polled
      simp [alerts, owned, owner, enterAlarms, enterAll]
    | some uid =>
      have accepted : owned document = true := by simp [owned, owner]
      rw [alerts, List.takeWhile_cons_of_pos accepted]
      by_cases same : uid = userid
      · subst same
        rcases checkDocument_trap owner alarm with trapped | ⟨nickname, state, named, valued⟩
        · rw [stateCheck, forEach_cons, trapped] at polled
          cases polled
        · have checked := checkDocument_enters owner named valued alarm
          rw [stateCheck, forEach_cons_next checked] at polled
          rw [ih polled, alerts, enterAlarms_cons]
      · rw [stateCheck, forEach_cons_next (checkDocument_other owner same alarm)] at polled
        have silent : alert userid document = none := by simp [alert, owner, same]
        rw [List.filterMap_cons_none silent]
        exact ih polled

theorem stateCheck_enters {documents : List (QueryDocument F)}
    (complete : Complete userid documents) (alarm : AlarmController) :
    stateCheck userid documents alarm =
      .next (enterAlarms alarm (documents.filterMap (alert userid))) := by
  obtain ⟨after, polled⟩ := stateCheck_next complete alarm
  have all : documents.takeWhile owned = documents := by
    rw [List.takeWhile_eq_self_iff]
    intro document member
    obtain ⟨uid, owner, _⟩ := complete document member
    simp [owned, owner]
  have ended : (stateCheck userid documents alarm).state? = some after := by
    rw [polled]
    rfl
  rw [polled, stateCheck_alerts ended, alerts, all]

/-- The poll adds this alarm: its text and its id, in one place of the two lists. -/
def Adds (message id : String) (alarm after : AlarmController) : Prop :=
  ∃ entries : List (String × String),
    after.alarmDatas = alarm.alarmDatas ++ entries.map Prod.fst ∧
      after.arr = alarm.arr ++ entries.map Prod.snd ∧ (message, id) ∈ entries

/-- No stolen bicycle of the user has the nickname before this one in the snapshot. -/
def Foremost (userid bicycleNickname id : String) (documents : List (QueryDocument F)) : Prop :=
  ∃ front document back, documents = front ++ document :: back ∧
    QueryDocument.documentID document = id ∧ ∀ other ∈ front, Stolen userid other →
      FieldValue.asString (other.get "bicycleNickname") ≠ some bicycleNickname

theorem mem_added_alerts {documents : List (QueryDocument F)} {bicycleNickname id : String}
    {texts : List String}
    (stolen : ∀ document ∈ documents, QueryDocument.documentID document = id →
      alert userid document = some (theftMessage bicycleNickname, id)) :
    (theftMessage bicycleNickname, id) ∈ added texts (documents.filterMap (alert userid)) ↔
      theftMessage bicycleNickname ∉ texts ∧ Foremost userid bicycleNickname id documents := by
  rw [mem_added]
  constructor
  · intro ⟨before, later, split, fresh, first⟩
    refine ⟨fresh, ?_⟩
    obtain ⟨left, right, rfl, rfl, rest⟩ := List.filterMap_eq_append_iff.mp split
    obtain ⟨silent, document, back, rfl, quiet, asked, _⟩ := List.filterMap_eq_cons_iff.mp rest
    refine ⟨left ++ silent, document, back, by simp, (alert_eq_some.mp asked).2.1, ?_⟩
    intro other member theft named
    have alerted : alert userid other = some (theftMessage bicycleNickname, other.documentID) :=
      alert_eq_some.mpr ⟨theft, rfl, bicycleNickname, named, rfl⟩
    rcases List.mem_append.mp member with earlier | passed
    · exact first (List.mem_map.mpr ⟨_, List.mem_filterMap.mpr ⟨other, earlier, alerted⟩, rfl⟩)
    · rw [quiet other passed] at alerted
      cases alerted
  · intro ⟨fresh, front, document, back, whole, own, foremost⟩
    have asked := stolen document (by rw [whole]; simp) own
    refine ⟨front.filterMap (alert userid), back.filterMap (alert userid), ?_, fresh, ?_⟩
    · rw [whole, List.filterMap_append, List.filterMap_cons_some asked]
    · intro listed
      obtain ⟨⟨message, other⟩, alerted, same⟩ := List.mem_map.mp listed
      obtain ⟨namesake, member, raised⟩ := List.mem_filterMap.mp alerted
      obtain ⟨theft, _, nickname, named, text⟩ := alert_eq_some.mp raised
      rw [← text] at same
      exact foremost namesake member theft (theftMessage_injective same ▸ named)

/-- A complete poll adds the alarm of a stolen bicycle exactly when its text is not listed and no
    stolen namesake precedes it. -/
theorem stateCheck_adds_iff {documents : List (QueryDocument F)} {alarm after : AlarmController}
    (complete : Complete userid documents)
    (polled : (stateCheck userid documents alarm).state? = some after)
    {bicycleNickname id : String}
    (stolen : ∀ document ∈ documents, QueryDocument.documentID document = id →
      alert userid document = some (theftMessage bicycleNickname, id)) :
    Adds (theftMessage bicycleNickname) id alarm after ↔
      theftMessage bicycleNickname ∉ alarm.alarmDatas ∧
        Foremost userid bicycleNickname id documents := by
  rw [stateCheck_enters complete] at polled
  cases polled
  rw [← mem_added_alerts stolen]
  constructor
  · intro ⟨entries, texts, ids, member⟩
    rw [← added_of_appended texts ids]
    exact member
  · intro member
    refine ⟨_, ?_, ?_, member⟩
    · rw [enterAlarms, enterAll_added]
    · rw [enterAlarms, enterAll_added]

theorem stateCheck_lists {documents : List (QueryDocument F)} {alarm after : AlarmController}
    (complete : Complete userid documents)
    (polled : (stateCheck userid documents alarm).state? = some after)
    {document : QueryDocument F} (member : document ∈ documents) {message id : String}
    (asked : alert userid document = some (message, id)) : message ∈ after.alarmDatas := by
  rw [stateCheck_enters complete] at polled
  cases polled
  rw [enterAlarms, mem_enterAll_keys]
  exact .inr (List.mem_map.mpr ⟨_, List.mem_filterMap.mpr ⟨document, member, asked⟩, rfl⟩)

end Alerts

/-- Before the poll, an alert has an entry exactly when its message is taken: listed, or asked for
    by an earlier alert of the snapshot. -/
def Distinguishes (userid : String) (alarm : AlarmController) :
    AlarmEvent F → AlarmController → Prop
  | .stateCheck documents, _ =>
    ∀ before message id later,
      documents.filterMap (alert userid) = before ++ (message, id) :: later →
      alarm.arr.count id =
        if message ∈ alarm.alarmDatas ∨ message ∈ before.map Prod.fst then 1 else 0
  | _, _ => True

theorem raised_iff_distinguishes {userid : String} {alarm after : AlarmController}
    {event : AlarmEvent F} (step : AlarmStep userid alarm event after) :
    Raised userid alarm event after ↔ Distinguishes userid alarm event after := by
  cases step with
  | resetBtnDidTap => exact Iff.rfl
  | commitDelete _ => exact Iff.rfl
  | stateCheck complete distinct polled =>
    rename_i documents
    have entered : after.arr =
        (enterAll (alarm.alarmDatas, alarm.arr) (documents.filterMap (alert userid))).2 := by
      rw [stateCheck_enters complete] at polled
      cases polled
      rfl
    have unique : ((documents.filterMap (alert userid)).map Prod.snd).Nodup :=
      alerts_nodup distinct
    constructor
    · intro raised before message id later split
      have alerted : (message, id) ∈ documents.filterMap (alert userid) := by
        rw [split]
        simp
      obtain ⟨document, member, asked⟩ := List.mem_filterMap.mp alerted
      obtain ⟨stolen, recorded, _⟩ := alert_eq_some.mp asked
      have once := raised document member stolen
      rw [recorded, entered, split] at once
      rw [split] at unique
      rw [count_enterAll unique] at once
      by_cases taken : message ∈ alarm.alarmDatas ∨ message ∈ before.map Prod.fst
      · rw [if_pos taken] at once ⊢
        exact once
      · rw [if_neg taken] at once ⊢
        exact Nat.succ.inj once
    · intro distinguishes document member stolen
      obtain ⟨message, asked⟩ := alert_of_stolen complete member stolen
      have alerted : (message, QueryDocument.documentID document) ∈
          documents.filterMap (alert userid) := List.mem_filterMap.mpr ⟨document, member, asked⟩
      obtain ⟨before, later, split⟩ := List.append_of_mem alerted
      have counted := distinguishes before message _ later split
      rw [split] at unique
      rw [entered, split, count_enterAll unique, counted]
      by_cases taken : message ∈ alarm.alarmDatas ∨ message ∈ before.map Prod.fst
      · rw [if_pos taken, if_pos taken]
      · rw [if_neg taken, if_neg taken]

def stolenBike (id : String) : QueryDocument Int := ⟨id, registeredDocument "bike" 2 "u"⟩

end RockYou.App.Safety

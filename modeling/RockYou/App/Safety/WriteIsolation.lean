import RockYou.App.Alarm
import RockYou.App.BikeList
import RockYou.App.Register
import RockYou.Library.Machine

namespace RockYou.App.Safety

open Cloud Loop

variable {F : Type}

structure Session (F : Type) where
  bicycle : Collection F
  alarm : AlarmController

inductive Operation (F : Type) where
  | register (viewFlag : Nat) (txtNumberOfLocker txtNicknameBicycle : String)
  | remove (txt : String) (documents : List (QueryDocument F))
  | poll (documents : List (QueryDocument F))
  | reset
  | deleteAlarm (row : Nat)

def Operates (userid : String) (session : Session F) : Operation F → Session F → Prop
  | .register viewFlag txtNumberOfLocker txtNicknameBicycle, next =>
    ∃ bicycle, register userid viewFlag txtNumberOfLocker txtNicknameBicycle session.bicycle =
      some bicycle ∧ next = { session with bicycle := bicycle }
  | .remove txt documents, next =>
    DocumentStore.Snapshot session.bicycle documents ∧
      next = { session with bicycle := bicycleRemoveBtnDidTap txt documents session.bicycle }
  | .poll documents, next =>
    DocumentStore.Snapshot session.bicycle documents ∧
      ∃ alarm, (stateCheck userid documents session.alarm).state? = some alarm ∧
        next = { session with alarm := alarm }
  | .reset, next => next = { session with alarm := resetBtnDidTap session.alarm }
  | .deleteAlarm row, next =>
    ∃ document alarm, commitDelete row session.alarm = some (document, alarm) ∧
      next = { bicycle := resetState document session.bicycle, alarm := alarm }

def Session.start (bicycle : Collection F) : Session F where
  bicycle := bicycle
  alarm := .initial

/-- Documents of others stay as they are, and a removal deletes the user's documents of that
    nickname and nothing else. -/
structure Isolated (userid : String) (operation : Operation F) (before after : Collection F) :
    Prop where
  untouched : ∀ id document, before.lookup id = some document →
    own userid ⟨id, document⟩ = false → after.lookup id = some document
  removal : ∀ txt documents, operation = .remove txt documents → ∀ id,
    after.lookup id = (before.lookup id).filter fun document =>
      !(own userid ⟨id, document⟩ && nicknamed txt ⟨id, document⟩)

def scanned (txt : String) (documents : List (QueryDocument F)) : List (QueryDocument F) :=
  if txt.isEmpty then [] else documents.takeWhile named

/-- The operation meets no foreign document: none at the id of a registration, and among the
    documents of the removed nickname the user's are exactly those that are scanned. -/
def Permits (userid : String) (before : Collection F) : Operation F → Prop
  | .register viewFlag txtNumberOfLocker txtNicknameBicycle =>
    ∀ document bicycleNickname id content,
      (nextButtonDidTap viewFlag txtNumberOfLocker txtNicknameBicycle).2 =
        .addServerData document bicycleNickname → documentWithPath document = some [id] →
      before.lookup id = some content → own userid ⟨id, content⟩ = true
  | .remove txt documents => ∀ document ∈ documents, nicknamed txt document = true →
      (document ∈ scanned txt documents ↔ own userid document = true)
  | _ => True

section Register

variable {userid : String}

theorem own_registered (id bicycleNickname : String) (state : Int) :
    own userid (⟨id, registeredDocument bicycleNickname state userid⟩ : QueryDocument F) = true := by
  simp [own, QueryDocument.get]

theorem register_cases {viewFlag : Nat} {txtNumberOfLocker txtNicknameBicycle : String}
    {before after : Collection F}
    (registered : register userid viewFlag txtNumberOfLocker txtNicknameBicycle before =
      some after) :
    (∃ document bicycleNickname id,
      (nextButtonDidTap viewFlag txtNumberOfLocker txtNicknameBicycle).2 =
        .addServerData document bicycleNickname ∧ documentWithPath document = some [id] ∧
      after = DocumentStore.setData id (registeredDocument bicycleNickname 0 userid) before) ∨
    ((∀ document bicycleNickname id,
      (nextButtonDidTap viewFlag txtNumberOfLocker txtNicknameBicycle).2 =
        .addServerData document bicycleNickname → documentWithPath document ≠ some [id]) ∧
      after = before) := by
  unfold register at registered
  cases tap : (nextButtonDidTap viewFlag txtNumberOfLocker txtNicknameBicycle).2 with
  | addServerData document bicycleNickname =>
    rw [tap] at registered
    rcases addServerData_cases registered with ⟨id, path, result⟩ | ⟨elsewhere, result⟩
    · exact .inl ⟨document, bicycleNickname, id, rfl, path, result⟩
    · right
      apply And.intro _ result
      intro other otherNickname id same
      cases same
      exact elsewhere id
  | _ =>
    rw [tap] at registered
    cases registered
    exact .inr ⟨nofun, rfl⟩

theorem register_isolated_iff {viewFlag : Nat} {txtNumberOfLocker txtNicknameBicycle : String}
    {before after : Collection F}
    (registered : register userid viewFlag txtNumberOfLocker txtNicknameBicycle before =
      some after) :
    Isolated userid (.register viewFlag txtNumberOfLocker txtNicknameBicycle) before after ↔
      Permits userid before (.register viewFlag txtNumberOfLocker txtNicknameBicycle) := by
  rcases register_cases registered with
    ⟨document, bicycleNickname, id, tap, path, rfl⟩ | ⟨elsewhere, rfl⟩
  · constructor
    · intro isolated other otherNickname otherId content otherTap otherPath found
      rw [tap] at otherTap
      cases otherTap
      rw [path] at otherPath
      cases otherPath
      by_contra foreign
      have kept := isolated.untouched id content found (Bool.eq_false_iff.mpr foreign)
      rw [DocumentStore.lookup_setData, Option.some.injEq] at kept
      rw [← kept] at foreign
      exact foreign (own_registered _ _ _)
    · intro permits
      refine ⟨?_, nofun⟩
      intro otherId content found foreign
      have different : otherId ≠ id := by
        intro same
        subst same
        rw [permits document bicycleNickname otherId content tap path found] at foreign
        cases foreign
      rw [DocumentStore.lookup_setData_ne different]
      exact found
  · constructor
    · intro _ document bicycleNickname id content tap path
      exact absurd path (elsewhere document bicycleNickname id tap)
    · intro _
      exact ⟨fun _ _ found _ => found, nofun⟩

end Register

section Remove

variable {userid txt : String} {documents : List (QueryDocument F)} {before : Collection F}

theorem bicycleRemove_eq (txt : String) (documents : List (QueryDocument F))
    (before : Collection F) :
    bicycleRemoveBtnDidTap txt documents before =
      DocumentStore.deleteAll (((scanned txt documents).filter (nicknamed txt)).map
        QueryDocument.documentID) before := by
  unfold bicycleRemoveBtnDidTap scanned
  rw [removeMatching_state]
  cases txt.isEmpty <;> rfl

theorem scanned_subset {document : QueryDocument F} (member : document ∈ scanned txt documents) :
    document ∈ documents := by
  unfold scanned at member
  split at member
  · cases member
  · have front := List.takeWhile_prefix named (l := documents)
    exact front.subset member

theorem remove_lookup (txt : String) (taken : DocumentStore.Snapshot before documents) {id : String}
    {content : Document F} (found : before.lookup id = some content) :
    ((⟨id, content⟩ ∈ scanned txt documents ∧ nicknamed txt ⟨id, content⟩ = true) ∧
      (bicycleRemoveBtnDidTap txt documents before).lookup id = none) ∨
    (¬ (⟨id, content⟩ ∈ scanned txt documents ∧ nicknamed txt ⟨id, content⟩ = true) ∧
      (bicycleRemoveBtnDidTap txt documents before).lookup id = some content) := by
  rw [bicycleRemove_eq, DocumentStore.lookup_deleteAll]
  split
  · rename_i requested
    obtain ⟨document, member, same⟩ := List.mem_map.mp requested
    obtain ⟨seen, matching⟩ := List.mem_filter.mp member
    have stored : before.lookup document.1 = some document.2 :=
      taken.mem_iff.mp (scanned_subset seen)
    have equal : document = ⟨id, content⟩ := by
      obtain ⟨key, value⟩ := document
      cases same
      rw [show before.lookup key = some content from found, Option.some.injEq] at stored
      rw [stored]
      rfl
    rw [equal] at seen matching
    exact .inl ⟨⟨seen, matching⟩, rfl⟩
  · rename_i kept
    right
    apply And.intro _ found
    intro deleted
    exact kept (List.mem_map.mpr ⟨_, List.mem_filter.mpr deleted, rfl⟩)

theorem remove_permitted (taken : DocumentStore.Snapshot before documents)
    (permits : Permits userid before (.remove txt documents)) {id : String} {content : Document F}
    (found : before.lookup id = some content) :
    (bicycleRemoveBtnDidTap txt documents before).lookup id =
      (some content).filter fun document =>
        !(own userid ⟨id, document⟩ && nicknamed txt ⟨id, document⟩) := by
  have member : (⟨id, content⟩ : QueryDocument F) ∈ documents := taken.mem_iff.mpr found
  rcases remove_lookup txt taken found with ⟨⟨seen, matching⟩, gone⟩ | ⟨kept, stays⟩
  · have mine := (permits _ member matching).mp seen
    simp [Option.filter_some, gone, mine, matching]
  · cases matching : nicknamed txt ⟨id, content⟩ with
    | false => simp [Option.filter_some, stays, matching]
    | true =>
      have foreign : own userid ⟨id, content⟩ = false := by
        rw [Bool.eq_false_iff]
        intro mine
        exact kept ⟨(permits _ member matching).mpr mine, matching⟩
      simp [Option.filter_some, stays, foreign]

theorem remove_isolated_iff (taken : DocumentStore.Snapshot before documents) :
    Isolated userid (.remove txt documents) before
      (bicycleRemoveBtnDidTap txt documents before) ↔
      Permits userid before (.remove txt documents) := by
  constructor
  · intro isolated document member matching
    obtain ⟨id, content⟩ := document
    have found : before.lookup id = some content := taken.mem_iff.mp member
    rcases remove_lookup txt taken found with ⟨deleted, gone⟩ | ⟨kept, stays⟩
    · have mine : own userid ⟨id, content⟩ = true := by
        by_contra foreign
        have same := isolated.untouched id content found (Bool.eq_false_iff.mpr foreign)
        rw [gone] at same
        cases same
      exact iff_of_true deleted.1 mine
    · have foreign : ¬ own userid ⟨id, content⟩ = true := by
        intro mine
        have removal := isolated.removal txt documents rfl id
        rw [stays, found] at removal
        simp [Option.filter_some, mine, matching] at removal
      exact iff_of_false (fun seen => kept ⟨seen, matching⟩) foreign
  · intro permits
    constructor
    · intro id content found foreign
      rw [remove_permitted taken permits found]
      simp [Option.filter_some, foreign]
    · intro removed listed same id
      cases same
      cases found : before.lookup id with
      | none =>
        rw [bicycleRemove_eq, DocumentStore.lookup_deleteAll, found]
        simp
      | some content => exact remove_permitted taken permits found

end Remove

section Alarm

variable {userid : String}

def RemembersOwn (userid : String) (session : Session F) : Prop :=
  ∀ id ∈ session.alarm.arr, ∀ content, session.bicycle.lookup id = some content →
    own userid ⟨id, content⟩ = true

theorem resetState_own (userid : String) {document id : String} {content : Document F}
    {before : Collection F}
    (found : (resetState document before).lookup id = some content) :
    ∃ earlier, before.lookup id = some earlier ∧
      own userid ⟨id, content⟩ = own userid ⟨id, earlier⟩ := by
  by_cases same : id = document
  · subst same
    rw [resetState, DocumentStore.lookup_updateData, Option.map_eq_some_iff] at found
    obtain ⟨earlier, stored, rfl⟩ := found
    exact ⟨earlier, stored, by simp [own, QueryDocument.get]⟩
  · rw [resetState, DocumentStore.lookup_updateData_ne same] at found
    exact ⟨content, found, rfl⟩

theorem remembersOwn_step {session next : Session F} {operation : Operation F}
    (moved : Operates userid session operation next) (remembers : RemembersOwn userid session) :
    RemembersOwn userid next := by
  cases operation with
  | register viewFlag txtNumberOfLocker txtNicknameBicycle =>
    obtain ⟨bicycle, registered, rfl⟩ := moved
    intro id member content found
    rcases register_cases registered with ⟨_, _, written, _, _, rfl⟩ | ⟨_, rfl⟩
    · by_cases same : id = written
      · subst same
        rw [DocumentStore.lookup_setData, Option.some.injEq] at found
        rw [← found]
        exact own_registered _ _ _
      · rw [DocumentStore.lookup_setData_ne same] at found
        exact remembers id member content found
    · exact remembers id member content found
  | remove txt documents =>
    obtain ⟨taken, rfl⟩ := moved
    intro id member content found
    rw [bicycleRemove_eq, DocumentStore.lookup_deleteAll] at found
    split at found
    · cases found
    · exact remembers id member content found
  | poll documents =>
    obtain ⟨taken, alarm, polled, rfl⟩ := moved
    refine stateCheck_arr _ remembers ?_ polled
    intro document member mine other found
    obtain ⟨id, content⟩ := document
    have stored : session.bicycle.lookup id = some content := taken.mem_iff.mp member
    rw [show session.bicycle.lookup id = some other from found, Option.some.injEq] at stored
    rw [stored]
    exact own_iff.mpr mine
  | reset =>
    cases moved
    exact remembers
  | deleteAlarm row =>
    obtain ⟨document, alarm, deleted, rfl⟩ := moved
    intro id member content found
    obtain ⟨earlier, stored, same⟩ := resetState_own userid found
    rw [same]
    apply remembers id _ earlier stored
    obtain ⟨_, _, _, result⟩ := commitDelete_spec deleted
    rw [result] at member
    exact List.mem_of_mem_eraseIdx member

theorem deleteAlarm_isolated {session : Session F} {row : Nat} {document : String}
    {alarm : AlarmController} (remembers : RemembersOwn userid session)
    (deleted : commitDelete row session.alarm = some (document, alarm)) :
    Isolated userid (.deleteAlarm row) session.bicycle (resetState document session.bicycle) := by
  refine ⟨?_, nofun⟩
  intro id content found foreign
  have different : id ≠ document := by
    intro same
    subst same
    have listed := List.mem_of_getElem? (commitDelete_spec deleted).1
    rw [remembers _ listed content found] at foreign
    cases foreign
  rw [resetState, DocumentStore.lookup_updateData_ne different]
  exact found

end Alarm

def WritesIsolated (F : Type) (userid : String) : Prop :=
  ∀ (bicycle : Collection F) (operations : List (Operation F)) (session next : Session F)
    (operation : Operation F),
    Machine.Path (Operates userid) (.start bicycle) operations session →
    Operates userid session operation next →
      Isolated userid operation session.bicycle next.bicycle

def foreignCollection : Collection Int :=
  DocumentStore.setData "a" (registeredDocument "bike" 0 "v") ∅

end RockYou.App.Safety

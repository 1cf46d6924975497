import Mathlib.Data.List.InsertIdx
import RockYou.App.Safety.AlarmRows
import RockYou.Library.Causation

namespace RockYou.App.Safety

open Cloud Loop Machine

variable {F : Type}

structure Alarm (F : Type) where
  documents : List (QueryDocument F)
  document : QueryDocument F
  bicycleNickname : String
  member : document ∈ documents
  named : FieldValue.asString (document.get "bicycleNickname") = some bicycleNickname

def Alarm.id (entry : Alarm F) : String := entry.document.documentID

def Alarm.text (entry : Alarm F) : String := theftMessage entry.bicycleNickname

/-- The controller with the texts that its rows display, and the snapshot that added each entry. -/
structure AlarmScreen (F : Type) where
  alarm : AlarmController
  displayed : List String
  sources : List (List (QueryDocument F))

def AlarmScreen.initial : AlarmScreen F where
  alarm := .initial
  displayed := []
  sources := []

def screenStep (userid : String) (screen : AlarmScreen F) :
    AlarmEvent F → Option (AlarmScreen F)
  | .stateCheck documents =>
    (stateCheck userid documents screen.alarm).state?.map fun alarm =>
      { alarm := alarm
        displayed := screen.displayed
        sources := screen.sources ++
          List.replicate (alarm.arr.length - screen.alarm.arr.length) documents }
  | .resetBtnDidTap =>
    some { screen with
      alarm := resetBtnDidTap screen.alarm
      displayed := screen.alarm.alarmDatas }
  | .commitDelete row =>
    (commitDelete row screen.alarm).map fun deleted =>
      { alarm := deleted.2
        displayed := screen.displayed.eraseIdx row
        sources := screen.sources.eraseIdx row }

def ScreenHappens (userid : String) (screen : AlarmScreen F) (event : AlarmEvent F)
    (next : AlarmScreen F) : Prop :=
  screenStep userid screen event = some next

structure Shows (entries : List (Alarm F)) (screen : AlarmScreen F) : Prop where
  arr : screen.alarm.arr = entries.map Alarm.id
  alarmDatas : screen.alarm.alarmDatas = entries.map Alarm.text
  sources : screen.sources = entries.map Alarm.documents
  distinct : (entries.map Alarm.text).Nodup
  displayed : screen.displayed <+: entries.map Alarm.text
  rows : screen.alarm.rows = screen.displayed.length

variable {userid : String}

theorem stateCheck_adds {documents : List (QueryDocument F)} {alarm after : AlarmController}
    (polled : (stateCheck userid documents alarm).state? = some after)
    (distinct : alarm.alarmDatas.Nodup) :
    ∃ added : List (Alarm F), (∀ entry ∈ added, entry.documents = documents) ∧
      after.arr = alarm.arr ++ added.map Alarm.id ∧
      after.alarmDatas = alarm.alarmDatas ++ added.map Alarm.text ∧
      after.rows = alarm.rows ∧ after.alarmDatas.Nodup := by
  apply forEach_invariant (fun after => ∃ added : List (Alarm F),
    (∀ entry ∈ added, entry.documents = documents) ∧
      after.arr = alarm.arr ++ added.map Alarm.id ∧
      after.alarmDatas = alarm.alarmDatas ++ added.map Alarm.text ∧
      after.rows = alarm.rows ∧ after.alarmDatas.Nodup) _ _ polled
  · intro document member before after ⟨added, own, arr, alarmDatas, rows, unique⟩ checked
    rcases checkDocument_cases checked with rfl | ⟨nickname, _, named, _, fresh, rfl⟩
    · exact ⟨added, own, arr, alarmDatas, rows, unique⟩
    · let entry : Alarm F := ⟨documents, document, nickname, member, named⟩
      have grown : (before.alarmDatas ++ [theftMessage nickname]).Nodup := by
        rw [← List.concat_eq_append]
        exact unique.concat fresh
      refine ⟨added ++ [entry], ?_, ?_, ?_, rows, grown⟩
      · intro other located
        rcases List.mem_append.mp located with old | new
        · exact own other old
        · rw [List.mem_singleton.mp new]
      · rw [List.map_append, ← List.append_assoc, ← arr]
        rfl
      · rw [List.map_append, ← List.append_assoc, ← alarmDatas]
        rfl
  · exact ⟨[], by simp, by simp, by simp, rfl, distinct⟩

theorem shows_stateCheck {entries : List (Alarm F)} {screen : AlarmScreen F}
    {documents : List (QueryDocument F)} {after : AlarmController} (shows : Shows entries screen)
    (polled : (stateCheck userid documents screen.alarm).state? = some after) :
    ∃ added : List (Alarm F), Shows (entries ++ added)
      { alarm := after
        displayed := screen.displayed
        sources := screen.sources ++
          List.replicate (after.arr.length - screen.alarm.arr.length) documents } := by
  have unique : screen.alarm.alarmDatas.Nodup := by
    rw [shows.alarmDatas]
    exact shows.distinct
  obtain ⟨added, own, arr, alarmDatas, rows, distinct⟩ := stateCheck_adds polled unique
  rw [shows.alarmDatas, ← List.map_append] at alarmDatas
  have column : List.replicate (after.arr.length - screen.alarm.arr.length) documents =
      added.map Alarm.documents := by
    rw [arr, List.length_append, Nat.add_sub_cancel_left, List.length_map]
    exact (List.eq_replicate_iff.mpr ⟨List.length_map .., by simpa using own⟩).symm
  refine ⟨added, ?_⟩
  exact {
    arr := by rw [arr, shows.arr, List.map_append]
    alarmDatas := alarmDatas
    sources := by rw [column, shows.sources, List.map_append]
    distinct := alarmDatas ▸ distinct
    displayed := by
      rw [List.map_append]
      exact shows.displayed.trans (List.prefix_append _ _)
    rows := rows.trans shows.rows }

theorem shows_commitDelete {entries : List (Alarm F)} {screen : AlarmScreen F} {row : Nat}
    {document : String} {after : AlarmController} (shows : Shows entries screen)
    (deleted : commitDelete row screen.alarm = some (document, after)) :
    Shows (entries.eraseIdx row)
      { alarm := after
        displayed := screen.displayed.eraseIdx row
        sources := screen.sources.eraseIdx row } := by
  obtain ⟨_, inside, consistent, result⟩ := commitDelete_spec deleted
  have full : screen.displayed = entries.map Alarm.text := by
    apply shows.displayed.eq_of_length
    have same := (rowsConsistent_iff inside).mp consistent
    rw [← shows.rows, same, shows.alarmDatas]
  rw [result]
  exact {
    arr := by rw [shows.arr, List.eraseIdx_map]
    alarmDatas := by rw [shows.alarmDatas, List.eraseIdx_map]
    sources := by rw [shows.sources, List.eraseIdx_map]
    distinct := by
      rw [← List.eraseIdx_map]
      exact shows.distinct.eraseIdx row
    displayed := by rw [full, List.eraseIdx_map]
    rows := by rw [shows.alarmDatas, full] }

theorem shows_step {entries : List (Alarm F)} {screen next : AlarmScreen F} {event : AlarmEvent F}
    (shows : Shows entries screen) (happens : ScreenHappens userid screen event next) :
    ∃ entries : List (Alarm F), Shows entries next := by
  cases event with
  | stateCheck documents =>
    obtain ⟨after, polled, same⟩ := Option.map_eq_some_iff.mp happens
    obtain ⟨added, kept⟩ := shows_stateCheck shows polled
    exact ⟨_, same ▸ kept⟩
  | resetBtnDidTap =>
    cases happens
    refine ⟨entries, { shows with displayed := ?_, rows := rfl }⟩
    rw [shows.alarmDatas]
  | commitDelete row =>
    obtain ⟨⟨document, after⟩, committed, same⟩ := Option.map_eq_some_iff.mp happens
    exact ⟨_, same ▸ shows_commitDelete shows committed⟩

theorem shows_run {events : List (AlarmEvent F)} {screen : AlarmScreen F}
    (path : Path (ScreenHappens userid) .initial events screen) :
    ∃ entries : List (Alarm F), Shows entries screen := by
  apply path.invariant (fun _ => True)
    (fun screen => ∃ entries : List (Alarm F), Shows entries screen)
  · intro screen event next _ happens ⟨entries, shows⟩
    exact shows_step shows happens
  · exact fun _ _ => True.intro
  · exact ⟨[], ⟨rfl, rfl, rfl, .nil, List.prefix_refl _, rfl⟩⟩

/-- The state of a document becomes 0 if it exists; its other fields and the other documents stay. -/
structure StateReset (id : String) (bicycle next : Collection F) : Prop where
  own : next.lookup id = (bicycle.lookup id).map fun content =>
    Function.update content "state" (some (.integer 0))
  others : ∀ other, other ≠ id → next.lookup other = bicycle.lookup other

theorem resetState_resets (id : String) (bicycle : Collection F) :
    StateReset id bicycle (resetState id bicycle) := by
  constructor
  · rw [resetState, DocumentStore.lookup_updateData]
    congr 1
    funext content name
    by_cases state : name = "state"
    · subst state
      rw [DocumentStore.Document.patch_masked (List.mem_singleton_self _), Function.update_self,
        Function.update_self]
    · rw [DocumentStore.Document.patch_unmasked (by simpa using state),
        Function.update_of_ne state]
  · intro other different
    rw [resetState, DocumentStore.lookup_updateData_ne different]

theorem commitDelete_located {row : Nat} {alarm after : AlarmController} {id document : String}
    (located : alarm.arr[row]? = some id)
    (deleted : commitDelete row alarm = some (document, after)) : document = id := by
  have reset := (commitDelete_spec deleted).1
  rw [located, Option.some.injEq] at reset
  exact reset.symm

/-- Along every run the two lists stay aligned, the rows display a prefix of them, and a deletion
    sets the state of the document whose message its row displays to 0, and nothing else. -/
theorem alarms_aligned {events : List (AlarmEvent F)} {screen : AlarmScreen F}
    (path : Path (ScreenHappens userid) .initial events screen) :
    screen.alarm.arr.length = screen.alarm.alarmDatas.length ∧
    (∀ (index : Nat) id text, screen.alarm.arr[index]? = some id →
      screen.alarm.alarmDatas[index]? = some text →
        ∃ documents document bicycleNickname, screen.sources[index]? = some documents ∧
          document ∈ documents ∧ QueryDocument.documentID document = id ∧
          FieldValue.asString (document.get "bicycleNickname") = some bicycleNickname ∧
          text = theftMessage bicycleNickname) ∧
    screen.alarm.alarmDatas.Nodup ∧
    screen.alarm.rows = screen.displayed.length ∧ screen.displayed <+: screen.alarm.alarmDatas ∧
    ∀ row < screen.displayed.length, row < screen.alarm.alarmDatas.length ∧
      screen.displayed[row]? = screen.alarm.alarmDatas[row]? ∧
      ∃ id, screen.alarm.arr[row]? = some id ∧
        ∀ document after, commitDelete row screen.alarm = some (document, after) → document = id ∧
          ∀ bicycle : Collection F, StateReset id bicycle (resetState document bicycle) := by
  obtain ⟨entries, shows⟩ := shows_run path
  have aligned : screen.alarm.arr.length = screen.alarm.alarmDatas.length := by
    rw [shows.arr, shows.alarmDatas, List.length_map, List.length_map]
  have front : screen.displayed <+: screen.alarm.alarmDatas := by
    rw [shows.alarmDatas]
    exact shows.displayed
  refine ⟨aligned, ?_, ?_, shows.rows, front, ?_⟩
  · intro index id text located listed
    rw [shows.arr, List.getElem?_map] at located
    obtain ⟨entry, found, same⟩ := Option.map_eq_some_iff.mp located
    rw [shows.alarmDatas, List.getElem?_map, found] at listed
    refine ⟨entry.documents, entry.document, entry.bicycleNickname, ?_, entry.member, same,
      entry.named, (Option.some.inj listed).symm⟩
    rw [shows.sources, List.getElem?_map, found]
    rfl
  · rw [shows.alarmDatas]
    exact shows.distinct
  · intro row shown
    have inside : row < screen.alarm.alarmDatas.length :=
      Nat.lt_of_lt_of_le shown front.length_le
    obtain ⟨hidden, whole⟩ := front
    refine ⟨inside, by rw [← whole, List.getElem?_append_left shown], ?_⟩
    have known : row < screen.alarm.arr.length := by omega
    refine ⟨_, List.getElem?_eq_getElem known, ?_⟩
    intro document after deleted
    obtain rfl := commitDelete_located (List.getElem?_eq_getElem known) deleted
    exact ⟨rfl, resetState_resets _⟩

def stolenPair : List (QueryDocument Int) := [stolenNamed "a" "red", stolenNamed "b" "blue"]

def pairScreen : AlarmScreen Int where
  alarm := ⟨["a", "b"], [theftMessage "red", theftMessage "blue"], 2⟩
  displayed := [theftMessage "red", theftMessage "blue"]
  sources := [stolenPair, stolenPair]

def redScreen : AlarmScreen Int where
  alarm := ⟨["a"], [theftMessage "red"], 1⟩
  displayed := [theftMessage "red"]
  sources := [stolenPair]

theorem pairScreen_reached :
    Path (ScreenHappens "u") .initial [.stateCheck stolenPair, .resetBtnDidTap] pairScreen := by
  have polled : ScreenHappens "u" .initial (.stateCheck stolenPair)
      { pairScreen with
        alarm := { pairScreen.alarm with rows := 0 }
        displayed := [] } := rfl
  exact .cons polled (.cons rfl .nil)

theorem alarms_aligned_red :
    commitDelete 1 pairScreen.alarm = some ("b", redScreen.alarm) ∧
      (∀ bicycle : Collection Int, StateReset "b" bicycle (resetState "b" bicycle)) ∧
      redScreen.alarm.arr.length = redScreen.alarm.alarmDatas.length := by
  have deleted : commitDelete 1 pairScreen.alarm = some ("b", redScreen.alarm) := rfl
  obtain ⟨_, _, _, _, _, rows⟩ := alarms_aligned pairScreen_reached
  obtain ⟨_, _, id, located, resets⟩ := rows 1 (by decide)
  cases located
  have happens : ScreenHappens "u" pairScreen (.commitDelete 1) redScreen := rfl
  have reached := pairScreen_reached.append (.cons happens .nil)
  exact ⟨deleted, (resets _ _ deleted).2, (alarms_aligned reached).1⟩

end RockYou.App.Safety

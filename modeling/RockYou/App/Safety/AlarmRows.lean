import RockYou.App.Safety.TheftListing

namespace RockYou.App.Safety

open Cloud Loop Machine Roster

variable {F : Type} (userid : String)

def alarmStep (alarm : AlarmController) : AlarmEvent F → Option AlarmController
  | .stateCheck documents => (stateCheck userid documents alarm).state?
  | .resetBtnDidTap => some (resetBtnDidTap alarm)
  | .commitDelete row => (commitDelete row alarm).map Prod.snd

def AlarmHappens (alarm : AlarmController) (event : AlarmEvent F) (next : AlarmController) : Prop :=
  alarmStep userid alarm event = some next

instance (alarm next : AlarmController) (event : AlarmEvent F) :
    Decidable (AlarmHappens userid alarm event next) :=
  inferInstanceAs (Decidable (_ = _))

def loadedAlarms (alarmDatas : List String) : AlarmController where
  arr := []
  alarmDatas := alarmDatas
  rows := alarmDatas.length

/-- What `deleteRows` demands: `numberOfRowsInSection` has become one less than what is shown. -/
def RowsConsistent (row : Nat) (alarm : AlarmController) : Prop :=
  (alarm.alarmDatas.eraseIdx row).length + 1 = alarm.rows

def NothingNew (alarm : AlarmController) (documents : List (QueryDocument F)) : Prop :=
  ∀ entry ∈ alerts userid documents, entry.1 ∈ alarm.alarmDatas

/-- Every poll that no refresh follows finds nothing new. -/
def UpToDate : AlarmController → List (AlarmEvent F) → Prop
  | _, [] => True
  | alarm, event :: events =>
    (∀ documents, event = .stateCheck documents →
      .resetBtnDidTap ∈ events ∨ NothingNew userid alarm documents) ∧
    ∀ next, AlarmHappens userid alarm event next → UpToDate next events

variable {userid} {alarm next : AlarmController}

theorem rowsConsistent_iff {row : Nat} (inside : row < alarm.alarmDatas.length) :
    RowsConsistent row alarm ↔ alarm.rows = alarm.alarmDatas.length := by
  rw [RowsConsistent, List.length_eraseIdx_of_lt inside]
  omega

theorem commitDelete_isSome_iff {row : Nat} {document : String}
    (known : alarm.arr[row]? = some document) (inside : row < alarm.alarmDatas.length) :
    (commitDelete row alarm).isSome ↔ RowsConsistent row alarm := by
  unfold commitDelete RowsConsistent
  simp only [known, if_pos inside]
  split <;> simp_all

theorem upToDate_cons {event : AlarmEvent F} {events : List (AlarmEvent F)}
    (happens : AlarmHappens userid alarm event next) :
    UpToDate userid alarm (event :: events) ↔
      (∀ documents, event = .stateCheck documents →
        .resetBtnDidTap ∈ events ∨ NothingNew userid alarm documents) ∧
      UpToDate userid next events := by
  have only : (∀ other, AlarmHappens userid alarm event other → UpToDate userid other events) ↔
      UpToDate userid next events := by
    constructor
    · exact fun all => all next happens
    · intro upToDate other same
      rw [AlarmHappens, happens, Option.some.injEq] at same
      exact same ▸ upToDate
  rw [UpToDate, only]

theorem rows_step {event : AlarmEvent F} (happens : AlarmHappens userid alarm event next)
    (bounded : alarm.rows ≤ alarm.alarmDatas.length) :
    next.rows ≤ next.alarmDatas.length ∧
      (next.rows = next.alarmDatas.length ↔ event = .resetBtnDidTap ∨
        (alarm.rows = alarm.alarmDatas.length ∧
          ∀ documents, event = .stateCheck documents → NothingNew userid alarm documents)) := by
  cases event with
  | stateCheck documents =>
    have grown := @enterAll_keys_length _ _ _ (alarm.alarmDatas, alarm.arr) (alerts userid documents)
    have unchanged : (enterAlarms alarm (alerts userid documents)).alarmDatas.length =
        alarm.alarmDatas.length ↔ NothingNew userid alarm documents := enterAll_keys_length_iff
    rw [stateCheck_alerts happens]
    simp only [AlarmEvent.stateCheck.injEq, reduceCtorEq, false_or, forall_eq', ← unchanged]
    simp only [enterAlarms] at grown ⊢
    omega
  | resetBtnDidTap =>
    cases happens
    simp [resetBtnDidTap]
  | commitDelete row =>
    obtain ⟨⟨document, after⟩, committed, same⟩ := Option.map_eq_some_iff.mp happens
    obtain ⟨_, inside, consistent, result⟩ := commitDelete_spec committed
    have shown := (rowsConsistent_iff inside).mp consistent
    rw [← same, result]
    simp [shown]

/-- The table is never ahead of the model, and behind it exactly while a poll that found
    something new has not been followed by a refresh. -/
theorem rows_of_run {final : AlarmController} {events : List (AlarmEvent F)}
    (path : Path (AlarmHappens userid) alarm events final)
    (bounded : alarm.rows ≤ alarm.alarmDatas.length) :
    final.rows ≤ final.alarmDatas.length ∧
      (final.rows = final.alarmDatas.length ↔
        (alarm.rows = alarm.alarmDatas.length ∨ .resetBtnDidTap ∈ events) ∧
          UpToDate userid alarm events) := by
  induction path with
  | nil => simp [UpToDate, bounded]
  | cons happens _ ih =>
    obtain ⟨below, shown⟩ := rows_step happens bounded
    obtain ⟨bound, exact⟩ := ih below
    refine ⟨bound, ?_⟩
    rw [exact, shown, upToDate_cons happens, List.mem_cons]
    grind

def stolenNamed (id bicycleNickname : String) : QueryDocument Int :=
  ⟨id, registeredDocument bicycleNickname 2 "u"⟩

def listed (rows : Nat) : AlarmController := ⟨["a"], [theftMessage "red"], rows⟩

theorem polled_listed :
    AlarmHappens "u" (loadedAlarms []) (.stateCheck [stolenNamed "a" "red"]) (listed 0) := by
  decide

theorem refreshed_listed : AlarmHappens (F := Int) "u" (listed 0) .resetBtnDidTap (listed 1) := rfl

end RockYou.App.Safety

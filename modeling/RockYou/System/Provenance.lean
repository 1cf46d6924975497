import Mathlib
import RockYou.App.Safety.ReadIsolation
import RockYou.System.Installation

namespace RockYou.System

open Cloud App Firmware Machine Path

variable {G F : Type} [Zero F] [BEq F] [LE F] [DecidableLE F] [OfNat F 4]

/-- A run in which a move of a kind made the cloud show something, which it did until a snapshot
    for the user was taken. -/
inductive Provenance (tiny : TinyGPS G F) (kind : Installation G F → InstallationMove F → Prop)
    (shows : Installation G F → Prop) (start : Installation G F) (userid : String)
    (documents : List (QueryDocument F)) :
    List (InstallationMove F) → Installation G F → Prop where
  | intro {writing written queried answered final : Installation G F}
      {before toAnswer since : List (InstallationMove F)} {move : InstallationMove F}
      (earlier : Path (InstallationMoves tiny) start before writing) (wrote : kind writing move)
      (moved : InstallationMoves tiny writing move written) (shown : shows written)
      (kept : Holding (InstallationMoves tiny) shows written toAnswer queried)
      (taken : InstallationMoves tiny queried (.answer userid documents) answered)
      (later : Path (InstallationMoves tiny) answered since final) :
      Provenance tiny kind shows start userid documents
        (before ++ move :: (toAnswer ++ .answer userid documents :: since)) final

def ShowsState (id : String) (value : Int) (installation : Installation G F) : Prop :=
  stateOf id installation.bicycle = some value

def Detects (tiny : TinyGPS G F) (installation : Installation G F) (move : InstallationMove F) :
    Prop :=
  move = .write ∧ ∃ lockCmd around written,
    installation.running = some ⟨.loop lockCmd around, written⟩ ∧
    (writes tiny installation.board (.loop lockCmd around))[written]? =
      some (stateReport .steel) ∧
    Delivers tiny lockCmd around installation.board .steel

variable {tiny : TinyGPS G F} {board : Board G F} {installation next : Installation G F}
  {moves : List (InstallationMove F)} {move : InstallationMove F} {userid id : String}
  {documents : List (QueryDocument F)}

section Causes

theorem sets_stolen (sets : Sets tiny id installation move 2) :
    id = bicycleId ∧ Detects tiny installation move := by
  generalize stolen : (2 : Int) = value at sets
  cases sets with
  | @reported lockCmd around written state device running report delivers =>
    have steel : state = .steel := BicycleState.value_injective stolen.symm
    rw [steel] at report delivers
    exact ⟨device, rfl, lockCmd, around, written, running, report, delivers⟩
  | registered => cases stolen
  | dismissed => cases stolen

theorem state_caused {value : Int} (moved : InstallationMoves tiny installation move next)
    (absent : stateOf id installation.bicycle ≠ some value)
    (present : stateOf id next.bicycle = some value) : Sets tiny id installation move value := by
  rcases moves_state id moved with ⟨other, sets, shown⟩ | same | ⟨removed, _⟩
  · rw [present, Option.some.injEq] at shown
    rw [shown]
    exact sets
  · exact absurd (same.symm.trans present) absent
  · rw [removed] at present
    cases present

theorem answer_caused (moved : InstallationMoves tiny installation move next)
    (absent : (userid, documents) ∉ installation.answers)
    (present : (userid, documents) ∈ next.answers) : move = .answer userid documents := by
  cases move with
  | device step =>
    obtain ⟨_, rfl⟩ := moved
    exact absurd present absent
  | write =>
    obtain ⟨_, _, _, _, _, rfl⟩ := moved
    exact absurd present absent
  | finish =>
    obtain ⟨_, _, _, _, rfl⟩ := moved
    exact absurd present absent
  | register other viewFlag txtNumberOfLocker txtNicknameBicycle =>
    obtain ⟨_, _, rfl⟩ := moved
    exact absurd present absent
  | remove txt others =>
    cases moved
    exact absurd present absent
  | answer other others =>
    obtain ⟨_, rfl⟩ := moved
    rcases List.mem_append.mp present with old | new
    · exact absurd old absent
    · cases List.mem_singleton.mp new
      rfl
  | deliver before other others after =>
    obtain ⟨whole, _, _, rfl⟩ := moved
    rw [whole] at absent
    rcases List.mem_append.mp present with front | back
    · exact absurd (List.mem_append_left _ front) absent
    · exact absurd (List.mem_append_right _ (List.mem_cons_of_mem _ back)) absent
  | refresh other =>
    cases moved
    exact absurd present absent
  | delete other row =>
    obtain ⟨_, _, _, rfl⟩ := moved
    exact absurd present absent

omit [Zero F] [BEq F] [LE F] [DecidableLE F] [OfNat F 4] in
theorem stateCheck_listed {alarm after : AlarmController} (absent : id ∉ alarm.arr)
    (polled : (stateCheck userid documents alarm).state? = some after) (listed : id ∈ after.arr) :
    ∃ content, ⟨id, content⟩ ∈ documents ∧ content "uid" = some (.string userid) ∧
      FieldValue.asInt (content "state") = some 2 := by
  suffices origin : id ∈ alarm.arr ∨ ∃ content, ⟨id, content⟩ ∈ documents ∧
      content "uid" = some (.string userid) ∧ FieldValue.asInt (content "state") = some 2 from
    origin.resolve_left absent
  revert listed
  apply Loop.forEach_invariant (fun final : AlarmController => id ∈ final.arr → id ∈ alarm.arr ∨ _)
    _ .inl polled
  intro document member before final origin checked listed
  rcases checkDocument_cases checked with rfl | ⟨_, owner, _, stolen, _, rfl⟩
  · exact origin listed
  · rcases List.mem_append.mp listed with old | new
    · exact origin old
    · cases List.mem_singleton.mp new
      exact .inr ⟨document.2, member, asString_eq_some.mp owner, stolen⟩

theorem alarm_step (moved : InstallationMoves tiny installation move next)
    (absent : id ∉ (installation.alarms userid).arr) (present : id ∈ (next.alarms userid).arr) :
    ∃ before documents after content, move = .deliver before userid documents after ∧
      (userid, documents) ∈ installation.answers ∧ ⟨id, content⟩ ∈ documents ∧
      content "uid" = some (.string userid) ∧ FieldValue.asInt (content "state") = some 2 := by
  rcases moves_alarms userid moved with same | ⟨before, documents, after, rfl, whole, polled⟩ |
    ⟨_, same⟩ | ⟨row, document, _, deleted⟩
  · rw [same] at present
    exact absurd present absent
  · obtain ⟨content, shown, owner, stolen⟩ := stateCheck_listed absent polled present
    refine ⟨before, documents, after, content, rfl, ?_, shown, owner, stolen⟩
    rw [whole]
    simp
  · rw [same] at present
    exact absurd present absent
  · rw [(commitDelete_spec deleted).2.2.2] at present
    exact absurd (List.mem_of_mem_eraseIdx present) absent

end Causes

section Runs

/-- What a snapshot shows and the start did not was written by a move that can make it shown. -/
theorem snapshot_provenance {kind : Installation G F → InstallationMove F → Prop}
    {shows : Installation G F → Prop}
    (path : Path (InstallationMoves tiny) (.start board) moves installation)
    (answered : (userid, documents) ∈ installation.answers) (unset : ¬ shows (.start board))
    (causes : ∀ before writing move written,
      Path (InstallationMoves tiny) (.start board) before writing →
        InstallationMoves tiny writing move written → ¬ shows writing → shows written →
          kind writing move)
    (read : ∀ queried : Installation G F, DocumentStore.Snapshot queried.bicycle documents →
      shows queried) :
    Provenance tiny kind shows (.start board) userid documents moves installation := by
  obtain ⟨earlier, absent, asked, present, since⟩ :=
    path.caused (fun installation => (userid, documents) ∈ installation.answers)
      List.not_mem_nil answered
  obtain rfl := answer_caused asked absent present
  obtain ⟨first, before, wrote, after, kept⟩ := earlier.caused shows unset (read _ asked.1)
  rw [List.append_assoc, List.cons_append]
  exact .intro first (causes _ _ _ _ first wrote before after) wrote after kept asked
    since.unrestrict

theorem state_provenance (path : Path (InstallationMoves tiny) (.start board) moves installation)
    (answered : (userid, documents) ∈ installation.answers) {content : Document F} {value : Int}
    (member : ⟨id, content⟩ ∈ documents)
    (valued : FieldValue.asInt (content "state") = some value) :
    Provenance tiny (fun installation move => Sets tiny id installation move value)
      (ShowsState id value) (.start board) userid documents moves installation := by
  apply snapshot_provenance path answered
  · intro set
    cases set
  · intro _ _ _ _ _ wrote before after
    exact state_caused wrote before after
  · intro queried taken
    have found : queried.bicycle.lookup id = some content := taken.mem_iff.mp member
    rw [ShowsState, stateOf, found]
    exact valued

theorem Provenance.mono {kind other : Installation G F → InstallationMove F → Prop}
    {shows : Installation G F → Prop} {start : Installation G F}
    (provenance : Provenance tiny kind shows start userid documents moves installation)
    (weaker : ∀ installation move, kind installation move → other installation move) :
    Provenance tiny other shows start userid documents moves installation := by
  obtain ⟨earlier, wrote, moved, shown, kept, taken, later⟩ := provenance
  exact .intro earlier (weaker _ _ wrote) moved shown kept taken later

/-- An alarm of a user names the device's bicycle, and comes from a snapshot that showed it as the
    user's and as stolen since an iteration detected and reported a theft. -/
theorem alarm_caused (path : Path (InstallationMoves tiny) (.start board) moves installation)
    (listed : id ∈ (installation.alarms userid).arr) :
    id = bicycleId ∧ ∃ toDelivery since before documents after content delivering delivered,
      moves = toDelivery ++ .deliver before userid documents after :: since ∧
      Provenance tiny (Detects tiny) (ShowsState id 2) (.start board) userid documents toDelivery
        delivering ∧
      ⟨id, content⟩ ∈ documents ∧ content "uid" = some (.string userid) ∧
      InstallationMoves tiny delivering (.deliver before userid documents after) delivered ∧
      Holding (InstallationMoves tiny)
        (fun installation => id ∈ (installation.alarms userid).arr) delivered since
        installation := by
  obtain ⟨earlier, absent, moved, present, since⟩ :=
    path.caused (fun installation => id ∈ (installation.alarms userid).arr) List.not_mem_nil listed
  obtain ⟨before, documents, after, content, rfl, answered, member, owner, stolen⟩ :=
    alarm_step moved absent present
  have provenance := state_provenance earlier answered member stolen
  have device : id = bicycleId := by
    obtain ⟨_, wrote⟩ := provenance
    exact (sets_stolen wrote).1
  refine ⟨device, _, _, before, documents, after, content, _, _, rfl, ?_, member, owner, moved,
    since⟩
  exact provenance.mono fun _ _ sets => (sets_stolen sets).2

omit [Zero F] [BEq F] [LE F] [DecidableLE F] [OfNat F 4] in
theorem readDocument_cases (userid : String) (document : QueryDocument F)
    (labels : List LabelData) :
    (FieldValue.asString (document.get "uid") = none ∧
        readDocument userid document labels = .stop labels) ∨
      (∃ uid, FieldValue.asString (document.get "uid") = some uid ∧ uid ≠ userid ∧
        readDocument userid document labels = .next labels) ∨
      readDocument userid document labels = .trap ∨
      ∃ nickname state, FieldValue.asString (document.get "uid") = some userid ∧
        FieldValue.asString (document.get "bicycleNickname") = some nickname ∧
        FieldValue.asInt (document.get "state") = some state ∧
        readDocument userid document labels = .next (labels ++ [{
          nickName := nickname
          idNum := document.documentID
          state := stateCheckLabelChange state
          viewColor := stateCheckViewChange state
          labelColor := stateCheckLabelColorChange state }]) := by
  cases owner : FieldValue.asString (document.get "uid") with
  | none =>
    refine .inl ⟨rfl, ?_⟩
    rw [readDocument, owner]
  | some uid =>
    by_cases same : uid = userid
    · subst same
      cases named : FieldValue.asString (document.get "bicycleNickname") with
      | none =>
        refine .inr (.inr (.inl ?_))
        simp only [readDocument, owner, named, if_true]
      | some nickname =>
        cases valued : FieldValue.asInt (document.get "state") with
        | none =>
          refine .inr (.inr (.inl ?_))
          simp only [readDocument, owner, named, valued, if_true]
        | some state =>
          refine .inr (.inr (.inr ⟨nickname, state, rfl, rfl, rfl, ?_⟩))
          simp only [readDocument, owner, named, valued, if_true]
    · refine .inr (.inl ⟨uid, rfl, same, ?_⟩)
      simp only [readDocument, owner, if_neg same]

structure LabelOf (userid : String) (content : Document F) (value : Int) (label : LabelData) :
    Prop where
  owner : content "uid" = some (.string userid)
  named : content "bicycleNickname" = some (.string label.nickName)
  valued : FieldValue.asInt (content "state") = some value
  state : label.state = stateCheckLabelChange value
  viewColor : label.viewColor = stateCheckViewChange value
  labelColor : label.labelColor = stateCheckLabelColorChange value

omit [Zero F] [BEq F] [LE F] [DecidableLE F] [OfNat F 4] in
theorem label_origin {labels : List LabelData} {label : LabelData}
    (read : (readServerData userid documents []).state? = some labels) (listed : label ∈ labels) :
    ∃ content value, ⟨label.idNum, content⟩ ∈ documents ∧
      LabelOf userid content value label := by
  refine Loop.forEach_invariant (fun labels : List LabelData => label ∈ labels →
    ∃ content value, ⟨label.idNum, content⟩ ∈ documents ∧ LabelOf userid content value label)
    ?_ (fun inside => absurd inside List.not_mem_nil) read listed
  intro document member before after origin checked listed
  rcases readDocument_cases userid document before with
    ⟨_, moved⟩ | ⟨_, _, _, moved⟩ | moved | ⟨nickname, value, owner, named, valued, moved⟩ <;>
    rw [moved] at checked <;> cases checked
  · exact origin listed
  · exact origin listed
  · rcases List.mem_append.mp listed with old | new
    · exact origin old
    · obtain rfl := List.mem_singleton.mp new
      exact ⟨document.2, value, member, asString_eq_some.mp owner, asString_eq_some.mp named,
        valued, rfl, rfl, rfl⟩

/-- Every label read from a snapshot shows what the last write to its document's state wrote. -/
theorem label_caused (path : Path (InstallationMoves tiny) (.start board) moves installation)
    (answered : (userid, documents) ∈ installation.answers) {labels : List LabelData}
    {label : LabelData} (read : (readServerData userid documents []).state? = some labels)
    (listed : label ∈ labels) :
    ∃ content value, ⟨label.idNum, content⟩ ∈ documents ∧ LabelOf userid content value label ∧
      Provenance tiny (fun installation move => Sets tiny label.idNum installation move value)
        (ShowsState label.idNum value) (.start board) userid documents moves installation := by
  obtain ⟨content, value, member, origin⟩ := label_origin read listed
  exact ⟨content, value, member, origin, state_provenance path answered member origin.valued⟩

end Runs

def registeredParked : Installation (GPSValue Int) Int :=
  { Installation.start parked with
    bicycle := DocumentStore.setData bicycleId (registeredDocument "bike" 0 "u") ∅ }

def stolenParked : Installation (GPSValue Int) Int :=
  registeredParked.stepped meridianGPS (.loop (-1) (onMeridian 20))

def queriedParked : Installation (GPSValue Int) Int :=
  { stolenParked with answers := [("u", stolenParked.bicycle.entries)] }

def raisedParked : Installation (GPSValue Int) Int :=
  { stolenParked with
    alarms := Function.update stolenParked.alarms "u" ⟨[bicycleId], [theftMessage "bike"], 0⟩ }

/-- The theft reaches the cloud with the third write. -/
def toTheft : List (InstallationMove Int) :=
  [.register "u" 2 bicycleId "bike", .device (.loop (-1) (onMeridian 20)), .write, .write, .write,
    .finish, .answer "u" stolenParked.bicycle.entries]

theorem queriedParked_reached :
    Path (InstallationMoves meridianGPS) (.start parked) toTheft queriedParked :=
  have registered : InstallationMoves meridianGPS (.start parked) (.register "u" 2 bicycleId "bike")
      registeredParked := ⟨_, rfl, rfl⟩
  have stolen : Path (InstallationMoves meridianGPS) registeredParked
      [.device (.loop (-1) (onMeridian 20)), .write, .write, .write, .finish] stolenParked :=
    device_undisturbed rfl
  .cons registered (stolen.append (.cons ⟨.refl _, rfl⟩ .nil))

theorem raisedParked_reached :
    Path (InstallationMoves meridianGPS) (.start parked)
      (toTheft ++ [.deliver [] "u" stolenParked.bicycle.entries []]) raisedParked :=
  queriedParked_reached.append (.cons ⟨rfl, ⟨[bicycleId], [theftMessage "bike"], 0⟩, rfl, rfl⟩ .nil)

theorem alarm_caused_parked :
    ∃ toDelivery documents delivering, Provenance meridianGPS (Detects meridianGPS)
      (ShowsState bicycleId 2) (.start parked) "u" documents toDelivery delivering := by
  have listed : bicycleId ∈ (raisedParked.alarms "u").arr := by decide
  obtain ⟨_, toDelivery, _, _, documents, _, _, delivering, _, _, provenance, _⟩ :=
    alarm_caused raisedParked_reached listed
  exact ⟨toDelivery, documents, delivering, provenance⟩

theorem queriedParked_answered :
    ("u", stolenParked.bicycle.entries) ∈ queriedParked.answers := List.mem_singleton_self _

def stolenLabel : LabelData where
  nickName := "bike"
  idNum := bicycleId
  state := "도난!!"
  viewColor := .red
  labelColor := .red

theorem stolenLabel_read :
    (readServerData "u" stolenParked.bicycle.entries []).state? = some [stolenLabel] := rfl

theorem label_caused_parked :
    ∃ content value, ⟨bicycleId, content⟩ ∈ stolenParked.bicycle.entries ∧
      LabelOf "u" content value stolenLabel ∧
      Provenance meridianGPS (fun installation move => Sets meridianGPS bicycleId installation move
        value) (ShowsState bicycleId value) (.start parked) "u" stolenParked.bicycle.entries
        toTheft queriedParked :=
  label_caused queriedParked_reached queriedParked_answered stolenLabel_read
    (List.mem_singleton_self _)

end RockYou.System

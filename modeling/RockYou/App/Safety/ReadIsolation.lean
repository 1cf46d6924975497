import Mathlib.Data.List.Induction
import Mathlib.Data.List.TakeWhile
import RockYou.App.Alarm
import RockYou.App.BikeList
import RockYou.App.Map
import RockYou.App.Register
import RockYou.App.User

namespace RockYou.App.Safety

open Cloud Loop

variable {F : Type}

def owned (document : QueryDocument F) : Bool :=
  (FieldValue.asString (document.get "uid")).isSome

def ownedAndNamed (document : QueryDocument F) : Bool := owned document && named document

/-- The user's documents before the first one that a loop does not accept. -/
def reached (accepted : QueryDocument F → Bool) (userid : String)
    (documents : List (QueryDocument F)) : List (QueryDocument F) :=
  (documents.takeWhile accepted).filter (own userid)

structure Intact (document : QueryDocument F) : Prop where
  nickname : ∃ value, FieldValue.asString (document.get "bicycleNickname") = some value
  state : ∃ value, FieldValue.asInt (document.get "state") = some value
  position : ∃ value, FieldValue.asGeoPoint (document.get "GPS") = some value

def OwnIntact (userid : String) (documents : List (QueryDocument F)) : Prop :=
  ∀ document ∈ documents, own userid document = true → Intact document

theorem owned_false {document : QueryDocument F} (missing : owned document = false) :
    FieldValue.asString (document.get "uid") = none := by
  simpa [owned] using missing

theorem owned_other {userid : String} {document : QueryDocument F}
    (present : owned document = true) (foreign : own userid document = false) :
    ∃ uid, FieldValue.asString (document.get "uid") = some uid ∧ uid ≠ userid := by
  obtain ⟨uid, found⟩ := Option.isSome_iff_exists.mp present
  have different : uid ≠ userid := by
    intro same
    simp [own, found, same] at foreign
  exact ⟨uid, found, different⟩

theorem mem_reached {accepted : QueryDocument F → Bool} {userid : String}
    {documents : List (QueryDocument F)} {document : QueryDocument F}
    (member : document ∈ reached accepted userid documents) :
    document ∈ documents ∧ own userid document = true := by
  obtain ⟨taken, mine⟩ := List.mem_filter.mp member
  have front := List.takeWhile_prefix accepted (l := documents)
  exact ⟨front.subset taken, mine⟩

theorem reached_front (accepted : QueryDocument F → Bool) (userid : String)
    (documents : List (QueryDocument F)) :
    reached accepted userid documents <+: documents.filter (own userid) := by
  have front := List.takeWhile_prefix accepted (l := documents)
  exact front.filter (own userid)

theorem forEach_reached {σ : Type} {body : QueryDocument F → σ → Flow σ} {userid : String}
    (unowned : ∀ (document : QueryDocument F) state,
      FieldValue.asString (document.get "uid") = none → body document state = .stop state)
    (foreign : ∀ (document : QueryDocument F) state uid,
      FieldValue.asString (document.get "uid") = some uid → uid ≠ userid →
        body document state = .next state)
    (documents : List (QueryDocument F)) (state : σ) :
    forEach body documents state =
      (forEach body (reached owned userid documents) state).closed (documents.all owned) := by
  apply forEach_scan
  · intro document _ state missing
    exact unowned document state (owned_false missing)
  · intro document _ state present notMine
    obtain ⟨uid, found, different⟩ := owned_other present notMine
    exact foreign document state uid found different

section Bikes

def labelInfo (document : QueryDocument F) : LabelData :=
  let state := (FieldValue.asInt (document.get "state")).getD 0
  { nickName := (FieldValue.asString (document.get "bicycleNickname")).getD ""
    idNum := document.documentID
    state := stateCheckLabelChange state
    viewColor := stateCheckViewChange state
    labelColor := stateCheckLabelColorChange state }

theorem readDocument_own {userid : String} {document : QueryDocument F}
    (mine : own userid document = true) (intact : Intact document)
    (labelDataList : List LabelData) :
    readDocument userid document labelDataList = .next (labelDataList ++ [labelInfo document]) := by
  obtain ⟨nickname, named⟩ := intact.nickname
  obtain ⟨state, valued⟩ := intact.state
  simp only [readDocument, own_iff.mp mine, named, valued, if_true, labelInfo, Option.getD_some]

theorem readServerData_reached {userid : String} {documents : List (QueryDocument F)}
    (intact : OwnIntact userid documents) (labelDataList : List LabelData) :
    (readServerData userid documents labelDataList).state? =
      some (labelDataList ++ (reached owned userid documents).map labelInfo) := by
  have unowned (document : QueryDocument F) (labels : List LabelData)
      (missing : FieldValue.asString (document.get "uid") = none) :
      readDocument userid document labels = .stop labels := by
    rw [readDocument, missing]
  have foreign (document : QueryDocument F) (labels : List LabelData) (uid : String)
      (found : FieldValue.asString (document.get "uid") = some uid) (different : uid ≠ userid) :
      readDocument userid document labels = .next labels := by
    simp only [readDocument, found, if_neg different]
  have appends : ∀ document ∈ reached owned userid documents, ∀ labels,
      readDocument userid document labels = .next (labels ++ [labelInfo document]) := by
    intro document member labels
    obtain ⟨located, mine⟩ := mem_reached member
    exact readDocument_own mine (intact document located mine) labels
  rw [readServerData, forEach_reached unowned foreign, forEach_collect appends, Flow.closed_state]
  rfl

end Bikes

section Alarms

theorem stateCheck_reached (userid : String) (documents : List (QueryDocument F))
    (alarm : AlarmController) :
    (stateCheck userid documents alarm).state? =
      (stateCheck userid (reached owned userid documents) alarm).state? := by
  have scanned : stateCheck userid documents alarm =
      (stateCheck userid (reached owned userid documents) alarm).closed (documents.all owned) := by
    apply forEach_reached
    · intro document alarm missing
      exact checkDocument_stop missing alarm
    · intro document alarm uid found different
      exact checkDocument_other found different alarm
  rw [scanned, Flow.closed_state]

end Alarms

section Map

def selected (userid cell : String) (document : QueryDocument F) : Bool :=
  own userid document && nicknamed cell document

def gpsPoint (document : QueryDocument F) : Option (F × F) :=
  FieldValue.asGeoPoint (document.get "GPS")

def reachedPoints (userid cell : String) (documents : List (QueryDocument F)) : List (F × F) :=
  ((documents.takeWhile ownedAndNamed).filter (selected userid cell)).filterMap gpsPoint

def coordinates (view : MapView F) : List (F × F) × (F × F) :=
  (view.read, (view.latitude, view.longitude))

theorem locateDocument_stop {userid : String} {document : QueryDocument F}
    (incomplete : ownedAndNamed document = false) (view : MapView F) :
    locateDocument userid document view = .stop view := by
  unfold locateDocument
  cases owner : FieldValue.asString (document.get "uid") with
  | none => rfl
  | some uid =>
    have nameless : FieldValue.asString (document.get "bicycleNickname") = none := by
      simpa [ownedAndNamed, owned, named, owner] using incomplete
    simp only [nameless]

theorem locateDocument_other {userid : String} {document : QueryDocument F} {view : MapView F}
    (complete : ownedAndNamed document = true)
    (unselected : selected userid view.bicycleNicknameOfCell document = false) :
    locateDocument userid document view = .next (moveLocation view) := by
  obtain ⟨present, nicknamePresent⟩ := Bool.and_eq_true_iff.mp complete
  obtain ⟨uid, owner⟩ := Option.isSome_iff_exists.mp present
  obtain ⟨nickname, found⟩ := Option.isSome_iff_exists.mp nicknamePresent
  have different : ¬ (uid = userid ∧ nickname = view.bicycleNicknameOfCell) := by
    intro same
    simp [selected, own, nicknamed, owner, found, same.1, same.2] at unselected
  simp only [locateDocument, owner, found, if_neg different]

theorem locateDocument_selected {userid : String} {document : QueryDocument F} {view : MapView F}
    (chosen : selected userid view.bicycleNicknameOfCell document = true) {point : F × F}
    (located : gpsPoint document = some point) :
    locateDocument userid document view =
      .next (moveLocation
        { view with latitude := point.1, longitude := point.2, read := view.read ++ [point] }) := by
  obtain ⟨mine, named⟩ := Bool.and_eq_true_iff.mp chosen
  have nickname : FieldValue.asString (document.get "bicycleNickname") =
      some view.bicycleNicknameOfCell := by
    simpa [nicknamed] using named
  rw [gpsPoint] at located
  simp only [locateDocument, own_iff.mp mine, nickname, and_self, if_true, located]

theorem getGPSData_reached {userid : String} {documents : List (QueryDocument F)}
    (intact : OwnIntact userid documents) (view : MapView F) :
    (getGPSData userid documents view).state?.map coordinates =
      some (view.read ++ reachedPoints userid view.bicycleNicknameOfCell documents,
        (reachedPoints userid view.bicycleNicknameOfCell documents).getLast?.getD
          (view.latitude, view.longitude)) := by
  induction documents generalizing view with
  | nil => simp [getGPSData, reachedPoints, Flow.state?, coordinates]
  | cons document documents ih =>
    have rest : OwnIntact userid documents :=
      fun other member => intact other (List.mem_cons_of_mem _ member)
    rw [getGPSData]
    cases complete : ownedAndNamed document with
    | false =>
      rw [forEach_cons, locateDocument_stop complete]
      simp [reachedPoints, complete, Flow.bind, Flow.state?, coordinates]
    | true =>
      cases chosen : selected userid view.bicycleNicknameOfCell document with
      | false =>
        rw [forEach_cons_next (locateDocument_other complete chosen), ← getGPSData,
          ih rest (moveLocation view)]
        simp [reachedPoints, complete, chosen, moveLocation]
      | true =>
        have mine : own userid document = true := (Bool.and_eq_true_iff.mp chosen).1
        obtain ⟨point, located⟩ := (intact document (by simp) mine).position
        rw [forEach_cons_next (locateDocument_selected chosen located), ← getGPSData, ih rest]
        simp [reachedPoints, complete, chosen, moveLocation, gpsPoint, located,
          List.getLast?_cons]

end Map

section Names

def addLine (text : String) (document : QueryDocument F) : String :=
  text ++ (FieldValue.asString (document.get "bicycleNickname")).getD "" ++ "\n"

def nicknameLines (documents : List (QueryDocument F)) : String := documents.foldl addLine ""

theorem nicknameLines_eq_empty {documents : List (QueryDocument F)} :
    nicknameLines documents = "" ↔ documents = [] := by
  constructor
  · intro empty
    induction documents using List.reverseRecOn with
    | nil => rfl
    | append_singleton documents document _ =>
      have length := congrArg String.length empty
      rw [nicknameLines, List.foldl_append] at length
      simp [addLine] at length
  · intro empty
    rw [empty]
    rfl

theorem addBicycleList_reached {userid : String} {documents : List (QueryDocument F)}
    (intact : OwnIntact userid documents) :
    (addBicycleList userid documents .initial).state?.map UserView.listText =
      some (if documents.all owned then nicknameLines (reached owned userid documents) else "") := by
  have unowned (document : QueryDocument F) (view : UserView)
      (missing : FieldValue.asString (document.get "uid") = none) :
      listDocument userid document view = .stop view := by
    rw [listDocument, missing]
  have foreign (document : QueryDocument F) (view : UserView) (uid : String)
      (found : FieldValue.asString (document.get "uid") = some uid) (different : uid ≠ userid) :
      listDocument userid document view = .next view := by
    simp only [listDocument, found, if_neg different]
  have moves : ∀ document ∈ reached owned userid documents, ∀ view,
      listDocument userid document view =
        .next { view with bicycleListString := addLine view.bicycleListString document } := by
    intro document member view
    obtain ⟨located, mine⟩ := mem_reached member
    obtain ⟨nickname, named⟩ := (intact document located mine).nickname
    simp only [listDocument, own_iff.mp mine, named, if_true, addLine, Option.getD_some]
  have text (found : List (QueryDocument F)) (view : UserView) :
      found.foldl (fun view document =>
        { view with bicycleListString := addLine view.bicycleListString document }) view =
        { view with bicycleListString := found.foldl addLine view.bicycleListString } := by
    induction found generalizing view with
    | nil => rfl
    | cons document found ih => exact ih _
  rw [addBicycleList, forEach_reached unowned foreign, forEach_foldl moves, text]
  cases documents.all owned <;> rfl

end Names

section Isolation

structure ReadsAlike (userid : String) (left right : List (QueryDocument F)) : Prop where
  bikes : ∀ labelDataList, (readServerData userid left labelDataList).state? =
    (readServerData userid right labelDataList).state?
  alarms : ∀ alarm, (stateCheck userid left alarm).state? = (stateCheck userid right alarm).state?
  points : ∀ view, (getGPSData userid left view).state?.map coordinates =
    (getGPSData userid right view).state?.map coordinates
  names : (addBicycleList userid left .initial).state?.map UserView.listText =
    (addBicycleList userid right .initial).state?.map UserView.listText

/-- The early returns of the loops cut off the same documents of the user, and the text of the
    names is set in both or neither unless it is empty. -/
structure SameReach (userid : String) (left right : List (QueryDocument F)) : Prop where
  beforeUnowned : (reached owned userid left).length = (reached owned userid right).length
  beforeUnnamed : (reached ownedAndNamed userid left).length =
    (reached ownedAndNamed userid right).length
  finishes : reached owned userid left = [] ∨ left.all owned = right.all owned

variable {userid : String} {left right : List (QueryDocument F)}

theorem OwnIntact.transfer (intact : OwnIntact userid left)
    (same : left.filter (own userid) = right.filter (own userid)) : OwnIntact userid right := by
  intro document member mine
  have shared : document ∈ left.filter (own userid) := by
    rw [same]
    exact List.mem_filter.mpr ⟨member, mine⟩
  exact intact document (List.mem_filter.mp shared).1 mine

theorem reached_eq_iff (same : left.filter (own userid) = right.filter (own userid))
    (accepted : QueryDocument F → Bool) :
    (reached accepted userid left).length = (reached accepted userid right).length ↔
      reached accepted userid left = reached accepted userid right := by
  constructor
  · intro length
    have first := reached_front accepted userid left
    rw [same] at first
    have second := reached_front accepted userid right
    exact (List.prefix_of_prefix_length_le first second (Nat.le_of_eq length)).eq_of_length length
  · intro equal
    rw [equal]

theorem reachedPoints_filter (cell : String) (documents : List (QueryDocument F)) :
    reachedPoints userid cell documents =
      ((reached ownedAndNamed userid documents).filter (nicknamed cell)).filterMap gpsPoint := by
  rw [reachedPoints, reached, List.filter_filter]
  congr 2
  funext document
  exact Bool.and_comm _ _

theorem reachedPoints_length (intact : OwnIntact userid left) (cell : String) :
    (reachedPoints userid cell left).length =
      ((reached ownedAndNamed userid left).filter (nicknamed cell)).length := by
  rw [reachedPoints_filter, List.length_filterMap_eq_countP, List.countP_eq_length]
  intro document member
  obtain ⟨located, mine⟩ := mem_reached (List.mem_filter.mp member).1
  obtain ⟨point, found⟩ := (intact document located mine).position
  rw [gpsPoint, found]
  rfl

theorem eq_of_nickname_counts {front whole : List (QueryDocument F)} (starts : front <+: whole)
    (allNamed : ∀ document ∈ whole, named document = true)
    (counts : ∀ cell, (front.filter (nicknamed cell)).length =
      (whole.filter (nicknamed cell)).length) : front = whole := by
  obtain ⟨back, rfl⟩ := starts
  cases back with
  | nil => simp
  | cons document back =>
    obtain ⟨nickname, found⟩ := Option.isSome_iff_exists.mp (allNamed document (by simp))
    have matching : nicknamed nickname document = true := by simp [nicknamed, found]
    have count := counts nickname
    rw [List.filter_append, List.length_append, List.filter_cons_of_pos matching,
      List.length_cons] at count
    omega

theorem reached_named {document : QueryDocument F}
    (member : document ∈ reached ownedAndNamed userid left) : named document = true := by
  have complete := List.mem_takeWhile_imp (List.mem_filter.mp member).1
  exact (Bool.and_eq_true_iff.mp complete).2

theorem points_iff [Zero F] (same : left.filter (own userid) = right.filter (own userid))
    (intact : OwnIntact userid left) :
    (∀ view, (getGPSData userid left view).state?.map coordinates =
      (getGPSData userid right view).state?.map coordinates) ↔
      reached ownedAndNamed userid left = reached ownedAndNamed userid right := by
  constructor
  · intro alike
    have counts (cell : String) :
        ((reached ownedAndNamed userid left).filter (nicknamed cell)).length =
          ((reached ownedAndNamed userid right).filter (nicknamed cell)).length := by
      have shown := alike (.initial cell)
      rw [getGPSData_reached intact, getGPSData_reached (intact.transfer same)] at shown
      have points : reachedPoints userid cell left = reachedPoints userid cell right := by
        simpa [MapView.initial] using congrArg (Option.map Prod.fst) shown
      rw [← reachedPoints_length intact, ← reachedPoints_length (intact.transfer same), points]
    have first := reached_front ownedAndNamed userid left
    rw [same] at first
    have second := reached_front ownedAndNamed userid right
    rcases List.prefix_or_prefix_of_prefix first second with starts | starts
    · exact eq_of_nickname_counts starts (fun _ => reached_named) counts
    · exact (eq_of_nickname_counts starts (fun _ => reached_named) fun cell =>
        (counts cell).symm).symm
  · intro equal view
    rw [getGPSData_reached intact, getGPSData_reached (intact.transfer same),
      reachedPoints_filter, reachedPoints_filter, equal]

theorem bikes_iff (same : left.filter (own userid) = right.filter (own userid))
    (intact : OwnIntact userid left) :
    (∀ labelDataList, (readServerData userid left labelDataList).state? =
      (readServerData userid right labelDataList).state?) ↔
      reached owned userid left = reached owned userid right := by
  constructor
  · intro alike
    have shown := alike []
    rw [readServerData_reached intact, readServerData_reached (intact.transfer same)] at shown
    have labels := congrArg List.length (Option.some.inj shown)
    apply (reached_eq_iff same owned).mp
    simpa using labels
  · intro equal labelDataList
    rw [readServerData_reached intact, readServerData_reached (intact.transfer same), equal]

/-- Documents of others change what the user reads exactly when the early returns cut the
    user's documents off at another place or leave the list of names unset. -/
theorem reads_alike_iff [Zero F] (same : left.filter (own userid) = right.filter (own userid))
    (intact : OwnIntact userid left) :
    ReadsAlike userid left right ↔ SameReach userid left right := by
  have names := addBicycleList_reached intact
  have otherNames := addBicycleList_reached (intact.transfer same)
  constructor
  · intro alike
    have equal := (bikes_iff same intact).mp alike.bikes
    have points := (points_iff same intact).mp alike.points
    have finishes : reached owned userid left = [] ∨ left.all owned = right.all owned := by
      have text := alike.names
      rw [names, otherNames, ← equal, Option.some.injEq] at text
      by_cases none : reached owned userid left = []
      · exact .inl none
      · right
        have lines : nicknameLines (reached owned userid left) ≠ "" :=
          mt nicknameLines_eq_empty.mp none
        cases first : left.all owned <;> cases second : right.all owned <;>
          simp [first, second] at text ⊢
        · exact lines text
        · exact lines text
    exact ⟨(reached_eq_iff same owned).mpr equal, (reached_eq_iff same ownedAndNamed).mpr points,
      finishes⟩
  · intro reach
    have equal := (reached_eq_iff same owned).mp reach.beforeUnowned
    refine ⟨(bikes_iff same intact).mpr equal, ?_, ?_, ?_⟩
    · intro alarm
      rw [stateCheck_reached, stateCheck_reached userid right, equal]
    · exact (points_iff same intact).mpr ((reached_eq_iff same ownedAndNamed).mp reach.beforeUnnamed)
    · rw [names, otherNames, ← equal]
      rcases reach.finishes with none | both
      · rw [nicknameLines_eq_empty.mpr none, ite_self, ite_self]
      · rw [both]

end Isolation

def completeBike : QueryDocument Int :=
  ⟨"b", Function.update (registeredDocument "mine" 2 "u") "GPS" (some (.geoPoint 37 127))⟩

def foreignBike : QueryDocument Int := ⟨"a", registeredDocument "theirs" 0 "v"⟩

def unregisteredBike : QueryDocument Int :=
  ⟨"a", Function.update DocumentStore.Document.empty "state" (some (.integer 0))⟩

theorem completeBike_intact : OwnIntact "u" [completeBike] := by
  intro document member _
  rw [List.mem_singleton.mp member]
  exact ⟨⟨_, rfl⟩, ⟨_, rfl⟩, ⟨_, rfl⟩⟩

theorem reads_alike_registered : ReadsAlike "u" [completeBike] [foreignBike, completeBike] := by
  have same : [completeBike].filter (own "u") = [foreignBike, completeBike].filter (own "u") := rfl
  exact (reads_alike_iff same completeBike_intact).mpr ⟨by decide, by decide, .inr (by decide)⟩

theorem unregistered_bike_hides_theft :
    ¬ ∀ left right : List (QueryDocument Int),
      left.filter (own "u") = right.filter (own "u") → OwnIntact "u" left →
        ReadsAlike "u" left right := by
  intro isolation
  have alike := isolation [completeBike] [unregisteredBike, completeBike] rfl completeBike_intact
  have alarms := alike.alarms .initial
  revert alarms
  decide

end RockYou.App.Safety

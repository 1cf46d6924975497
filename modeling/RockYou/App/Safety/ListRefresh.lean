import Mathlib.Data.List.Nodup
import RockYou.Library.Machine
import RockYou.App.MainView
import RockYou.App.Safety.ReadIsolation

namespace RockYou.App.Safety

open Cloud Loop Machine

variable {F : Type}

section Showing

variable {userid : String}

def shownBikes (userid : String) (documents : List (QueryDocument F)) : List LabelData :=
  (reached owned userid documents).map labelInfo

theorem showDocument_own {document : QueryDocument F} (mine : own userid document = true)
    (view : MainView) :
    MainView.showDocument userid document view = .trap ∨
      MainView.showDocument userid document view = .next
        (MainView.reloadData
          { view with labelDataList := view.labelDataList ++ [labelInfo document] }) := by
  have owner := own_iff.mp mine
  cases named : FieldValue.asString (document.get "bicycleNickname") with
  | none =>
    left
    simp [MainView.showDocument, readDocument, owner, named]
  | some nickname =>
    cases valued : FieldValue.asInt (document.get "state") with
    | none =>
      left
      simp [MainView.showDocument, readDocument, owner, named, valued]
    | some state =>
      right
      simp [MainView.showDocument, readDocument, owner, named, valued, mine, labelInfo]

theorem showOwn_state {found : List (QueryDocument F)}
    (mine : ∀ document ∈ found, own userid document = true) {view after : MainView}
    (shown : (forEach (MainView.showDocument userid) found view).state? = some after) :
    after = if found = [] then view else MainView.reloadData
      { view with labelDataList := view.labelDataList ++ found.map labelInfo } := by
  induction found generalizing view with
  | nil =>
    cases shown
    rfl
  | cons document found ih =>
    rw [if_neg (List.cons_ne_nil _ _)]
    rcases showDocument_own (mine document (by simp)) view with trapped | moved
    · rw [forEach_cons, trapped] at shown
      cases shown
    · rw [forEach_cons_next moved] at shown
      rw [ih (fun other member => mine other (List.mem_cons_of_mem _ member)) shown]
      cases found with
      | nil => rfl
      | cons other found => simp [MainView.reloadData, MainView.countOfList]

theorem showDocuments_state {documents : List (QueryDocument F)} {view after : MainView}
    (shown : (forEach (MainView.showDocument userid) documents view).state? = some after) :
    after = if reached owned userid documents = [] then view else MainView.reloadData
      { view with labelDataList := view.labelDataList ++ shownBikes userid documents } := by
  have unowned (document : QueryDocument F) (view : MainView)
      (missing : FieldValue.asString (document.get "uid") = none) :
      MainView.showDocument userid document view = .stop view := by
    simp [MainView.showDocument, readDocument, missing]
  have foreign (document : QueryDocument F) (view : MainView) (uid : String)
      (found : FieldValue.asString (document.get "uid") = some uid) (different : uid ≠ userid) :
      MainView.showDocument userid document view = .next view := by
    simp [MainView.showDocument, readDocument, found, different, own]
  rw [forEach_reached unowned foreign, Flow.closed_state] at shown
  exact showOwn_state (fun document member => (mem_reached member).2) shown

end Showing

structure Watched (F : Type) where
  view : MainView
  answered : List (Nat × List (QueryDocument F))

namespace Watched

def initial : Watched F where
  view := .initial
  answered := []

def sync (watched : Watched F) : Watched F where
  view := watched.view.syncCollectioview
  answered := []

end Watched

theorem syncs_of_sync {property : Watched F → Prop}
    (sync : ∀ watched, property watched → property watched.sync) (removed : List String)
    {watched : Watched F} (start : property watched) :
    property (removed.foldl (fun watched _ => watched.sync) watched) := by
  induction removed generalizing watched with
  | nil => exact start
  | cons _ removed ih => exact ih (sync watched start)

def refreshes : MainEvent F → Bool
  | .viewWillAppear => true
  | .didPullToRefresh => true
  | .bicycleRemoveBtnDidTap txt documents =>
    !txt.isEmpty && (removeMatching txt documents).state? != some []
  | _ => false

def record (answered : List (Nat × List (QueryDocument F))) :
    MainEvent F → List (Nat × List (QueryDocument F))
  | .didGetDocuments query (some documents) => answered ++ [(query, documents)]
  | event => if refreshes event then [] else answered

inductive ListStep (userid : String) :
    Option (Watched F) → MainEvent F → Option (Watched F) → Prop where
  | intro {watched : Watched F} {event : MainEvent F} {next : Option (Watched F)}
      (possible : event.Possible watched.view)
      (handled : next = (event.handle userid watched.view).map fun view =>
        { view := view, answered := record watched.answered event }) :
      ListStep userid (some watched) event next

section Cases

variable {userid : String} {watched after : Watched F} {event : MainEvent F}

theorem removed_sync {txt : String} {documents : List (QueryDocument F)} {view : MainView}
    (handled : watched.view.bicycleRemoveBtnDidTap txt documents = some view)
    (answered : after =
      { view := view
        answered := record watched.answered (.bicycleRemoveBtnDidTap txt documents) }) :
    after = watched ∨ ∃ removed : List String,
      after = removed.foldl (fun watched _ => watched.sync) watched.sync := by
  have folded (removed : List String) (watched : Watched F) (empty : watched.answered = []) :
      removed.foldl (fun watched _ => watched.sync) watched =
        { view := removed.foldl (fun view _ => view.syncCollectioview) watched.view
          answered := [] } := by
    induction removed generalizing watched with
    | nil =>
      rw [← empty]
      rfl
    | cons _ removed ih => exact ih watched.sync rfl
  unfold MainView.bicycleRemoveBtnDidTap at handled
  by_cases empty : txt.isEmpty = true
  · rw [if_pos empty] at handled
    cases handled
    left
    rw [answered]
    simp [record, refreshes, empty]
  · rw [if_neg empty] at handled
    obtain ⟨removed, found, same⟩ := Option.map_eq_some_iff.mp handled
    cases removed with
    | nil =>
      left
      rw [answered, ← same]
      simp [record, refreshes, found]
    | cons _ removed =>
      right
      refine ⟨removed, ?_⟩
      rw [folded removed watched.sync rfl, answered, ← same]
      simp [record, refreshes, found, empty, Watched.sync]

/-- Everything an event that does not trap can do: refreshes, an error, a snapshot, a reload, or
    nothing to the list and what is displayed of it. -/
theorem ListStep.cases_some (step : ListStep userid (some watched) event (some after)) :
    (∃ reloaded, (reloaded = watched.view ∨ reloaded = watched.view.reloadData) ∧
      ∃ removed : List String, after = removed.foldl (fun watched _ => watched.sync)
        (Watched.sync { watched with view := reloaded })) ∨
    (∃ query, query ∈ watched.view.pending ∧ event = .didGetDocuments query none ∧
      after = { watched with
        view := { watched.view with pending := watched.view.pending.erase query } }) ∨
    (∃ query documents, query ∈ watched.view.pending ∧
      event = .didGetDocuments query (some documents) ∧
      after =
        { view :=
            let view := { watched.view with pending := watched.view.pending.erase query }
            if reached owned userid documents = [] then view else MainView.reloadData
              { view with labelDataList := view.labelDataList ++ shownBikes userid documents }
          answered := watched.answered ++ [(query, documents)] }) ∨
    after = { watched with view := watched.view.reloadData } ∨
    ∃ bicycleName, after =
      { watched with view := { watched.view with bicycleName := bicycleName } } := by
  obtain ⟨possible, handled⟩ := step
  obtain ⟨view, moved, same⟩ := Option.map_eq_some_iff.mp handled.symm
  cases event with
  | viewWillAppear =>
    left
    cases moved
    exact ⟨_, .inl rfl, [], same.symm⟩
  | didPullToRefresh =>
    left
    cases moved
    exact ⟨_, .inr rfl, [], same.symm⟩
  | bicycleRemoveBtnDidTap txt documents =>
    rcases removed_sync moved same.symm with unchanged | ⟨removed, synced⟩
    · exact .inr (.inr (.inr (.inr ⟨_, unchanged⟩)))
    · exact .inl ⟨_, .inl rfl, removed, synced⟩
  | didGetDocuments query answer =>
    cases answer with
    | none =>
      right; left
      cases moved
      exact ⟨query, possible, rfl, same.symm⟩
    | some documents =>
      right; right; left
      refine ⟨query, documents, possible, rfl, ?_⟩
      rw [← same, showDocuments_state moved]
      rfl
  | reloadData =>
    right; right; right; left
    cases moved
    exact same.symm
  | cellForItemAt item =>
    obtain ⟨_, _, rfl⟩ := Option.map_eq_some_iff.mp moved
    exact .inr (.inr (.inr (.inr ⟨_, same.symm⟩)))
  | didSelectItemAt item =>
    obtain ⟨info, _, rfl⟩ := Option.map_eq_some_iff.mp moved
    exact .inr (.inr (.inr (.inr ⟨_, same.symm⟩)))

end Cases

/-- The list holds the user's bicycles of the snapshots delivered since the last refresh, and
    unless it is empty the cells displayed are its own. -/
structure Tracks (userid : String) (watched : Watched F) : Prop where
  listed : watched.view.labelDataList =
    watched.answered.flatMap fun answer => shownBikes userid answer.2
  displayed : watched.view.items = watched.view.countOfList ∨ watched.view.labelDataList = []

section Tracks

variable {userid : String} {watched after : Watched F} {event : MainEvent F}

theorem tracks_sync (userid : String) (watched : Watched F) : Tracks userid watched.sync := by
  have emptied : watched.sync.view.labelDataList = [] := by
    rw [Watched.sync, MainView.syncCollectioview_eq]
  exact ⟨emptied, .inr emptied⟩

theorem tracks_syncs (userid : String) (removed : List String) (watched : Watched F) :
    Tracks userid (removed.foldl (fun watched _ => watched.sync) watched.sync) :=
  syncs_of_sync (fun watched _ => tracks_sync userid watched) removed (tracks_sync userid watched)

theorem syncs_answered (removed : List String) (watched : Watched F) :
    (removed.foldl (fun watched _ => watched.sync) watched.sync).answered = [] := by
  have emptied : ∀ watched : Watched F, watched.answered = [] → watched.sync.answered = [] :=
    fun _ _ => rfl
  exact syncs_of_sync emptied removed rfl

theorem Tracks.step (tracks : Tracks userid watched)
    (step : ListStep userid (some watched) event (some after)) : Tracks userid after := by
  rcases step.cases_some with ⟨_, _, removed, rfl⟩ | ⟨_, _, _, rfl⟩ |
    ⟨query, documents, _, _, rfl⟩ | rfl | ⟨_, rfl⟩
  · exact tracks_syncs userid removed _
  · exact ⟨tracks.listed, tracks.displayed⟩
  · have appended := congrArg (· ++ shownBikes userid documents) tracks.listed
    by_cases none : reached owned userid documents = []
    · have empty : shownBikes userid documents = [] := by
        rw [shownBikes, none, List.map_nil]
      simp only [none, if_true]
      refine ⟨?_, tracks.displayed⟩
      rw [List.flatMap_append, List.flatMap_singleton, empty, List.append_nil]
      exact tracks.listed
    · simp only [none, if_false]
      refine ⟨?_, .inl rfl⟩
      rw [List.flatMap_append, List.flatMap_singleton]
      exact appended
  · exact ⟨tracks.listed, .inl rfl⟩
  · exact ⟨tracks.listed, tracks.displayed⟩

end Tracks

structure Numbered (watched : Watched F) : Prop where
  issued : ∀ query ∈ watched.view.pending ++ watched.answered.map Prod.fst,
    query < watched.view.issued
  distinct : (watched.view.pending ++ watched.answered.map Prod.fst).Nodup
  latest : ∀ last, watched.view.issued = last + 1 →
    last ∈ watched.view.pending ++ watched.answered.map Prod.fst

theorem Numbered.reload {watched : Watched F} (numbered : Numbered watched) (view : MainView)
    (pending : view.pending = watched.view.pending) (issued : view.issued = watched.view.issued) :
    Numbered { watched with view := view } := by
  refine ⟨?_, ?_, ?_⟩ <;> simp only [pending, issued]
  · exact numbered.issued
  · exact numbered.distinct
  · exact numbered.latest

section Numbered

variable {userid : String} {watched after : Watched F} {event : MainEvent F}

theorem Numbered.sync (numbered : Numbered watched) : Numbered watched.sync := by
  have earlier : ∀ query ∈ watched.view.pending, query < watched.view.issued :=
    fun query member => numbered.issued query (List.mem_append_left _ member)
  rw [Watched.sync, MainView.syncCollectioview_eq]
  refine ⟨?_, ?_, ?_⟩ <;> simp only [List.map_nil, List.append_nil]
  · intro query member
    rcases List.mem_append.mp member with old | new
    · have below := earlier query old
      omega
    · rw [List.mem_singleton.mp new]
      omega
  · rw [List.nodup_append]
    refine ⟨(List.nodup_append.mp numbered.distinct).1, List.nodup_singleton _, ?_⟩
    intro query old other new
    rw [List.mem_singleton.mp new]
    exact Nat.ne_of_lt (earlier query old)
  · intro last next
    have same : last = watched.view.issued := by omega
    rw [same]
    simp

theorem Numbered.syncs (numbered : Numbered watched) (removed : List String) :
    Numbered (removed.foldl (fun watched _ => watched.sync) watched.sync) :=
  syncs_of_sync (fun _ numbered => numbered.sync) removed numbered.sync

theorem Numbered.answer (numbered : Numbered watched) {query : Nat}
    (outstanding : query ∈ watched.view.pending) (documents : List (QueryDocument F))
    (view : MainView) (pending : view.pending = watched.view.pending.erase query)
    (issued : view.issued = watched.view.issued) :
    Numbered { view := view, answered := watched.answered ++ [(query, documents)] } := by
  have moved : (watched.view.pending ++ watched.answered.map Prod.fst).Perm
      (view.pending ++ (watched.answered ++ [(query, documents)]).map Prod.fst) := by
    rw [pending, List.map_append, List.map_singleton, ← List.append_assoc]
    have front := (List.perm_cons_erase outstanding).append_right (watched.answered.map Prod.fst)
    exact front.trans (List.perm_append_singleton _ _).symm
  refine ⟨?_, ?_, ?_⟩ <;> simp only [issued]
  · intro other member
    exact numbered.issued other (moved.mem_iff.mpr member)
  · exact moved.nodup_iff.mp numbered.distinct
  · intro last next
    exact moved.mem_iff.mp (numbered.latest last next)

def CompleteAnswer (userid : String) : MainEvent F → Prop
  | .didGetDocuments _ answer => ∃ documents, answer = some documents ∧ Complete userid documents
  | _ => True

theorem Numbered.step (numbered : Numbered watched) (complete : CompleteAnswer userid event)
    (step : ListStep userid (some watched) event (some after)) : Numbered after := by
  rcases step.cases_some with ⟨reloaded, same, removed, rfl⟩ | ⟨_, _, rfl, _⟩ |
    ⟨query, documents, outstanding, _, rfl⟩ | rfl | ⟨_, rfl⟩
  · apply Numbered.syncs
    rcases same with rfl | rfl
    · exact numbered
    · exact numbered.reload _ rfl rfl
  · obtain ⟨_, impossible, _⟩ := complete
    cases impossible
  · apply numbered.answer outstanding <;> dsimp only <;> split <;> rfl
  · exact numbered.reload _ rfl rfl
  · exact numbered.reload _ rfl rfl

end Numbered

structure Synced (userid : String) (watched : Watched F) : Prop where
  tracks : Tracks userid watched
  numbered : Numbered watched
  complete : ∀ answer ∈ watched.answered, Complete userid answer.2

section Convergence

variable {userid : String} {watched after : Watched F} {event : MainEvent F}

theorem Synced.step (synced : Synced userid watched) (complete : CompleteAnswer userid event)
    (step : ListStep userid (some watched) event (some after)) : Synced userid after := by
  refine ⟨synced.tracks.step step, synced.numbered.step complete step, ?_⟩
  rcases step.cases_some with ⟨reloaded, _, removed, rfl⟩ | ⟨_, _, _, rfl⟩ |
    ⟨query, documents, _, rfl, rfl⟩ | rfl | ⟨_, rfl⟩
  · rw [syncs_answered]
    exact nofun
  · exact synced.complete
  · obtain ⟨_, same, whole⟩ := complete
    cases same
    intro answer member
    rcases List.mem_append.mp member with old | new
    · exact synced.complete answer old
    · rw [List.mem_singleton.mp new]
      exact whole
  · exact synced.complete
  · exact synced.complete

theorem run_synced {events : List (MainEvent F)}
    (complete : ∀ event ∈ events, CompleteAnswer userid event)
    (path : Path (ListStep userid) (some Watched.initial) events (some watched)) :
    Synced userid watched := by
  have initial : Synced userid (Watched.initial (F := F)) :=
    ⟨⟨rfl, .inl rfl⟩, ⟨nofun, List.nodup_nil, nofun⟩, nofun⟩
  have all := path.invariant (CompleteAnswer userid)
    (fun state => ∀ watched, state = some watched → Synced userid watched)
  apply all _ complete _ watched rfl
  · intro state event next whole step synced after same
    rw [same] at step
    cases state with
    | none => cases step
    | some before => exact (synced before rfl).step whole step
  · intro watched same
    cases same
    exact initial

theorem reached_complete {documents : List (QueryDocument F)}
    (complete : Complete userid documents) :
    reached owned userid documents = documents.filter (own userid) := by
  have accepted : documents.takeWhile owned = documents := by
    apply List.takeWhile_eq_self_iff.mpr
    intro document member
    obtain ⟨uid, owner, _⟩ := complete document member
    rw [owned, owner]
    rfl
  rw [reached, accepted]

theorem shownBikes_eq_nil {documents : List (QueryDocument F)}
    (complete : Complete userid documents) :
    shownBikes userid documents = [] ↔ ∀ document ∈ documents, own userid document = false := by
  rw [shownBikes, List.map_eq_nil_iff, reached_complete complete, List.filter_eq_nil_iff]
  simp only [Bool.not_eq_true]

theorem append_perm_iff {α : Type} {left middle right : List α} :
    (left ++ (middle ++ right)).Perm middle ↔ left ++ right = [] := by
  constructor
  · intro permuted
    have lengths := permuted.length_eq
    simp only [List.length_append] at lengths
    apply List.length_eq_zero_iff.mp
    rw [List.length_append]
    omega
  · intro empty
    obtain ⟨noLeft, noRight⟩ := List.append_eq_nil_iff.mp empty
    rw [noLeft, noRight, List.append_nil, List.nil_append]

/-- With no query outstanding, the list holds the user's bicycles of the last query's snapshot,
    each once, exactly when no other snapshot that came since the last refresh has any. -/
theorem list_converges_iff {events : List (MainEvent F)}
    (complete : ∀ event ∈ events, CompleteAnswer userid event)
    (path : Path (ListStep userid) (some Watched.initial) events (some watched))
    (settled : watched.view.pending = []) {last : Nat} (issued : watched.view.issued = last + 1) :
    ∃ documents, (last, documents) ∈ watched.answered ∧
      (watched.view.labelDataList.Perm ((documents.filter (own userid)).map labelInfo) ↔
        ∀ query other, (query, other) ∈ watched.answered → query ≠ last →
          ∀ document ∈ other, own userid document = false) := by
  have synced := run_synced complete path
  have located := synced.numbered.latest last issued
  have distinct := synced.numbered.distinct
  rw [settled, List.nil_append] at located distinct
  obtain ⟨⟨query, documents⟩, member, same⟩ := List.mem_map.mp located
  rw [show query = last from same] at member
  refine ⟨documents, member, ?_⟩
  obtain ⟨before, later, split⟩ := List.append_of_mem member
  rw [split, List.map_append, List.map_cons, List.nodup_middle, List.nodup_cons,
    ← List.map_append] at distinct
  have fresh : last ∉ (before ++ later).map Prod.fst := distinct.1
  have others (answer : Nat × List (QueryDocument F)) :
      answer ∈ before ++ later ↔ answer ∈ watched.answered ∧ answer.1 ≠ last := by
    rw [split, List.mem_append, List.mem_append, List.mem_cons]
    constructor
    · intro either
      refine ⟨either.imp_right .inr, fun same => fresh ?_⟩
      rw [← same]
      exact List.mem_map_of_mem (List.mem_append.mpr either)
    · intro both
      rcases both.1 with old | same | new
      · exact .inl old
      · rw [same] at both
        exact absurd rfl both.2
      · exact .inr new
  have bikes : (documents.filter (own userid)).map labelInfo = shownBikes userid documents := by
    rw [shownBikes, reached_complete (synced.complete _ member)]
  have listed := synced.tracks.listed
  rw [split, List.flatMap_append, List.flatMap_cons] at listed
  rw [listed, bikes, append_perm_iff, ← List.flatMap_append, List.flatMap_eq_nil_iff]
  constructor
  · intro bare query other answered different
    have located := (others (query, other)).mpr ⟨answered, different⟩
    exact (shownBikes_eq_nil (synced.complete _ answered)).mp (bare _ located)
  · intro bare answer located
    obtain ⟨answered, different⟩ := (others answer).mp located
    apply (shownBikes_eq_nil (synced.complete answer answered)).mpr
    exact bare answer.1 answer.2 answered different

end Convergence

def registeredBike : QueryDocument Int := ⟨"a", registeredDocument "bike" 0 "u"⟩

theorem registeredBike_complete (query : Nat) :
    CompleteAnswer "u" (.didGetDocuments query (some [registeredBike])) := by
  refine ⟨[registeredBike], rfl, ?_⟩
  intro document member
  rw [List.mem_singleton.mp member]
  exact ⟨"u", rfl, fun _ => ⟨⟨"bike", rfl⟩, 0, rfl⟩⟩

def singleView : MainView where
  labelDataList := [labelInfo registeredBike]
  items := 1
  bicycleName := ""
  issued := 1
  pending := []

theorem single_refresh_converges :
    ∃ documents, (0, documents) ∈ [(0, [registeredBike])] ∧
      ([labelInfo registeredBike].Perm ((documents.filter (own "u")).map labelInfo) ↔
        ∀ query other, (query, other) ∈ [(0, [registeredBike])] → query ≠ 0 →
          ∀ document ∈ other, own "u" document = false) := by
  have path : Path (ListStep "u") (some Watched.initial)
      [.viewWillAppear, .didGetDocuments 0 (some [registeredBike])]
      (some { view := singleView, answered := [(0, [registeredBike])] }) := by
    apply Path.cons (.intro True.intro rfl)
    apply Path.cons (.intro (List.mem_singleton.mpr rfl) rfl)
    exact .nil
  apply list_converges_iff _ path rfl rfl
  intro event member
  simp only [List.mem_cons, List.not_mem_nil, or_false] at member
  rcases member with rfl | rfl
  · exact True.intro
  · exact registeredBike_complete 0

/-- Two refreshes before the first callback: both callbacks append the one bicycle. -/
theorem overlapping_refreshes_duplicate :
    ¬ ∀ (userid : String) (events : List (MainEvent Int)) (watched : Watched Int),
      (∀ event ∈ events, CompleteAnswer userid event) →
      Path (ListStep userid) (some Watched.initial) events (some watched) →
      watched.view.pending = [] → ∀ last, watched.view.issued = last + 1 →
        ∃ documents, (last, documents) ∈ watched.answered ∧
          watched.view.labelDataList.Perm
            ((documents.filter (own userid)).map labelInfo) := by
  intro converges
  have path : Path (ListStep "u") (some Watched.initial)
      [.viewWillAppear, .didPullToRefresh, .didGetDocuments 0 (some [registeredBike]),
        .didGetDocuments 1 (some [registeredBike])]
      (some
        { view :=
            { labelDataList := [labelInfo registeredBike, labelInfo registeredBike]
              items := 2
              bicycleName := ""
              issued := 2
              pending := [] }
          answered := [(0, [registeredBike]), (1, [registeredBike])] }) := by
    apply Path.cons (.intro True.intro rfl)
    apply Path.cons (.intro True.intro rfl)
    apply Path.cons (.intro (List.mem_cons_self ..) rfl)
    apply Path.cons (.intro (List.mem_singleton.mpr rfl) rfl)
    exact .nil
  have complete : ∀ event ∈ [MainEvent.viewWillAppear, .didPullToRefresh,
      .didGetDocuments 0 (some [registeredBike]), .didGetDocuments 1 (some [registeredBike])],
      CompleteAnswer "u" event := by
    intro event member
    simp only [List.mem_cons, List.not_mem_nil, or_false] at member
    rcases member with rfl | rfl | rfl | rfl
    · exact True.intro
    · exact True.intro
    · exact registeredBike_complete 0
    · exact registeredBike_complete 1
  obtain ⟨documents, member, permuted⟩ := converges "u" _ _ complete path rfl 1 rfl
  have latest : documents = [registeredBike] := by
    simpa using member
  rw [latest] at permuted
  have lengths := permuted.length_eq
  revert lengths
  decide

end RockYou.App.Safety

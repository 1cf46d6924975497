import Mathlib
import RockYou.App.Safety.WriteIsolation
import RockYou.App.User
import RockYou.Firmware.Firebase

namespace RockYou.System

open Cloud App App.Safety Firmware

variable {F : Type} [Zero F]

structure Shared (F : Type) where
  bicycle : Collection F
  alarms : String → AlarmController
  content : FirebaseJson F

def Shared.empty : Shared F where
  bicycle := ∅
  alarms := fun _ => .initial
  content := FirebaseJson.cleared

inductive Action (F : Type) where
  | app (userid : String) (operation : Operation F)
  | state (data : Int) (link : Link)
  | latitude (data : F) (link : Link)
  | longitude (data : F) (link : Link)

def Shared.patched (shared : Shared F) (call : FirebaseJson F × List (Event F)) : Shared F :=
  { shared with
    bicycle := call.2.foldl observeCloud shared.bicycle
    content := call.1 }

def Acts (shared : Shared F) : Action F → Shared F → Prop
  | .app userid operation, next =>
    ∃ session, Operates userid { bicycle := shared.bicycle, alarm := shared.alarms userid }
        operation session ∧
      next = { shared with
        bicycle := session.bicycle
        alarms := Function.update shared.alarms userid session.alarm }
  | .state data link, next =>
    next = shared.patched (updateFirebase .state data link shared.content)
  | .latitude data link, next =>
    next = shared.patched (updateGPSFirebase .latitude data link shared.content)
  | .longitude data link, next =>
    next = shared.patched (updateGPSFirebase .longitude data link shared.content)

section Documents

omit [Zero F]

structure CompleteDocument (content : Document F) : Prop where
  uid : ∃ value, content "uid" = some (.string value)
  bicycleNickname : ∃ value, content "bicycleNickname" = some (.string value)
  state : ∃ value, content "state" = some (.integer value)

def Anonymous (content : Document F) : Prop :=
  content "uid" = none ∧ content "bicycleNickname" = none

/-- Only the device's document may be incomplete, and then it names neither owner nor bike. -/
def Schema (bicycle : Collection F) : Prop :=
  ∀ id content, bicycle.lookup id = some content →
    CompleteDocument content ∨ (id = bicycleId ∧ Anonymous content)

def SameOwner (content later : Document F) : Prop :=
  later "uid" = content "uid" ∧ later "bicycleNickname" = content "bicycleNickname" ∧
    (later "state" = content "state" ∨ ∃ value, later "state" = some (.integer value))

/-- Every document after a step is complete, descends from the one before, or was created by
    the device. -/
def Evolves (before after : Collection F) : Prop :=
  ∀ id later, after.lookup id = some later →
    CompleteDocument later ∨ (∃ content, before.lookup id = some content ∧ SameOwner content later) ∨
      (id = bicycleId ∧ before.lookup id = none ∧ Anonymous later)

variable {before after : Collection F} {content later : Document F}

theorem SameOwner.refl (content : Document F) : SameOwner content content :=
  ⟨rfl, rfl, .inl rfl⟩

theorem SameOwner.complete (same : SameOwner content later) (complete : CompleteDocument content) :
    CompleteDocument later := by
  obtain ⟨uid, bicycleNickname, state⟩ := same
  have named := complete.uid
  rw [← uid] at named
  have nicknamed := complete.bicycleNickname
  rw [← bicycleNickname] at nicknamed
  have valued : ∃ value, later "state" = some (.integer value) := by
    rcases state with kept | written
    · rw [kept]
      exact complete.state
    · exact written
  exact ⟨named, nicknamed, valued⟩

theorem SameOwner.anonymous (same : SameOwner content later) (anonymous : Anonymous content) :
    Anonymous later :=
  ⟨same.1.trans anonymous.1, same.2.1.trans anonymous.2⟩

theorem Evolves.refl (bicycle : Collection F) : Evolves bicycle bicycle :=
  fun _ content found => .inr (.inl ⟨content, found, .refl content⟩)

theorem Evolves.schema (evolves : Evolves before after) (schema : Schema before) :
    Schema after := by
  intro id later found
  rcases evolves id later found with complete | ⟨content, stored, same⟩ | ⟨device, _, anonymous⟩
  · exact .inl complete
  · rcases schema id content stored with complete | ⟨device, anonymous⟩
    · exact .inl (same.complete complete)
    · exact .inr ⟨device, same.anonymous anonymous⟩
  · exact .inr ⟨device, anonymous⟩

theorem Evolves.complete (evolves : Evolves before after) {id : String}
    (stored : before.lookup id = some content) (complete : CompleteDocument content)
    (found : after.lookup id = some later) : CompleteDocument later := by
  rcases evolves id later found with done | ⟨earlier, same, owner⟩ | ⟨_, absent, _⟩
  · exact done
  · rw [stored, Option.some.injEq] at same
    rw [← same] at owner
    exact owner.complete complete
  · rw [stored] at absent
    cases absent

theorem registeredDocument_complete (bicycleNickname : String) (state : Int) (uid : String) :
    CompleteDocument (registeredDocument bicycleNickname state uid : Document F) :=
  ⟨⟨_, rfl⟩, ⟨_, rfl⟩, ⟨_, rfl⟩⟩

theorem setData_evolves (id : String) (complete : CompleteDocument content) :
    Evolves before (DocumentStore.setData id content before) := by
  intro other later found
  by_cases same : other = id
  · subst same
    rw [DocumentStore.lookup_setData, Option.some.injEq] at found
    exact .inl (found ▸ complete)
  · rw [DocumentStore.lookup_setData_ne same] at found
    exact .inr (.inl ⟨later, found, .refl later⟩)

theorem deleteAll_evolves (ids : List String) :
    Evolves before (DocumentStore.deleteAll ids before) := by
  intro id later found
  rw [DocumentStore.lookup_deleteAll] at found
  split at found
  · cases found
  · exact .inr (.inl ⟨later, found, .refl later⟩)

theorem resetState_evolves (document : String) : Evolves before (resetState document before) := by
  intro id later found
  by_cases same : id = document
  · subst same
    rw [resetState, DocumentStore.lookup_updateData, Option.map_eq_some_iff] at found
    obtain ⟨content, stored, rfl⟩ := found
    refine .inr (.inl ⟨content, stored, ?_⟩)
    exact ⟨rfl, rfl, .inr ⟨0, rfl⟩⟩
  · rw [resetState, DocumentStore.lookup_updateData_ne same] at found
    exact .inr (.inl ⟨later, found, .refl later⟩)

theorem patch_evolves {updateMask : List String} {document : Document F}
    (noUid : "uid" ∉ updateMask) (noName : "bicycleNickname" ∉ updateMask)
    (state : "state" ∈ updateMask → ∃ value, document "state" = some (.integer value)) :
    Evolves before (DocumentStore.patch bicycleId updateMask document before) := by
  intro id later found
  by_cases same : id = bicycleId
  · subst same
    rw [DocumentStore.lookup_patch, Option.some.injEq] at found
    subst found
    have uid := DocumentStore.Document.patch_unmasked noUid document
    have bicycleNickname := DocumentStore.Document.patch_unmasked noName document
    cases stored : before.lookup bicycleId with
    | none => exact .inr (.inr ⟨rfl, rfl, uid _, bicycleNickname _⟩)
    | some content =>
      refine .inr (.inl ⟨content, rfl, uid _, bicycleNickname _, ?_⟩)
      by_cases masked : "state" ∈ updateMask
      · right
        obtain ⟨value, written⟩ := state masked
        exact ⟨value, (DocumentStore.Document.patch_masked masked _ _).trans written⟩
      · exact .inl (DocumentStore.Document.patch_unmasked masked _ _)
  · rw [DocumentStore.lookup_patch_ne same] at found
    exact .inr (.inl ⟨later, found, .refl later⟩)

end Documents

section Steps

variable {shared next : Shared F} {action : Action F}

omit [Zero F] in
theorem operates_evolves {userid : String} {session result : Session F} {operation : Operation F}
    (moved : Operates userid session operation result) :
    Evolves session.bicycle result.bicycle := by
  cases operation with
  | register viewFlag txtNumberOfLocker txtNicknameBicycle =>
    obtain ⟨bicycle, registered, rfl⟩ := moved
    rcases register_cases registered with ⟨_, _, id, _, _, rfl⟩ | ⟨_, rfl⟩
    · exact setData_evolves id (registeredDocument_complete _ _ _)
    · exact .refl _
  | remove txt documents =>
    obtain ⟨_, rfl⟩ := moved
    rw [bicycleRemove_eq]
    exact deleteAll_evolves _
  | poll documents =>
    obtain ⟨_, _, _, rfl⟩ := moved
    exact .refl _
  | reset =>
    cases moved
    exact .refl _
  | deleteAlarm row =>
    obtain ⟨document, _, _, rfl⟩ := moved
    exact resetState_evolves document

theorem state_evolves (data : Int) (link : Link) (content : FirebaseJson F)
    (bicycle : Collection F) :
    Evolves bicycle ((updateFirebase .state data link content).2.foldl observeCloud bicycle) := by
  rw [updateFirebase_state, List.foldl_cons, sendPatch_cloud]
  split
  · exact patch_evolves (by decide) (by decide) fun _ => ⟨data, document_state data⟩
  · exact .refl _

theorem position_evolves {coordinate : UpdateValue}
    (either : coordinate = .latitude ∨ coordinate = .longitude) (data : F) (link : Link)
    (content : FirebaseJson F) (bicycle : Collection F) :
    Evolves bicycle
      ((updateGPSFirebase coordinate data link content).2.foldl observeCloud bicycle) := by
  have unmasked : "state" ∈ ["GPS"] → False := by decide
  rcases either with rfl | rfl
  all_goals
    simp only [updateGPSFirebase, List.foldl_cons, List.cons_append,
      List.nil_append, sendPatch_cloud]
    split
    · exact patch_evolves (by decide) (by decide) fun masked => (unmasked masked).elim
    · exact .refl _

theorem acts_evolves (moved : Acts shared action next) : Evolves shared.bicycle next.bicycle := by
  cases action with
  | app userid operation =>
    obtain ⟨session, operated, rfl⟩ := moved
    exact operates_evolves operated
  | state data link =>
    cases moved
    exact state_evolves data link shared.content shared.bicycle
  | latitude data link =>
    cases moved
    exact position_evolves (.inl rfl) data link shared.content shared.bicycle
  | longitude data link =>
    cases moved
    exact position_evolves (.inr rfl) data link shared.content shared.bicycle

theorem acts_present (moved : Acts shared action next) {id : String}
    (stored : (shared.bicycle.lookup id).isSome) :
    (next.bicycle.lookup id).isSome ∨
      ∃ userid txt documents, action = .app userid (.remove txt documents) ∧
        next.bicycle.lookup id = none := by
  cases action with
  | app userid operation =>
    obtain ⟨session, operated, rfl⟩ := moved
    cases operation with
    | register viewFlag txtNumberOfLocker txtNicknameBicycle =>
      obtain ⟨bicycle, registered, rfl⟩ := operated
      left
      rcases register_cases registered with ⟨_, _, written, _, _, rfl⟩ | ⟨_, rfl⟩
      · by_cases same : id = written
        · rw [same, DocumentStore.lookup_setData]
          rfl
        · rw [DocumentStore.lookup_setData_ne same]
          exact stored
      · exact stored
    | remove txt documents =>
      cases found : session.bicycle.lookup id with
      | none => exact .inr ⟨userid, txt, documents, rfl, rfl⟩
      | some content => exact .inl rfl
    | poll documents =>
      obtain ⟨_, _, _, rfl⟩ := operated
      exact .inl stored
    | reset =>
      cases operated
      exact .inl stored
    | deleteAlarm row =>
      obtain ⟨document, _, _, rfl⟩ := operated
      left
      by_cases same : id = document
      · rw [same] at stored ⊢
        rw [resetState, DocumentStore.lookup_updateData, Option.isSome_map]
        exact stored
      · rw [resetState, DocumentStore.lookup_updateData_ne same]
        exact stored
  | state data link =>
    cases moved
    exact .inl (observeCloud_present _ stored)
  | latitude data link =>
    cases moved
    exact .inl (observeCloud_present _ stored)
  | longitude data link =>
    cases moved
    exact .inl (observeCloud_present _ stored)

end Steps

section Readers

omit [Zero F]

variable {bicycle : Collection F} {documents : List (QueryDocument F)}

theorem owned_complete (schema : Schema bicycle)
    (taken : DocumentStore.Snapshot bicycle documents) {document : QueryDocument F}
    (member : document ∈ documents) {uid : String}
    (owner : FieldValue.asString (document.get "uid") = some uid) :
    (∃ nickname, FieldValue.asString (document.get "bicycleNickname") = some nickname) ∧
      ∃ state, FieldValue.asInt (document.get "state") = some state := by
  have stored : bicycle.lookup document.1 = some document.2 := taken.mem_iff.mp member
  rcases schema _ _ stored with complete | ⟨_, nobody, _⟩
  · obtain ⟨nickname, named⟩ := complete.bicycleNickname
    obtain ⟨state, valued⟩ := complete.state
    exact ⟨⟨nickname, by rw [QueryDocument.get, named, asString_string]⟩,
      state, by rw [QueryDocument.get, valued, asInt_integer]⟩
  · rw [QueryDocument.get, nobody] at owner
    cases owner

theorem scan_never_traps {σ : Type} {body : QueryDocument F → σ → Loop.Flow σ}
    (schema : Schema bicycle) (taken : DocumentStore.Snapshot bicycle documents)
    (unowned : ∀ (document : QueryDocument F) state,
      FieldValue.asString (document.get "uid") = none → body document state ≠ .trap)
    (complete : ∀ (document : QueryDocument F) state uid nickname value,
      FieldValue.asString (document.get "uid") = some uid →
      FieldValue.asString (document.get "bicycleNickname") = some nickname →
      FieldValue.asInt (document.get "state") = some value → body document state ≠ .trap)
    (state : σ) : Loop.forEach body documents state ≠ .trap := by
  apply Loop.forEach_no_trap
  intro document member state
  cases owner : FieldValue.asString (document.get "uid") with
  | none => exact unowned document state owner
  | some uid =>
    obtain ⟨⟨nickname, named⟩, value, valued⟩ := owned_complete schema taken member owner
    exact complete document state uid nickname value owner named valued

theorem readers_never_trap (schema : Schema bicycle)
    (taken : DocumentStore.Snapshot bicycle documents) (userid : String) :
    (∀ alarm, stateCheck userid documents alarm ≠ .trap) ∧
      (∀ labelDataList, readServerData userid documents labelDataList ≠ .trap) ∧
      ∀ view, addBicycleList userid documents view ≠ .trap := by
  refine ⟨?_, ?_, ?_⟩
  · apply scan_never_traps schema taken
    · intro document alarm owner
      rw [checkDocument_stop owner]
      exact nofun
    · intro document alarm uid nickname value owner named valued
      by_cases same : uid = userid
      · rw [same] at owner
        rw [checkDocument_own owner named valued]
        exact nofun
      · rw [checkDocument_other owner same]
        exact nofun
  · apply scan_never_traps schema taken
    · intro document labels owner
      simp [readDocument, owner]
    · intro document labels uid nickname value owner named valued
      by_cases same : uid = userid <;> simp [readDocument, owner, named, valued, same]
  · intro view
    have scanned : Loop.forEach (listDocument userid) documents view ≠ .trap := by
      apply scan_never_traps schema taken
      · intro document view owner
        simp [listDocument, owner]
      · intro document view uid nickname value owner named valued
        by_cases same : uid = userid <;> simp [listDocument, owner, named, same]
    unfold addBicycleList
    cases outcome : Loop.forEach (listDocument userid) documents view with
    | next middle => exact nofun
    | stop final => exact nofun
    | trap => exact absurd outcome scanned

end Readers

omit [Zero F] in
theorem schema_empty : Schema (∅ : Collection F) := by
  intro id content found
  cases found

/-- In every reachable state only the device's own document may be incomplete, and then it names
    neither owner nor bike; a document is complete from its registration to its removal, and no
    reader traps. -/
theorem schema_holds {actions : List (Action F)} {shared : Shared F}
    (path : Machine.Path Acts .empty actions shared) :
    Schema shared.bicycle ∧
    (∀ action next id content, Acts shared action next → shared.bicycle.lookup id = some content →
      CompleteDocument content →
        (∃ later, next.bicycle.lookup id = some later ∧ CompleteDocument later) ∨
          ∃ userid txt documents, action = .app userid (.remove txt documents) ∧
            next.bicycle.lookup id = none) ∧
    ∀ userid documents, DocumentStore.Snapshot shared.bicycle documents →
      (∀ alarm, stateCheck userid documents alarm ≠ .trap) ∧
        (∀ labelDataList, readServerData userid documents labelDataList ≠ .trap) ∧
        ∀ view, addBicycleList userid documents view ≠ .trap := by
  have schema : Schema shared.bicycle :=
    path.invariant (fun _ => True) (fun shared => Schema shared.bicycle)
      (fun _ _ _ _ moved schema => (acts_evolves moved).schema schema) (fun _ _ => True.intro)
      schema_empty
  constructor
  · exact schema
  constructor
  · intro action next id content moved stored complete
    have listed : (shared.bicycle.lookup id).isSome := by simp [stored]
    rcases acts_present moved listed with present | removed
    · obtain ⟨later, found⟩ := Option.isSome_iff_exists.mp present
      exact .inl ⟨later, found, (acts_evolves moved).complete stored complete found⟩
    · exact .inr removed
  · intro userid documents taken
    exact readers_never_trap schema taken userid

def reported : Shared Int :=
  { bicycle := DocumentStore.patch bicycleId ["state"]
      (FirebaseJson.cleared.set ["fields", "state", "integerValue"] (.text 1)).document
      (DocumentStore.setData bicycleId (registeredDocument "bike" 0 "u") ∅)
    alarms := Function.update (fun _ => .initial) "u" .initial
    content := FirebaseJson.cleared.set ["fields", "state", "integerValue"] (.text 1) }

theorem schema_holds_reported : Schema reported.bicycle := by
  have path : Machine.Path Acts .empty
      [.app "u" (.register 2 bicycleId "bike"), .state 1 .delivered] reported :=
    .cons ⟨_, ⟨_, rfl, rfl⟩, rfl⟩ (.cons rfl .nil)
  exact (schema_holds path).1

theorem report_creates_incomplete_document :
    ¬ ∀ (actions : List (Action Int)) (shared : Shared Int),
      Machine.Path Acts .empty actions shared →
        ∀ id content, shared.bicycle.lookup id = some content → CompleteDocument content := by
  intro claimed
  have complete := claimed [.state 0 .delivered] _ (.cons rfl .nil) bicycleId _ rfl
  obtain ⟨uid, owner⟩ := complete.uid
  cases owner

end RockYou.System

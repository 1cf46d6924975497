import RockYou.Library.Loop
import RockYou.Cloud.Document

namespace RockYou.App

open Cloud Loop

variable {F : Type}

inductive UIColor where
  | yellow
  | white
  | red
  | black
  deriving DecidableEq

def stateCheckViewChange (state : Int) : UIColor :=
  if state = 1 then .yellow else if state = 0 then .white else .red

def stateCheckLabelColorChange (state : Int) : UIColor :=
  if state = 1 then .black else if state = 0 then .black else .red

def stateCheckLabelChange (state : Int) : String :=
  if state = 1 then "잠금중" else if state = 0 then "주행중" else "도난!!"

structure LabelData where
  nickName : String
  idNum : String
  state : String
  viewColor : UIColor
  labelColor : UIColor
  deriving DecidableEq

def readDocument (userid : String) (document : QueryDocument F) (labelDataList : List LabelData) :
    Flow (List LabelData) :=
  match FieldValue.asString (document.get "uid") with
  | none => .stop labelDataList
  | some documentUid =>
    if documentUid = userid then
      match FieldValue.asString (document.get "bicycleNickname"),
        FieldValue.asInt (document.get "state") with
      | some bicycleNickname, some state =>
        let labelInfo : LabelData :=
          { nickName := bicycleNickname
            idNum := document.documentID
            state := stateCheckLabelChange state
            viewColor := stateCheckViewChange state
            labelColor := stateCheckLabelColorChange state }
        .next (labelDataList ++ [labelInfo])
      | _, _ => .trap
    else .next labelDataList

def readServerData (userid : String) (documents : List (QueryDocument F))
    (labelDataList : List LabelData) : Flow (List LabelData) :=
  forEach (readDocument userid) documents labelDataList

/-- The body of the loop in `bicycleRemoveBtnDidTap`; the state is the list of the ids whose
    deletion was requested, each together with a refresh of the list. -/
def removeDocument (txt : String) (document : QueryDocument F) (removed : List String) :
    Flow (List String) :=
  match FieldValue.asString (document.get "bicycleNickname") with
  | none => .stop removed
  | some txtname => .next (if txtname = txt then removed ++ [document.documentID] else removed)

def removeMatching (txt : String) (documents : List (QueryDocument F)) : Flow (List String) :=
  forEach (removeDocument txt) documents []

def bicycleRemoveBtnDidTap (txt : String) (documents : List (QueryDocument F))
    (bicycle : Collection F) : Collection F :=
  if txt.isEmpty then bicycle
  else
    match (removeMatching txt documents).state? with
    | some removed => DocumentStore.deleteAll removed bicycle
    | none => bicycle

def own (userid : String) (document : QueryDocument F) : Bool :=
  FieldValue.asString (document.get "uid") == some userid

def named (document : QueryDocument F) : Bool :=
  (FieldValue.asString (document.get "bicycleNickname")).isSome

def nicknamed (txt : String) (document : QueryDocument F) : Bool :=
  FieldValue.asString (document.get "bicycleNickname") == some txt

theorem own_iff {userid : String} {document : QueryDocument F} :
    own userid document = true ↔ FieldValue.asString (document.get "uid") = some userid := by
  simp [own]

theorem removeDocument_nicknamed {txt : String} {document : QueryDocument F}
    (matching : nicknamed txt document = true) (removed : List String) :
    removeDocument txt document removed = .next (removed ++ [document.documentID]) := by
  have found : FieldValue.asString (document.get "bicycleNickname") = some txt := by
    simpa [nicknamed] using matching
  simp only [removeDocument, found, if_true]

theorem removeMatching_state (txt : String) (documents : List (QueryDocument F)) :
    (removeMatching txt documents).state? =
      some (((documents.takeWhile named).filter (nicknamed txt)).map QueryDocument.documentID) := by
  have returns : ∀ document ∈ documents, ∀ removed, named document = false →
      removeDocument txt document removed = .stop removed := by
    intro document _ removed nameless
    have missing : FieldValue.asString (QueryDocument.get document "bicycleNickname") = none := by
      simpa [named] using nameless
    rw [removeDocument, missing]
  have skips : ∀ document ∈ documents, ∀ removed, named document = true →
      nicknamed txt document = false → removeDocument txt document removed = .next removed := by
    intro document _ removed present different
    obtain ⟨txtname, found⟩ := Option.isSome_iff_exists.mp present
    have other : txtname ≠ txt := by
      intro same
      simp [nicknamed, found, same] at different
    simp only [removeDocument, found, if_neg other]
  have appends : ∀ document ∈ (documents.takeWhile named).filter (nicknamed txt), ∀ removed,
      removeDocument txt document removed =
        .next (removed ++ [QueryDocument.documentID document]) := by
    intro document member removed
    exact removeDocument_nicknamed (List.mem_filter.mp member).2 removed
  rw [removeMatching, forEach_scan returns skips, forEach_collect appends, Flow.closed_state]
  rfl

end RockYou.App

import Mathlib.Logic.Function.Iterate
import RockYou.App.BikeList

namespace RockYou.App

open Cloud Loop

variable {F : Type}

/-- `MainViewController`: the labels of its view model, the items its collection view displays,
    the nickname last chosen, and the queries of `readServerData`, numbered in the order of their
    issue, with those still outstanding. -/
structure MainView where
  labelDataList : List LabelData
  items : Nat
  bicycleName : String
  issued : Nat
  pending : List Nat
  deriving DecidableEq

namespace MainView

def initial : MainView where
  labelDataList := []
  items := 0
  bicycleName := ""
  issued := 0
  pending := []

def countOfList (view : MainView) : Nat := view.labelDataList.length

/-- Swift traps where this is `none`. -/
def labelInfo (index : Nat) (view : MainView) : Option LabelData := view.labelDataList[index]?

def reloadData (view : MainView) : MainView := { view with items := view.countOfList }

def readServerData (view : MainView) : MainView :=
  { view with issued := view.issued + 1, pending := view.pending ++ [view.issued] }

def syncCollectioview (view : MainView) : MainView :=
  readServerData { view with labelDataList := List.tail^[view.countOfList] view.labelDataList }

def viewWillAppear (view : MainView) : MainView := syncCollectioview view

def didPullToRefresh (view : MainView) : MainView := syncCollectioview (reloadData view)

/-- The callback of `bicycleRemoveBtnDidTap`: a refresh for each document that it removes. -/
def bicycleRemoveBtnDidTap (txt : String) (documents : List (QueryDocument F)) (view : MainView) :
    Option MainView :=
  if txt.isEmpty then some view
  else (removeMatching txt documents).state?.map fun removed =>
    removed.foldl (fun view _ => syncCollectioview view) view

def showDocument (userid : String) (document : QueryDocument F) (view : MainView) :
    Flow MainView :=
  match readDocument userid document view.labelDataList with
  | .next labelDataList =>
    -- A document of another user leaves the list, and the displayed items, alone.
    if own userid document then .next (reloadData { view with labelDataList := labelDataList })
    else .next view
  | .stop _ => .stop view
  | .trap => .trap

def didGetDocuments (userid : String) (query : Nat) (answer : Option (List (QueryDocument F)))
    (view : MainView) : Option MainView :=
  let view := { view with pending := view.pending.erase query }
  match answer with
  | none => some view
  | some documents => (forEach (showDocument userid) documents view).state?

def cellForItemAt (item : Nat) (view : MainView) : Option MainView :=
  (labelInfo item view).map fun _ => view

def didSelectItemAt (item : Nat) (view : MainView) : Option MainView :=
  (labelInfo item view).map fun labelInfo => { view with bicycleName := labelInfo.nickName }

theorem syncCollectioview_eq (view : MainView) :
    syncCollectioview view =
      { view with
        labelDataList := []
        issued := view.issued + 1
        pending := view.pending ++ [view.issued] } := by
  have emptied (labels : List LabelData) : List.tail^[labels.length] labels = [] := by
    induction labels with
    | nil => rfl
    | cons label labels ih => exact ih
  rw [syncCollectioview, readServerData, countOfList, emptied]

end MainView

inductive MainEvent (F : Type) where
  | viewWillAppear
  | didPullToRefresh
  | bicycleRemoveBtnDidTap (txt : String) (documents : List (QueryDocument F))
  | didGetDocuments (query : Nat) (answer : Option (List (QueryDocument F)))
  | reloadData
  | cellForItemAt (item : Nat)
  | didSelectItemAt (item : Nat)

namespace MainEvent

def Possible (view : MainView) : MainEvent F → Prop
  | .didGetDocuments query _ => query ∈ view.pending
  | .cellForItemAt item => item < view.items
  | .didSelectItemAt item => item < view.items
  | _ => True

def handle (userid : String) (view : MainView) : MainEvent F → Option MainView
  | .viewWillAppear => some view.viewWillAppear
  | .didPullToRefresh => some view.didPullToRefresh
  | .bicycleRemoveBtnDidTap txt documents => view.bicycleRemoveBtnDidTap txt documents
  | .didGetDocuments query answer => view.didGetDocuments userid query answer
  | .reloadData => some view.reloadData
  | .cellForItemAt item => view.cellForItemAt item
  | .didSelectItemAt item => view.didSelectItemAt item

end MainEvent

end RockYou.App

import RockYou.Library.Loop
import RockYou.Cloud.Document

namespace RockYou.App

open Cloud Loop

variable {F : Type}

/-- `MapViewController`: the selected nickname, the current coordinates, the points that
    `getGPSData` has read into them and the positions passed to `moveLocation`. -/
structure MapView (F : Type) where
  bicycleNicknameOfCell : String
  latitude : F
  longitude : F
  read : List (F × F)
  shown : List (F × F)

def MapView.initial [Zero F] (bicycleNicknameOfCell : String) : MapView F where
  bicycleNicknameOfCell := bicycleNicknameOfCell
  latitude := 0
  longitude := 0
  read := []
  shown := []

def moveLocation (view : MapView F) : MapView F :=
  { view with shown := view.shown ++ [(view.latitude, view.longitude)] }

def locateDocument (userid : String) (document : QueryDocument F) (view : MapView F) :
    Flow (MapView F) :=
  match FieldValue.asString (document.get "uid") with
  | none => .stop view
  | some documentUid =>
    match FieldValue.asString (document.get "bicycleNickname") with
    | none => .stop view
    | some bicycleNickname =>
      if documentUid = userid ∧ bicycleNickname = view.bicycleNicknameOfCell then
        match FieldValue.asGeoPoint (document.get "GPS") with
        | none => .stop view
        | some point =>
          .next (moveLocation
            { view with latitude := point.1, longitude := point.2, read := view.read ++ [point] })
      else .next (moveLocation view)

def getGPSData (userid : String) (documents : List (QueryDocument F)) (view : MapView F) :
    Flow (MapView F) :=
  forEach (locateDocument userid) documents view

end RockYou.App

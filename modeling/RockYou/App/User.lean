import RockYou.Library.Loop
import RockYou.App.Login

namespace RockYou.App

open Cloud Loop

variable {F : Type}

structure UserView where
  bicycleListString : String
  listText : String
  deriving DecidableEq

def UserView.initial : UserView where
  bicycleListString := ""
  listText := ""

def listDocument (userid : String) (document : QueryDocument F) (view : UserView) :
    Flow UserView :=
  match FieldValue.asString (document.get "uid") with
  | none => .stop view
  | some documentUid =>
    if documentUid = userid then
      match FieldValue.asString (document.get "bicycleNickname") with
      | none => .trap
      | some bicycleNickname =>
        .next { view with bicycleListString := view.bicycleListString ++ bicycleNickname ++ "\n" }
    else .next view

/-- The text is set after the loop, so a `return` inside it leaves the text as it was. -/
def addBicycleList (userid : String) (documents : List (QueryDocument F)) (view : UserView) :
    Flow UserView :=
  (forEach (listDocument userid) documents view).bind fun view =>
    .next { view with listText := view.bicycleListString }

section Profile

/-- The strings of `UserViewController`, and the texts of its labels once they are made: a lazy
    label keeps the text it was made with. -/
structure Profile where
  nickString : String
  idString : String
  passwordString : String
  labels : Option (String × String × String)
  deriving DecidableEq

def Profile.initial : Profile where
  nickString := ""
  idString := ""
  passwordString := ""
  labels := none

def Profile.viewInit (profile : Profile) : Profile :=
  { profile with
    labels := profile.labels.or
      (some (profile.nickString, profile.idString, profile.passwordString)) }

def Profile.setUserDocument (userid : String) (document : QueryDocument F) (profile : Profile) :
    Flow Profile :=
  match FieldValue.asString (document.get "uid") with
  | none => .stop profile
  | some uid =>
    if uid = userid then
      match FieldValue.asString (document.get "password") with
      | none => .trap
      | some password =>
        .next { profile with
          nickString := userid
          idString := document.documentID
          passwordString := password }.viewInit
    else .next profile

def Profile.setUserData (userid : String) (documents : List (QueryDocument F)) (profile : Profile) :
    Flow Profile :=
  forEach (Profile.setUserDocument userid) documents profile

def UsersSnapshot (users : Users F) (documents : List (QueryDocument F)) : Prop :=
  documents.Perm (users.entries.filterMap fun entry =>
    match entry.1 with
    | [id] => some ⟨id, entry.2⟩
    | _ => none)

end Profile

end RockYou.App

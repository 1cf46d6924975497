import RockYou.Cloud.Document
import RockYou.Cloud.Path

namespace RockYou.App

open Cloud

variable {F : Type}

abbrev Users (F : Type) := DocumentStore.Store (List String) String (FieldValue F)

/-- The login globals, whether the tab bar has replaced the login view, the alerts shown, the
    submissions in flight and all submissions made. -/
structure LoginState where
  identification : String
  userid : String
  shown : Bool
  alerts : List String
  pending : List (String × String)
  submitted : List (String × String)
  deriving DecidableEq

def LoginState.initial : LoginState where
  identification := ""
  userid := ""
  shown := false
  alerts := []
  pending := []
  submitted := []

def LoginState.alert (alertmsg : String) (state : LoginState) : LoginState :=
  { state with alerts := state.alerts ++ [alertmsg] }

def submitBtnDidTap (txtUserId txtPassword : String) (state : LoginState) : Option LoginState :=
  if txtUserId.length = 0 then some (state.alert "ID를 입력하세요")
  else if txtPassword.length = 0 then some (state.alert "비밀번호를 입력하세요")
  else
    let userName := trimmingCharacters txtUserId
    let password := trimmingCharacters txtPassword
    match documentWithPath userName with
    | none => none
    | some _ =>
      some { state with
        pending := state.pending ++ [(userName, password)]
        submitted := state.submitted ++ [(userName, password)] }

def account (users : Users F) (userName : String) : Option (Document F) :=
  (documentWithPath userName).bind users.lookup

/-- The callback of `getDocument` in `getUserData`; `none` is a failed cast. -/
def getUserData (document : Option (Document F)) (userName password : String)
    (state : LoginState) : Option LoginState :=
  match document with
  | none => some state
  | some document =>
    let state := { state with identification := userName }
    match document "uid" with
    | none => some state
    | some uid =>
      match FieldValue.asString (some uid) with
      | none => none
      | some uid =>
        let state := { state with userid := uid }
        match document "password" with
        | none => some state
        | some property =>
          match FieldValue.asString (some property) with
          | none => none
          | some property =>
            if property = password then
              -- the view has no window once the tab bar is the root view
              if state.shown then some state else some { state with shown := true }
            else some (state.alert "비밀번호를 확인해주세요")

theorem getUserData_absent (userName password : String) (state : LoginState) :
    getUserData (F := F) none userName password state = some state := rfl

theorem getUserData_correct {document : Document F} {uid password : String} (userName : String)
    (identified : document "uid" = some (.string uid))
    (correct : document "password" = some (.string password)) (state : LoginState) :
    getUserData (some document) userName password state =
      some { state with identification := userName, userid := uid, shown := true } := by
  obtain ⟨identification, userid, shown, alerts, pending, submitted⟩ := state
  cases shown <;> simp [getUserData, identified, correct]

theorem getUserData_cases {document : Document F} {userName password : String}
    {state next : LoginState}
    (returned : getUserData (some document) userName password state = some next) :
    next.identification = userName ∧ next.pending = state.pending ∧
      next.submitted = state.submitted ∧
      ((document "uid" = none ∧ next.userid = state.userid ∧ next.shown = state.shown) ∨
        (document "uid" = some (.string next.userid) ∧
          (next.shown = state.shown ∨ document "password" = some (.string password)))) := by
  cases identified : document "uid" with
  | none =>
    simp only [getUserData, identified, Option.some.injEq] at returned
    subst returned
    exact ⟨rfl, rfl, rfl, .inl ⟨rfl, rfl, rfl⟩⟩
  | some uid =>
    cases text : FieldValue.asString (some uid) with
    | none => simp [getUserData, identified, text] at returned
    | some userid =>
      have same : some uid = some (.string userid) := asString_eq_some.mp text
      cases stored : document "password" with
      | none =>
        simp only [getUserData, identified, text, stored, Option.some.injEq] at returned
        subst returned
        exact ⟨rfl, rfl, rfl, .inr ⟨same, .inl rfl⟩⟩
      | some property =>
        cases secret : FieldValue.asString (some property) with
        | none => simp [getUserData, identified, text, stored, secret] at returned
        | some value =>
          simp only [getUserData, identified, text, stored, secret] at returned
          split at returned
          · rename_i correct
            have password : some property = some (.string password) := by
              rw [← correct]
              exact asString_eq_some.mp secret
            split at returned <;> cases returned <;>
              exact ⟨rfl, rfl, rfl, .inr ⟨same, .inr password⟩⟩
          · cases returned
            exact ⟨rfl, rfl, rfl, .inr ⟨same, .inl rfl⟩⟩

theorem submitBtnDidTap_cases {txtUserId txtPassword : String} {state next : LoginState}
    (tapped : submitBtnDidTap txtUserId txtPassword state = some next) :
    next.identification = state.identification ∧ next.userid = state.userid ∧
      next.shown = state.shown ∧ ∃ sent, next.pending = state.pending ++ sent ∧
        next.submitted = state.submitted ++ sent := by
  unfold submitBtnDidTap at tapped
  split at tapped
  · cases tapped
    exact ⟨rfl, rfl, rfl, [], by simp [LoginState.alert]⟩
  · split at tapped
    · cases tapped
      exact ⟨rfl, rfl, rfl, [], by simp [LoginState.alert]⟩
    · dsimp only at tapped
      split at tapped
      · cases tapped
      · cases tapped
        exact ⟨rfl, rfl, rfl, _, rfl, rfl⟩

end RockYou.App

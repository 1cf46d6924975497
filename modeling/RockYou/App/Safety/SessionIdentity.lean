import RockYou.App.Login
import RockYou.Library.Machine

namespace RockYou.App.Safety

open Cloud

variable {F : Type}

inductive LoginAction where
  | submit (txtUserId txtPassword : String)
  | deliver (before : List (String × String)) (userName password : String)
      (after : List (String × String))

def Logs (users : Users F) (state : LoginState) : LoginAction → LoginState → Prop
  | .submit txtUserId txtPassword, next => submitBtnDidTap txtUserId txtPassword state = some next
  | .deliver before userName password after, next =>
    state.pending = before ++ (userName, password) :: after ∧
      getUserData (account users userName) userName password
        { state with pending := before ++ after } = some next

/-- The globals name an account for which a submission supplied the stored password. -/
def Authenticated (users : Users F) (state : LoginState) : Prop :=
  ∃ userName password document, (userName, password) ∈ state.submitted ∧
    documentWithPath userName = documentWithPath state.identification ∧
    account users userName = some document ∧
    document "password" = some (.string password) ∧ document "uid" = some (.string state.userid)

def WrongPassword (users : Users F) (userName password : String) : Prop :=
  ∀ document, account users userName = some document →
    document "password" ≠ some (.string password)

def SameGlobals (state next : LoginState) : Prop :=
  next.identification = state.identification ∧ next.userid = state.userid

/-- The submission of the callback names no account or supplies its password, or the assignments
    of the callback are those already made. -/
def Sound (users : Users F) (state : LoginState) : LoginAction → Prop
  | .submit _ _ => True
  | .deliver _ userName password _ => ∀ document, account users userName = some document →
      (document "password" = some (.string password) ∧
        ∃ uid, document "uid" = some (.string uid)) ∨
      (state.identification = userName ∧
        (document "uid" = none ∨ document "uid" = some (.string state.userid)))

def AuthenticIn (users : Users F) (allowed : LoginState → LoginAction → Prop)
    (state : LoginState) : Prop :=
  (state.shown = true → Authenticated users state) ∧
    ∀ before userName password after next,
      allowed state (.deliver before userName password after) →
      WrongPassword users userName password →
      Logs users state (.deliver before userName password after) next → SameGlobals state next

section Runs

variable {users : Users F} {state next : LoginState} {action : LoginAction}

structure LoginInvariant (users : Users F) (state : LoginState) : Prop where
  made : state.pending ⊆ state.submitted
  authentic : state.shown = true → Authenticated users state

theorem Authenticated.mono {later : LoginState} (authentic : Authenticated users state)
    (grown : state.submitted ⊆ later.submitted) (same : SameGlobals state later) :
    Authenticated users later := by
  obtain ⟨userName, password, document, made, path, found, correct, identified⟩ := authentic
  rw [← same.1] at path
  rw [← same.2] at identified
  exact ⟨userName, password, document, grown made, path, found, correct, identified⟩

theorem deliver_sound {before after : List (String × String)} {userName password : String}
    (invariant : LoginInvariant users state)
    (sound : Sound users state (.deliver before userName password after))
    (moved : Logs users state (.deliver before userName password after) next) :
    next.submitted = state.submitted ∧ next.pending = before ++ after ∧
      (SameGlobals state next ∧ next.shown = state.shown ∨
        ¬ WrongPassword users userName password ∧ Authenticated users next) := by
  obtain ⟨queued, returned⟩ := moved
  have made : (userName, password) ∈ state.submitted := by
    apply invariant.made
    rw [queued]
    simp
  cases found : account users userName with
  | none =>
    rw [found, getUserData_absent] at returned
    cases returned
    exact ⟨rfl, rfl, .inl ⟨⟨rfl, rfl⟩, rfl⟩⟩
  | some document =>
    rw [found] at returned
    obtain ⟨named, rest, history, outcome⟩ := getUserData_cases returned
    rw [← history] at made
    have reach (identified : document "uid" = some (.string next.userid))
        (correct : document "password" = some (.string password)) :
        ¬ WrongPassword users userName password ∧ Authenticated users next :=
      ⟨fun wrong => wrong document found correct,
        userName, password, document, made, by rw [named], found, correct, identified⟩
    apply And.intro history
    apply And.intro rest
    rcases sound document found with ⟨correct, uid, identified⟩ | ⟨already, assigned⟩
    · rcases outcome with ⟨missing, _, _⟩ | ⟨same, _⟩
      · rw [missing] at identified
        cases identified
      · exact .inr (reach same correct)
    · rcases outcome with ⟨_, kept, shown⟩ | ⟨same, shown | correct⟩
      · exact .inl ⟨⟨named.trans already.symm, kept⟩, shown⟩
      · rcases assigned with missing | identified
        · rw [missing] at same
          cases same
        · rw [identified, Option.some.injEq, FieldValue.string.injEq] at same
          exact .inl ⟨⟨named.trans already.symm, same.symm⟩, shown⟩
      · exact .inr (reach same correct)

theorem invariant_step (invariant : LoginInvariant users state)
    (sound : Sound users state action) (moved : Logs users state action next) :
    LoginInvariant users next := by
  cases action with
  | submit txtUserId txtPassword =>
    obtain ⟨named, identified, shown, sent, pending, submitted⟩ := submitBtnDidTap_cases moved
    have grown : state.submitted ⊆ next.submitted := by
      rw [submitted]
      exact List.subset_append_left _ _
    constructor
    · rw [pending, submitted]
      intro submission member
      rcases List.mem_append.mp member with old | new
      · exact List.mem_append_left _ (invariant.made old)
      · exact List.mem_append_right _ new
    · intro bar
      rw [shown] at bar
      exact (invariant.authentic bar).mono grown ⟨named, identified⟩
  | deliver before userName password after =>
    obtain ⟨history, rest, outcome⟩ := deliver_sound invariant sound moved
    constructor
    · rw [history, rest]
      intro submission member
      apply invariant.made
      rw [moved.1]
      rcases List.mem_append.mp member with old | new
      · exact List.mem_append_left _ old
      · exact List.mem_append_right _ (List.mem_cons_of_mem _ new)
    · intro bar
      rcases outcome with ⟨same, shown⟩ | ⟨_, authentic⟩
      · rw [shown] at bar
        exact (invariant.authentic bar).mono (fun _ made => history ▸ made) same
      · exact authentic

def SoundlyLogs (users : Users F) (state : LoginState) (action : LoginAction)
    (next : LoginState) : Prop :=
  Sound users state action ∧ Logs users state action next

/-- In every run of sound callbacks every state reached has an authentic identity. -/
theorem session_authentic {actions : List LoginAction}
    (path : Machine.Path (SoundlyLogs users) .initial actions state) :
    AuthenticIn users (Sound users) state := by
  have invariant : LoginInvariant users state :=
    path.invariant (fun _ => True) (LoginInvariant users)
      (fun _ _ _ _ moved invariant => invariant_step invariant moved.1 moved.2)
      (fun _ _ => True.intro) ⟨List.Subset.refl _, nofun⟩
  refine ⟨invariant.authentic, ?_⟩
  intro before userName password after next sound wrong moved
  obtain ⟨_, _, ⟨same, _⟩ | ⟨correct, _⟩⟩ := deliver_sound invariant sound moved
  · exact same
  · exact absurd wrong correct

end Runs

def userDocument (uid password : String) : Document F :=
  Function.update (Function.update DocumentStore.Document.empty "uid" (some (.string uid)))
    "password" (some (.string password))

def twoUsers : Users Int :=
  DocumentStore.setData ["a"] (userDocument "ua" "pa")
    (DocumentStore.setData ["b"] (userDocument "ub" "pb") ∅)

def loggedInAsA : LoginState where
  identification := "a"
  userid := "ua"
  shown := true
  alerts := []
  pending := []
  submitted := [("a", "pa")]

theorem session_authentic_login : AuthenticIn twoUsers (Sound twoUsers) loggedInAsA := by
  have sound : Sound twoUsers { LoginState.initial with
      pending := [("a", "pa")], submitted := [("a", "pa")] } (.deliver [] "a" "pa" []) := by
    intro document found
    cases found
    exact .inl ⟨rfl, _, rfl⟩
  have path : Machine.Path (SoundlyLogs twoUsers) .initial
      [.submit "a" "pa", .deliver [] "a" "pa" []] loggedInAsA :=
    .cons ⟨True.intro, rfl⟩ (.cons ⟨sound, rfl, rfl⟩ .nil)
  exact session_authentic path

def twoInFlight : LoginState :=
  { LoginState.initial with
    pending := [("a", "pa"), ("b", "pa")], submitted := [("a", "pa"), ("b", "pa")] }

/-- After a login as `a` the late callback of a wrong password for `b` leaves the globals of `b`. -/
theorem wrong_password_takes_session :
    ¬ ∀ actions state, Machine.Path (Logs twoUsers) .initial actions state →
      AuthenticIn twoUsers (fun _ _ => True) state := by
  intro claimed
  have late := claimed
    [.submit "a" "pa", .submit "b" "pa", .deliver [] "a" "pa" [("b", "pa")], .deliver [] "b" "pa" []]
    { twoInFlight with
      identification := "b", userid := "ub", shown := true, pending := []
      alerts := ["비밀번호를 확인해주세요"] }
    (.cons rfl (.cons rfl (.cons ⟨rfl, rfl⟩ (.cons ⟨rfl, rfl⟩ .nil))))
  obtain ⟨userName, password, document, made, path, found, correct, _⟩ := late.1 rfl
  have there : documentWithPath "b" = some ["b"] := by decide
  have stored : account twoUsers userName = some (userDocument "ub" "pb") := by
    rw [account, path, there]
    rfl
  rw [stored, Option.some.injEq] at found
  subst found
  have secret : password = "pb" := by
    simpa [userDocument] using correct.symm
  subst secret
  simp [twoInFlight] at made

end RockYou.App.Safety

import RockYou.App.Login

namespace RockYou.App.SignUp

open Cloud

variable {F : Type}

/-- What outlives the app: the accounts of Auth, each an e-mail with its uid, and the documents
    below `users`. -/
structure Backend (F : Type) where
  accounts : List (String × String)
  users : Users F

def Backend.empty : Backend F where
  accounts := []
  users := ∅

structure Form where
  txtUserName : String
  txtPassword : String
  txtEmail : String
  txtPhone : String

/-- How the requests of a submission end: the uid that `createUser` returns if it succeeds, and
    whether `setData` succeeds. -/
structure Service where
  created : Option String
  saved : Bool

structure Report where
  alerts : List String
  raised : Bool

def alert (alertmsg : String) : Report where
  alerts := [alertmsg]
  raised := false

def newDocument (userName password phoneNumber uid : String) : Document F :=
  Function.update (Function.update (Function.update (Function.update
    DocumentStore.Document.empty
    "userName" (some (.string userName)))
    "password" (some (.string password)))
    "phoneNumber" (some (.string phoneNumber)))
    "uid" (some (.string uid))

def setUserData (userName password email phoneNumber : String) (service : Service)
    (backend : Backend F) : Backend F × Report :=
  match service.created with
  | none => (backend, alert "Error creating user")
  | some uid =>
    let backend := { backend with accounts := backend.accounts ++ [(email, uid)] }
    match documentWithPath userName with
    | none => (backend, { alerts := [], raised := true })
    | some path =>
      if service.saved then
        let document := newDocument userName password phoneNumber uid
        ({ backend with users := DocumentStore.setData path document backend.users },
          { alerts := [], raised := false })
      else (backend, alert "Error saving user data")

/-- `isValid` is the pattern that `WLITextField` matches an e-mail against. -/
def submitBtnDidTap (isValid : String → Bool) (form : Form) (service : Service)
    (backend : Backend F) : Backend F × Report :=
  if form.txtUserName.length = 0 then (backend, alert "ID를 입력하세요")
  else if form.txtPassword.length = 0 then (backend, alert "비밀번호를 입력하세요")
  else if form.txtEmail.length = 0 then (backend, alert "Email을 입력하세요")
  else if isValid form.txtEmail = false then (backend, alert "올바른 이메일 형식을 입력하세요")
  else if form.txtPhone.length = 0 then (backend, alert "핸드폰 번호를 입력하세요")
  else
    let userName := trimmingCharacters form.txtUserName
    let password := trimmingCharacters form.txtPassword
    let email := trimmingCharacters form.txtEmail
    let phoneNumber := trimmingCharacters form.txtPhone
    let (backend, report) := setUserData userName password email phoneNumber service backend
    (backend, { report with alerts := "등록 완료" :: report.alerts })

def Accepted (isValid : String → Bool) (form : Form) : Prop :=
  form.txtUserName.length ≠ 0 ∧ form.txtPassword.length ≠ 0 ∧ form.txtEmail.length ≠ 0 ∧
    isValid form.txtEmail = true ∧ form.txtPhone.length ≠ 0

instance (isValid : String → Bool) (form : Form) : Decidable (Accepted isValid form) :=
  inferInstanceAs (Decidable (_ ∧ _))

theorem submitBtnDidTap_refused {isValid : String → Bool} {form : Form}
    (refused : ¬ Accepted isValid form) (service : Service) (backend : Backend F) :
    (submitBtnDidTap isValid form service backend).1 = backend := by
  unfold submitBtnDidTap
  split; · rfl
  split; · rfl
  split; · rfl
  split; · rfl
  split; · rfl
  rename_i userName password email valid phone
  exact absurd ⟨userName, password, email, Bool.of_not_eq_false valid, phone⟩ refused

theorem submitBtnDidTap_accepted {isValid : String → Bool} {form : Form}
    (accepted : Accepted isValid form) (service : Service) (backend : Backend F) :
    (submitBtnDidTap isValid form service backend).1 =
      (setUserData (trimmingCharacters form.txtUserName) (trimmingCharacters form.txtPassword)
        (trimmingCharacters form.txtEmail) (trimmingCharacters form.txtPhone) service
        backend).1 := by
  obtain ⟨userName, password, email, valid, phone⟩ := accepted
  simp only [submitBtnDidTap, userName, password, email, valid, phone, if_false,
    Bool.true_eq_false]

end RockYou.App.SignUp

import Mathlib
import RockYou.Library.Machine
import RockYou.App.TextField

namespace RockYou.App.Safety

open Cloud Machine SignUp

variable {F : Type}

abbrev Submission := Form × Service

section Effect

variable (isValid : String → Bool)

def createdAccount (submission : Submission) : Option (String × String) :=
  if Accepted isValid submission.1 then
    submission.2.created.map fun uid => (trimmingCharacters submission.1.txtEmail, uid)
  else none

def savedDocument (submission : Submission) : Option (List String × Document F) :=
  if Accepted isValid submission.1 ∧ submission.2.saved = true then
    submission.2.created.bind fun uid =>
      (documentWithPath (trimmingCharacters submission.1.txtUserName)).map fun path =>
        (path, newDocument (trimmingCharacters submission.1.txtUserName)
          (trimmingCharacters submission.1.txtPassword)
          (trimmingCharacters submission.1.txtPhone) uid)
  else none

def uidOf (document : Document F) : Option String := FieldValue.asString (document "uid")

theorem submit_backend (submission : Submission) (backend : Backend F) :
    (SignUp.submitBtnDidTap isValid submission.1 submission.2 backend).1 =
      { accounts := backend.accounts ++ (createdAccount isValid submission).toList
        users := DocumentStore.setAll (savedDocument isValid submission).toList backend.users } := by
  obtain ⟨form, created, saved⟩ := submission
  by_cases accepted : Accepted isValid form
  · rw [SignUp.submitBtnDidTap_accepted accepted, setUserData]
    cases created with
    | none => simp [createdAccount, savedDocument, DocumentStore.setAll]
    | some uid =>
      cases located : documentWithPath (trimmingCharacters form.txtUserName) with
      | none => simp [createdAccount, savedDocument, DocumentStore.setAll, accepted, located]
      | some path =>
        cases saved <;>
          simp [createdAccount, savedDocument, DocumentStore.setAll, accepted, located]
  · rw [SignUp.submitBtnDidTap_refused accepted]
    simp [createdAccount, savedDocument, DocumentStore.setAll, accepted]

variable {isValid}

theorem savedDocument_created {submission : Submission} {path : List String}
    {document : Document F} (saved : savedDocument isValid submission = some (path, document)) :
    ∃ account, createdAccount isValid submission = some account ∧
      uidOf document = some account.2 := by
  unfold savedDocument at saved
  split at saved
  · rename_i both
    obtain ⟨uid, created, located⟩ := Option.bind_eq_some_iff.mp saved
    obtain ⟨_, _, same⟩ := Option.map_eq_some_iff.mp located
    refine ⟨(trimmingCharacters submission.1.txtEmail, uid), ?_, ?_⟩
    · rw [createdAccount, if_pos both.1, created]
      rfl
    · rw [← (Prod.mk.inj same).2]
      rfl
  · cases saved

theorem saved_uids (submissions : List Submission) :
    ((submissions.filterMap (savedDocument (F := F) isValid)).map fun save =>
      uidOf save.2).Sublist
      ((submissions.filterMap (createdAccount isValid)).map fun account => some account.2) := by
  induction submissions with
  | nil => exact .slnil
  | cons submission submissions ih =>
    cases saved : savedDocument (F := F) isValid submission with
    | none =>
      rw [List.filterMap_cons_none saved]
      cases created : createdAccount isValid submission with
      | none =>
        rw [List.filterMap_cons_none created]
        exact ih
      | some account =>
        rw [List.filterMap_cons_some created]
        exact ih.cons _
    | some save =>
      obtain ⟨account, created, carried⟩ := savedDocument_created saved
      rw [List.filterMap_cons_some saved, List.filterMap_cons_some created, List.map_cons,
        List.map_cons, carried]
      exact ih.cons_cons _

end Effect

/-- `createUser` fails for an e-mail in use, and gives every account a uid of its own. -/
def Answers (backend : Backend F) (submission : Submission) : Prop :=
  ∀ uid ∈ submission.2.created,
    trimmingCharacters submission.1.txtEmail ∉ backend.accounts.map Prod.fst ∧
      uid ∉ backend.accounts.map Prod.snd

theorem createdAccount_email {isValid : String → Bool} {submission : Submission}
    {account : String × String} (created : createdAccount isValid submission = some account) :
    account.1 = trimmingCharacters submission.1.txtEmail ∧
      account.2 ∈ submission.2.created := by
  unfold createdAccount at created
  split at created
  · obtain ⟨uid, answered, same⟩ := Option.map_eq_some_iff.mp created
    rw [← same]
    exact ⟨rfl, answered⟩
  · cases created

theorem createdAccount_fresh {isValid : String → Bool} {backend : Backend F}
    {submission : Submission} {account : String × String} (answers : Answers backend submission)
    (created : createdAccount isValid submission = some account) :
    account.1 ∉ backend.accounts.map Prod.fst ∧ account.2 ∉ backend.accounts.map Prod.snd := by
  obtain ⟨email, answered⟩ := createdAccount_email created
  rw [email]
  exact answers account.2 answered

def Submits (isValid : String → Bool) (backend : Backend F) (submission : Submission)
    (next : Backend F) : Prop :=
  Answers backend submission ∧
    next = (SignUp.submitBtnDidTap isValid submission.1 submission.2 backend).1

def Carries (users : Users F) (path : List String) (uid : String) : Prop :=
  ∃ document, users.lookup path = some document ∧ uidOf document = some uid

def lastSaved (isValid : String → Bool) (submissions : List Submission) (path : List String) :
    Option (Document F) :=
  (submissions.filterMap (savedDocument isValid)).reverse.lookup path

structure SignedUp (isValid : String → Bool) (submissions : List Submission)
    (backend : Backend F) : Prop where
  emails : (backend.accounts.map Prod.fst).Nodup
  uids : (backend.accounts.map Prod.snd).Nodup
  documents : ∀ path, backend.users.lookup path = lastSaved isValid submissions path
  identified : ∀ path document, backend.users.lookup path = some document →
    ∃ account ∈ backend.accounts, uidOf document = some account.2
  single : ∀ uid path other, Carries backend.users path uid → Carries backend.users other uid →
    path = other
  registered : ∀ account ∈ backend.accounts,
    (∃! path, Carries backend.users path account.2) ↔
      ∃ path, ∃ document : Document F, lastSaved isValid submissions path = some document ∧
        uidOf document = some account.2

/-- What one submission does: nothing without a new account; without a saved document it leaves
    `users` alone, and otherwise it changes only the document it saves. -/
structure SubmissionLaw (isValid : String → Bool) (backend : Backend F) (submission : Submission)
    (next : Backend F) : Prop where
  taken : trimmingCharacters submission.1.txtEmail ∈ backend.accounts.map Prod.fst →
    next = backend
  refused : createdAccount isValid submission = none → next = backend
  created : ∀ account, createdAccount isValid submission = some account →
    next.accounts = backend.accounts ++ [account]
  unsaved : savedDocument (F := F) isValid submission = none → next.users = backend.users
  saved : ∀ path document, savedDocument isValid submission = some (path, document) →
    next.users.lookup path = some document ∧
      ∀ other, other ≠ path → next.users.lookup other = backend.users.lookup other

section Runs

variable {isValid : String → Bool} {backend next : Backend F} {submissions : List Submission}

theorem run_backend {start : Backend F} (run : Path (Submits isValid) start submissions backend) :
    backend =
      { accounts := start.accounts ++ submissions.filterMap (createdAccount isValid)
        users := DocumentStore.setAll (submissions.filterMap (savedDocument isValid))
          start.users } := by
  induction run with
  | nil => simp [DocumentStore.setAll]
  | cons first _ ih =>
    rw [ih, first.2, submit_backend]
    rename_i submission submissions _
    have created : (createdAccount isValid submission).toList ++
        submissions.filterMap (createdAccount isValid) =
          (submission :: submissions).filterMap (createdAccount isValid) := by
      cases account : createdAccount isValid submission <;> simp [account]
    have saved : (savedDocument (F := F) isValid submission).toList ++
        submissions.filterMap (savedDocument isValid) =
          (submission :: submissions).filterMap (savedDocument isValid) := by
      cases document : savedDocument (F := F) isValid submission <;> simp [document]
    rw [List.append_assoc, created, ← DocumentStore.setAll_append, saved]

def Distinct (backend : Backend F) : Prop :=
  (backend.accounts.map Prod.fst).Nodup ∧ (backend.accounts.map Prod.snd).Nodup

theorem Distinct.step {submission : Submission} (distinct : Distinct backend)
    (submits : Submits isValid backend submission next) : Distinct next := by
  obtain ⟨answers, same⟩ := submits
  rw [same, submit_backend]
  cases created : createdAccount isValid submission with
  | none =>
    simp only [Option.toList_none, List.append_nil]
    exact distinct
  | some account =>
    obtain ⟨freshEmail, freshUid⟩ := createdAccount_fresh answers created
    simp only [Distinct, Option.toList_some, List.map_append, List.map_singleton]
    constructor
    · rw [← List.concat_eq_append]
      exact distinct.1.concat freshEmail
    · rw [← List.concat_eq_append]
      exact distinct.2.concat freshUid

theorem run_distinct (run : Path (Submits isValid) Backend.empty submissions backend) :
    Distinct backend := by
  apply run.invariant (fun _ => True) Distinct _ (fun _ _ => True.intro)
  · exact ⟨List.nodup_nil, List.nodup_nil⟩
  · exact fun _ _ _ _ submits distinct => distinct.step submits

theorem run_accounts (run : Path (Submits isValid) Backend.empty submissions backend) :
    backend.accounts = submissions.filterMap (createdAccount isValid) := by
  rw [run_backend run]
  exact List.nil_append _

theorem run_documents (run : Path (Submits isValid) Backend.empty submissions backend)
    (path : List String) : backend.users.lookup path = lastSaved isValid submissions path := by
  rw [run_backend run, lastSaved, DocumentStore.lookup_setAll, Backend.empty, AList.lookup_empty,
    Option.or_none]

theorem lastSaved_mem {path : List String} {document : Document F}
    (latest : lastSaved isValid submissions path = some document) :
    (path, document) ∈ submissions.filterMap (savedDocument isValid) := by
  obtain ⟨later, earlier, split, _⟩ := List.lookup_eq_some_iff.mp latest
  rw [← List.mem_reverse, split]
  simp

theorem lastSaved_single (distinct : Distinct backend)
    (accounts : backend.accounts = submissions.filterMap (createdAccount isValid))
    {path other : List String} {document document' : Document F}
    (first : lastSaved isValid submissions path = some document)
    (second : lastSaved isValid submissions other = some document')
    (same : uidOf document = uidOf document') : path = other := by
  have accountUids := distinct.2.map (Option.some_injective String)
  rw [List.map_map, accounts] at accountUids
  have uids : ((submissions.filterMap (savedDocument (F := F) isValid)).map fun save =>
      uidOf save.2).Nodup := (saved_uids submissions).nodup accountUids
  have saves := List.inj_on_of_nodup_map uids (lastSaved_mem first) (lastSaved_mem second) same
  exact congrArg Prod.fst saves

theorem run_signedUp (run : Path (Submits isValid) Backend.empty submissions backend) :
    SignedUp isValid submissions backend := by
  have distinct := run_distinct run
  have documents := run_documents run
  have single : ∀ uid path other, Carries backend.users path uid →
      Carries backend.users other uid → path = other := by
    intro uid path other first second
    obtain ⟨document, stored, carried⟩ := first
    obtain ⟨document', stored', carried'⟩ := second
    rw [documents] at stored stored'
    exact lastSaved_single distinct (run_accounts run) stored stored' (carried.trans carried'.symm)
  refine ⟨distinct.1, distinct.2, documents, ?_, single, ?_⟩
  · intro path document stored
    rw [documents] at stored
    obtain ⟨submission, member, saved⟩ := List.mem_filterMap.mp (lastSaved_mem stored)
    obtain ⟨account, created, carried⟩ := savedDocument_created saved
    refine ⟨account, ?_, carried⟩
    rw [run_accounts run]
    exact List.mem_filterMap.mpr ⟨submission, member, created⟩
  · intro account _
    constructor
    · intro unique
      obtain ⟨path, ⟨document, stored, carried⟩, _⟩ := unique
      rw [documents] at stored
      exact ⟨path, document, stored, carried⟩
    · intro latest
      obtain ⟨path, document, stored, carried⟩ := latest
      rw [← documents] at stored
      refine ⟨path, ⟨document, stored, carried⟩, ?_⟩
      intro other held
      exact single account.2 other path held ⟨document, stored, carried⟩

theorem submission_law {submission : Submission}
    (submits : Submits isValid backend submission next) :
    SubmissionLaw isValid backend submission next := by
  obtain ⟨answers, same⟩ := submits
  rw [submit_backend] at same
  have unsaved (nothing : savedDocument (F := F) isValid submission = none) :
      next.users = backend.users := by
    rw [same, nothing]
    rfl
  have refused (nothing : createdAccount isValid submission = none) : next = backend := by
    have noDocument : savedDocument (F := F) isValid submission = none := by
      cases saved : savedDocument (F := F) isValid submission with
      | none => rfl
      | some save =>
        obtain ⟨_, created, _⟩ := savedDocument_created saved
        rw [nothing] at created
        cases created
    rw [same, nothing, noDocument, Option.toList_none, List.append_nil]
    rfl
  refine ⟨?_, refused, ?_, unsaved, ?_⟩
  · intro taken
    apply refused
    cases created : createdAccount isValid submission with
    | none => rfl
    | some account =>
      obtain ⟨fresh, _⟩ := createdAccount_fresh answers created
      rw [(createdAccount_email created).1] at fresh
      exact absurd taken fresh
  · intro account created
    rw [same, created]
    rfl
  · intro path document saved
    rw [same, saved]
    constructor
    · exact DocumentStore.lookup_setData path document backend.users
    · exact fun other different => DocumentStore.lookup_setData_ne different document backend.users

/-- Who signs up successfully can log in. -/
theorem signed_up_logs_in {submission : Submission} {path : List String} {document : Document F}
    (submits : Submits isValid backend submission next)
    (saved : savedDocument isValid submission = some (path, document)) (state : LoginState) :
    ∃ uid ∈ submission.2.created,
      getUserData (account next.users (trimmingCharacters submission.1.txtUserName))
        (trimmingCharacters submission.1.txtUserName)
        (trimmingCharacters submission.1.txtPassword) state =
        some { state with
          identification := trimmingCharacters submission.1.txtUserName
          userid := uid
          shown := true } := by
  have stored := ((submission_law submits).saved path document saved).1
  unfold savedDocument at saved
  split at saved
  · obtain ⟨uid, created, located⟩ := Option.bind_eq_some_iff.mp saved
    obtain ⟨_, named, same⟩ := Option.map_eq_some_iff.mp located
    cases same
    refine ⟨uid, created, ?_⟩
    rw [account, named, Option.bind_some, stored]
    exact getUserData_correct _ rfl rfl state
  · cases saved

/-- Whatever the services answer: e-mails and uids stay unique, the users' documents are those of
    the latest successful sign-ups, so that an account has one document or none, and a submission
    without a new account changes nothing, one without a saved document no document. -/
theorem sign_up_accounts (run : Path (Submits isValid) Backend.empty submissions backend) :
    SignedUp isValid submissions backend ∧
      ∀ submission next, Submits isValid backend submission next →
        SubmissionLaw isValid backend submission next := by
  constructor
  · exact run_signedUp run
  · exact fun _ _ submits => submission_law submits

end Runs

def riderForm : Form where
  txtUserName := "rider"
  txtPassword := "secret"
  txtEmail := "a@mail.kr"
  txtPhone := "01012345678"

def namesakeForm : Form where
  txtUserName := "rider/"
  txtPassword := "another"
  txtEmail := "b@mail.kr"
  txtPhone := "01087654321"

theorem riderForm_accepted : Accepted WLITextField.isValid riderForm :=
  ⟨by decide, by decide, by decide, by decide +kernel, by decide⟩

theorem namesakeForm_accepted : Accepted WLITextField.isValid namesakeForm :=
  ⟨by decide, by decide, by decide, by decide +kernel, by decide⟩

def afterSignUp (form : Form) (service : Service) (backend : Backend Int) : Backend Int :=
  (setUserData (trimmingCharacters form.txtUserName) (trimmingCharacters form.txtPassword)
    (trimmingCharacters form.txtEmail) (trimmingCharacters form.txtPhone) service backend).1

theorem afterSignUp_submits {form : Form} {service : Service} {backend : Backend Int}
    (accepted : Accepted WLITextField.isValid form) (answers : Answers backend (form, service)) :
    Submits WLITextField.isValid backend (form, service) (afterSignUp form service backend) :=
  ⟨answers, (submitBtnDidTap_accepted accepted service backend).symm⟩

theorem rider_submits (saved : Bool) :
    Submits WLITextField.isValid Backend.empty (riderForm, ⟨some "u1", saved⟩)
      (afterSignUp riderForm ⟨some "u1", saved⟩ Backend.empty) :=
  afterSignUp_submits riderForm_accepted fun _ _ => ⟨List.not_mem_nil, List.not_mem_nil⟩

theorem sign_up_accounts_rider :
    SignedUp WLITextField.isValid [(riderForm, ⟨some "u1", true⟩)]
      (afterSignUp riderForm ⟨some "u1", true⟩ Backend.empty) :=
  (sign_up_accounts (.cons (rider_submits true) .nil)).1

/-- A failed `setData` leaves an account without a document, and a second sign-up under one user
    name replaces the document of the first. -/
theorem sign_up_not_atomic :
    (¬ ∀ (submissions : List Submission) (backend : Backend Int),
      Path (Submits WLITextField.isValid) Backend.empty submissions backend →
        ∀ account ∈ backend.accounts, ∃ path, Carries backend.users path account.2) ∧
    (¬ ∀ (submissions : List Submission) (backend next : Backend Int) (submission : Submission),
      Path (Submits WLITextField.isValid) Backend.empty submissions backend →
        Submits WLITextField.isValid backend submission next → submission.2.saved = false →
          next = backend) ∧
    ¬ ∀ (submissions : List Submission) (backend next : Backend Int) (submission : Submission),
      Path (Submits WLITextField.isValid) Backend.empty submissions backend →
        Submits WLITextField.isValid backend submission next → ∀ path uid,
          Carries backend.users path uid → Carries next.users path uid := by
  refine ⟨?_, ?_, ?_⟩
  · intro whole
    have run := Path.cons (rider_submits false) .nil
    obtain ⟨path, document, stored, _⟩ := whole _ _ run ("a@mail.kr", "u1") (by decide)
    cases stored
  · intro unchanged
    have same := unchanged _ _ _ _ .nil (rider_submits false) rfl
    have accounts := congrArg Backend.accounts same
    revert accounts
    decide
  · intro kept
    have run := Path.cons (rider_submits true) .nil
    have second : Answers (afterSignUp riderForm ⟨some "u1", true⟩ Backend.empty)
        (namesakeForm, ⟨some "u2", true⟩) := by
      intro uid created
      cases created
      decide
    have submits := afterSignUp_submits namesakeForm_accepted second
    have carried := kept _ _ _ _ run submits ["rider"] "u1" ⟨_, rfl, rfl⟩
    obtain ⟨document, stored, identified⟩ := carried
    cases stored
    revert identified
    decide

end RockYou.App.Safety

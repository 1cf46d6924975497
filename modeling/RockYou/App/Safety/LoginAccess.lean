import RockYou.App.Safety.SignUpAccounts

namespace RockYou.App.Safety

open Cloud Machine SignUp

variable {F : Type} {isValid : String → Bool} {submissions : List Submission} {backend : Backend F}

def savesAt (isValid : String → Bool) (path : List String) (submission : Submission) : Bool :=
  Accepted isValid submission.1 ∧ submission.2.saved = true ∧ submission.2.created.isSome ∧
    documentWithPath (trimmingCharacters submission.1.txtUserName) = some path

theorem savesAt_iff {path : List String} {submission : Submission} :
    savesAt isValid path submission = true ↔
      ∃ document : Document F, savedDocument isValid submission = some (path, document) := by
  rw [savesAt, decide_eq_true_eq]
  unfold savedDocument
  constructor
  · intro saves
    obtain ⟨accepted, saved, created, located⟩ := saves
    obtain ⟨uid, same⟩ := Option.isSome_iff_exists.mp created
    rw [if_pos ⟨accepted, saved⟩, same, located]
    exact ⟨_, rfl⟩
  · intro written
    obtain ⟨document, written⟩ := written
    split at written
    · next both =>
      obtain ⟨uid, created, rest⟩ := Option.bind_eq_some_iff.mp written
      obtain ⟨found, located, same⟩ := Option.map_eq_some_iff.mp rest
      have here : found = path := congrArg Prod.fst same
      rw [here] at located
      exact ⟨both.1, both.2, Option.isSome_iff_exists.mpr ⟨uid, created⟩, located⟩
    · cases written

def latestAt (isValid : String → Bool) (submissions : List Submission) (path : List String) :
    Option Submission :=
  submissions.reverse.find? (savesAt isValid path)

theorem lookup_filterMap {path : List String} (list : List Submission) :
    (list.filterMap (savedDocument (F := F) isValid)).lookup path =
      ((list.find? (savesAt isValid path)).bind (savedDocument isValid)).map Prod.snd := by
  induction list with
  | nil => rfl
  | cons submission list ih =>
    cases saved : savedDocument (F := F) isValid submission with
    | none =>
      have silent : ¬ savesAt isValid path submission = true := by
        rw [savesAt_iff (F := F), saved]
        exact fun written => absurd written.choose_spec (by simp)
      rw [List.filterMap_cons_none saved, List.find?_cons_of_neg silent, ih]
    | some save =>
      rw [List.filterMap_cons_some saved]
      by_cases here : save.1 = path
      · have found : savesAt isValid path submission = true :=
          (savesAt_iff (F := F)).mpr ⟨save.2, by rw [saved, ← here]⟩
        have key : (path == save.1) = true := beq_iff_eq.mpr here.symm
        rw [List.find?_cons_of_pos found, Option.bind_some, saved, List.lookup_cons, key]
        rfl
      · have apart : ¬ savesAt isValid path submission = true := by
          rw [savesAt_iff (F := F), saved]
          intro written
          obtain ⟨document, same⟩ := written
          exact here (congrArg Prod.fst (Option.some.inj same))
        have key : (path == save.1) = false := beq_eq_false_iff_ne.mpr fun same => here same.symm
        rw [List.find?_cons_of_neg apart, List.lookup_cons, key]
        exact ih

theorem lastSaved_latest (path : List String) :
    lastSaved (F := F) isValid submissions path =
      ((latestAt isValid submissions path).bind (savedDocument isValid)).map Prod.snd := by
  rw [lastSaved, ← List.filterMap_reverse, lookup_filterMap, latestAt]

theorem latestAt_saved {path : List String} {submission : Submission}
    (latest : latestAt isValid submissions path = some submission) :
    ∃ uid document, submission.2.created = some uid ∧
      lastSaved (F := F) isValid submissions path = some document ∧
      document "uid" = some (.string uid) ∧
      document "password" = some (.string (trimmingCharacters submission.1.txtPassword)) := by
  obtain ⟨document, saved⟩ := (savesAt_iff (F := F)).mp (List.find?_some latest)
  have stored : lastSaved (F := F) isValid submissions path = some document := by
    rw [lastSaved_latest, latest, Option.bind_some, saved]
    rfl
  unfold savedDocument at saved
  split at saved
  · obtain ⟨uid, created, rest⟩ := Option.bind_eq_some_iff.mp saved
    obtain ⟨_, _, same⟩ := Option.map_eq_some_iff.mp rest
    obtain rfl := congrArg Prod.snd same
    exact ⟨uid, _, created, stored, rfl, rfl⟩
  · cases saved

theorem getUserData_wrong {document : Document F} {uid stored password : String} (userName : String)
    (identified : document "uid" = some (.string uid))
    (kept : document "password" = some (.string stored)) (wrong : stored ≠ password)
    (state : LoginState) :
    getUserData (some document) userName password state =
      some ({ state with identification := userName, userid := uid }.alert "비밀번호를 확인해주세요") := by
  simp [getUserData, identified, kept, wrong]

theorem latestAt_rider :
    latestAt WLITextField.isValid [(riderForm, ⟨some "u1", true⟩)] ["rider"] =
      some (riderForm, ⟨some "u1", true⟩) :=
  List.find?_cons_of_pos (decide_eq_true ⟨riderForm_accepted, rfl, rfl, rfl⟩)

end RockYou.App.Safety

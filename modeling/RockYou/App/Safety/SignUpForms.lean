import Mathlib
import RockYou.App.Safety.SignUpAccounts
import RockYou.App.TextField
import RockYou.Library.Causation

namespace RockYou.App.Safety

open Cloud Machine SignUp

section Trimming

def Trimmed (text : String) : Prop := trimmingCharacters text = text

theorem trimmed_of_ends {text : String}
    (first : ∀ c ∈ text.toList.head?, isWhitespaceOrNewline c = false)
    (last : ∀ c ∈ text.toList.getLast?, isWhitespaceOrNewline c = false) : Trimmed text := by
  have front : text.toList.dropWhile isWhitespaceOrNewline = text.toList := by
    cases characters : text.toList with
    | nil => rfl
    | cons c rest =>
      rw [characters] at first
      exact List.dropWhile_cons_of_neg (by simp [first c rfl])
  have back : text.toList.rdropWhile isWhitespaceOrNewline = text.toList := by
    apply List.rdropWhile_eq_self_iff.mpr
    intro nonempty
    rw [last _ (List.getLast?_eq_some_getLast nonempty)]
    exact Bool.false_ne_true
  rw [Trimmed, trimmingCharacters, front, back, String.ofList_toList]

theorem trimmed_trimming (text : String) : Trimmed (trimmingCharacters text) := by
  have shape : (trimmingCharacters text).toList =
      (text.toList.dropWhile isWhitespaceOrNewline).rdropWhile isWhitespaceOrNewline :=
    String.toList_ofList
  apply trimmed_of_ends
  · intro c first
    rw [shape] at first
    obtain ⟨back, split⟩ := List.rdropWhile_prefix isWhitespaceOrNewline
      (l := text.toList.dropWhile isWhitespaceOrNewline)
    have head : c ∈ (text.toList.dropWhile isWhitespaceOrNewline).head? := by
      rw [← split, List.head?_append, first]
      rfl
    have kept := List.head?_dropWhile_not isWhitespaceOrNewline text.toList
    rw [head] at kept
    exact Bool.of_not_eq_true (by simpa using kept)
  · intro c last
    rw [shape] at last
    have nonempty : (text.toList.dropWhile isWhitespaceOrNewline).rdropWhile
        isWhitespaceOrNewline ≠ [] := by
      intro empty
      rw [empty] at last
      cases last
    have kept := List.rdropWhile_last_not isWhitespaceOrNewline _ nonempty
    rw [List.getLast?_eq_some_getLast nonempty, Option.mem_some_iff] at last
    rw [last] at kept
    exact Bool.of_not_eq_true kept

end Trimming

section Email

open EmailPattern RegularExpression

theorem forall_letters {letters : List Char} {property : Char → Prop} [DecidablePred property]
    (all : letters.all (property ·) = true) : ∀ c ∈ letters, property c :=
  fun c member => of_decide_eq_true (List.all_eq_true.mp all c member)

theorem atomText_plain : ∀ c ∈ atomText.flatMap variants, isWhitespaceOrNewline c = false :=
  forall_letters (by decide +kernel)

theorem letterOrDigit_plain :
    ∀ c ∈ letterOrDigit.flatMap variants, isWhitespaceOrNewline c = false :=
  forall_letters (by decide +kernel)

theorem email_starts :
    Language.StartsIn (isWhitespaceOrNewline · = false) emailRegEx.matches' := by
  have atom : Language.StartsIn (isWhitespaceOrNewline · = false)
      (many (characterSet atomText)).matches' := by
    apply Language.StartsIn.mul
    exact oneOf_startsIn atomText_plain
  have quote : Language.StartsIn (isWhitespaceOrNewline · = false)
      (char '"').matches' := Language.startsIn_singleton (by decide)
  apply Language.StartsIn.mul
  exact Language.StartsIn.add (atom.mul _) (quote.mul _)

theorem email_ends :
    Language.EndsIn (isWhitespaceOrNewline · = false) emailRegEx.matches' := by
  have single : Language.EndsIn (isWhitespaceOrNewline · = false)
      (characterSet letterOrDigit).matches' := oneOf_endsIn letterOrDigit_plain
  have name : Language.EndsIn (isWhitespaceOrNewline · = false) label.matches' :=
    single.mul_optional (Language.EndsIn.mul _ single)
  have bracket : Language.EndsIn (isWhitespaceOrNewline · = false)
      (char ']').matches' := Language.endsIn_singleton (by decide)
  apply Language.EndsIn.mul
  apply Language.EndsIn.mul
  apply Language.EndsIn.add
  · exact Language.EndsIn.mul _ name
  · exact Language.EndsIn.mul _ (Language.EndsIn.mul _ (Language.EndsIn.mul _ bracket))

theorem isValid_trimmed {email : String} (valid : WLITextField.isValid email = true) :
    Trimmed email := by
  have matched := (rmatch_iff_matches' emailRegEx email.toList).mp valid
  apply trimmed_of_ends
  · intro c first
    obtain ⟨a, rest, same, plain⟩ := email_starts email.toList matched
    rw [same] at first
    cases first
    exact plain
  · intro c last
    obtain ⟨front, a, same, plain⟩ := email_ends email.toList matched
    rw [same, List.getLast?_concat] at last
    cases last
    exact plain

end Email

section Phone

theorem joined_filter (allowed : Char → Bool) (string : List Char) :
    (string.splitOnP fun c => !allowed c).flatten = string.filter allowed := by
  induction string with
  | nil => rfl
  | cons c string ih =>
    rw [List.splitOnP_cons_eq_if_modifyHead, List.filter_cons]
    cases inside : allowed c with
    | false => exact ih
    | true =>
      obtain ⟨first, others, split⟩ :=
        List.exists_cons_of_ne_nil (List.splitOnP_ne_nil (fun c => !allowed c) string)
      rw [split] at ih ⊢
      simp only [Bool.not_true, Bool.false_eq_true, if_false, if_true, List.modifyHead_cons,
        List.flatten_cons, List.cons_append] at ih ⊢
      rw [ih]

theorem joinedComponents_fixed {allowed string : String}
    (fixed : string = WLITextField.joinedComponents allowed string) :
    ∀ c ∈ string.toList, c ∈ allowed.toList := by
  intro c member
  have filtered : string.toList = string.toList.filter (· ∈ allowed.toList) := by
    have characters := congrArg String.toList fixed
    rw [WLITextField.joinedComponents, String.toList_ofList] at characters
    have negated : (fun c : Char => decide (c ∉ allowed.toList)) =
        fun c => !decide (c ∈ allowed.toList) := by
      funext c
      exact decide_not
    rw [negated, joined_filter] at characters
    exact characters
  rw [filtered] at member
  exact of_decide_eq_true (List.mem_filter.mp member).2

def PhoneText (text : String) : Prop :=
  (∀ c ∈ text.toList, c ∈ SignUpView.phoneCharacters.toList) ∧ text.length ≤ 11

/-- The count of a text of these characters is their number. -/
def CountsPhones (count : String → Nat) : Prop :=
  ∀ text : String, (∀ c ∈ text.toList, c ∈ SignUpView.phoneCharacters.toList) →
    count text = text.length

theorem utf16Count_phone {text : String}
    (inside : ∀ c ∈ text.toList, c ∈ SignUpView.phoneCharacters.toList) :
    utf16Count text = text.length := by
  have single : ∀ c ∈ SignUpView.phoneCharacters.toList, utf16Size c = 1 :=
    forall_letters (by decide)
  have sizes : text.toList.map utf16Size = text.toList.map fun _ => 1 :=
    List.map_congr_left fun c member => single c (inside c member)
  rw [utf16Count, sizes, List.map_const', List.sum_replicate_nat, Nat.mul_one,
    String.length_toList]

structure PhoneField (field : WLITextField) : Prop where
  maxCharacter : field.maxCharacter = 11
  allowCharacterOnly : field.allowCharacterOnly = some SignUpView.phoneCharacters
  text : PhoneText field.text

theorem PhoneField.edit {count : String → Nat} (counts : CountsPhones count)
    {field next : WLITextField} {front removed back string : String} (phone : PhoneField field)
    (edits : field.Edits count front removed back string next) : PhoneField next := by
  obtain ⟨whole, rfl⟩ := edits
  obtain ⟨maximum, only, inside, short⟩ := phone
  split
  · next accepted =>
    refine ⟨maximum, only, ?_⟩
    rw [WLITextField.shouldChangeCharactersIn, only] at accepted
    split at accepted
    · cases accepted
    · next checked =>
      have plain := joinedComponents_fixed (of_decide_eq_true accepted)
      have old : ∀ c ∈ front.toList ++ removed.toList ++ back.toList,
          c ∈ SignUpView.phoneCharacters.toList := by
        rw [← String.toList_append, ← String.toList_append, ← whole]
        exact inside
      have size : utf16Count removed = removed.length :=
        utf16Count_phone fun c member => old c (by simp [member])
      have before : count field.text = front.length + removed.length + back.length := by
        rw [counts field.text inside, whole, String.length_append, String.length_append]
      have added : count string = string.length := counts string plain
      constructor
      · intro c member
        simp only [String.toList_append, List.mem_append] at member
        rcases member with (early | new) | late
        · exact old c (by simp [early])
        · exact plain c new
        · exact old c (by simp [late])
      · have limited := Bool.of_not_eq_false checked
        rw [WLITextField.checkForMaxCharacters, maximum, size, before, added] at limited
        dsimp only at limited
        rw [String.length_append, String.length_append]
        split at limited
        · cases limited
        · have bound := of_decide_eq_true limited
          omega
  · exact ⟨maximum, only, inside, short⟩

end Phone

inductive SignUpField where
  | txtUserName
  | txtPassword
  | txtEmail
  | txtPhone

inductive SignUpMove where
  | viewDidLoad
  | edit (field : SignUpField) (front removed back string : String)
  | submitBtnDidTap (service : Service)

variable {F : Type}

def SignUpMoves (count : String → Nat) (view : SignUpView F) : SignUpMove → SignUpView F → Prop
  | .viewDidLoad, next => next = .viewDidLoad view.backend
  | .edit .txtUserName front removed back string, next =>
    ∃ field, view.txtUserName.Edits count front removed back string field ∧
      next = { view with txtUserName := field }
  | .edit .txtPassword front removed back string, next =>
    ∃ field, view.txtPassword.Edits count front removed back string field ∧
      next = { view with txtPassword := field }
  | .edit .txtEmail front removed back string, next =>
    ∃ field, view.txtEmail.Edits count front removed back string field ∧
      next = { view with txtEmail := field }
  | .edit .txtPhone front removed back string, next =>
    ∃ field, view.txtPhone.Edits count front removed back string field ∧
      next = { view with txtPhone := field }
  | .submitBtnDidTap service, next => next = view.submitBtnDidTap service

/-- A document as the sign-up writes it: it lies at the path of its user name, and none of its
    texts has a whitespace at an end. -/
structure WellFormed (path : List String) (document : Document F) : Prop where
  userName : ∃ userName, document "userName" = some (.string userName) ∧ Trimmed userName ∧
    documentWithPath userName = some path
  password : ∃ password, document "password" = some (.string password) ∧ Trimmed password
  phoneNumber : ∃ phone, document "phoneNumber" = some (.string phone) ∧ phone ≠ "" ∧
    PhoneText phone
  uid : ∃ uid, document "uid" = some (.string uid)

structure StoredWellFormed (backend : Backend F) : Prop where
  emails : ∀ account ∈ backend.accounts, WLITextField.isValid account.1 = true ∧ Trimmed account.1
  documents : ∀ path document, backend.users.lookup path = some document →
    WellFormed path document

theorem phoneText_trimmed {text : String} (phone : PhoneText text) : Trimmed text := by
  have plain : ∀ c ∈ SignUpView.phoneCharacters.toList, isWhitespaceOrNewline c = false :=
    forall_letters (by decide)
  apply trimmed_of_ends
  · exact fun c first => plain c (phone.1 c (List.mem_of_mem_head? first))
  · exact fun c last => plain c (phone.1 c (List.mem_of_mem_getLast? last))

theorem savedDocument_wellFormed {submission : Submission} {path : List String}
    {document : Document F} (phone : PhoneText submission.1.txtPhone)
    (saved : savedDocument WLITextField.isValid submission = some (path, document)) :
    WellFormed path document := by
  unfold savedDocument at saved
  split at saved
  · next both =>
    obtain ⟨uid, _, located⟩ := Option.bind_eq_some_iff.mp saved
    obtain ⟨written, named, same⟩ := Option.map_eq_some_iff.mp located
    cases same
    have filled : submission.1.txtPhone ≠ "" := by
      have length := both.1.2.2.2.2
      intro empty
      rw [empty] at length
      exact length rfl
    have kept : trimmingCharacters submission.1.txtPhone = submission.1.txtPhone :=
      phoneText_trimmed phone
    refine ⟨⟨_, rfl, trimmed_trimming _, named⟩, ⟨_, rfl, trimmed_trimming _⟩, ?_, _, rfl⟩
    refine ⟨_, rfl, ?_⟩
    rw [kept]
    exact ⟨filled, phone⟩
  · cases saved

theorem createdAccount_valid {submission : Submission} {account : String × String}
    (created : createdAccount WLITextField.isValid submission = some account) :
    WLITextField.isValid account.1 = true ∧ Trimmed account.1 := by
  have email := (createdAccount_email created).1
  unfold createdAccount at created
  split at created
  · next accepted =>
    have valid := accepted.2.2.2.1
    have kept : trimmingCharacters submission.1.txtEmail = submission.1.txtEmail :=
      isValid_trimmed valid
    rw [email, kept]
    exact ⟨valid, isValid_trimmed valid⟩
  · cases created

theorem StoredWellFormed.submit {backend : Backend F} (stored : StoredWellFormed backend)
    {submission : Submission} (phone : PhoneText submission.1.txtPhone) :
    StoredWellFormed
      (SignUp.submitBtnDidTap WLITextField.isValid submission.1 submission.2 backend).1 := by
  rw [submit_backend]
  constructor
  · intro account member
    rcases List.mem_append.mp member with old | new
    · exact stored.emails account old
    · exact createdAccount_valid (Option.mem_toList.mp new)
  · intro path document found
    cases saved : savedDocument (F := F) WLITextField.isValid submission with
    | none =>
      rw [saved] at found
      exact stored.documents path document found
    | some save =>
      rw [saved] at found
      by_cases same : path = save.1
      · subst same
        have written : some save.2 = some document :=
          (DocumentStore.lookup_setData save.1 save.2 backend.users).symm.trans found
        cases written
        exact savedDocument_wellFormed phone saved
      · have kept : backend.users.lookup path = some document :=
          (DocumentStore.lookup_setData_ne same save.2 backend.users).symm.trans found
        exact stored.documents path document kept

structure SignUpInvariant (view : SignUpView F) : Prop where
  phone : PhoneField view.txtPhone
  stored : StoredWellFormed view.backend

theorem SignUpInvariant.step {count : String → Nat} (counts : CountsPhones count)
    {view next : SignUpView F} {move : SignUpMove} (invariant : SignUpInvariant view)
    (moved : SignUpMoves count view move next) : SignUpInvariant next := by
  cases move with
  | viewDidLoad =>
    cases moved
    exact ⟨⟨rfl, rfl, by simp [WLITextField.initial, SignUpView.viewDidLoad, PhoneText]⟩,
      invariant.stored⟩
  | edit field front removed back string =>
    cases field with
    | txtPhone =>
      obtain ⟨field, edits, rfl⟩ := moved
      exact ⟨invariant.phone.edit counts edits, invariant.stored⟩
    | _ =>
      obtain ⟨field, _, rfl⟩ := moved
      exact ⟨invariant.phone, invariant.stored⟩
  | submitBtnDidTap service =>
    cases moved
    have text : PhoneText (view.form, service).1.txtPhone := invariant.phone.text
    exact ⟨invariant.phone, invariant.stored.submit text⟩

/-- Whatever the users type and submit: every account has a trimmed e-mail that the pattern
    accepts, and every document is well formed. -/
theorem stored_well_formed {count : String → Nat} (counts : CountsPhones count)
    {moves : List SignUpMove} {view : SignUpView F}
    (path : Path (SignUpMoves count) (.viewDidLoad Backend.empty) moves view) :
    PhoneText view.txtPhone.text ∧ StoredWellFormed view.backend := by
  have invariant : SignUpInvariant view := by
    apply path.invariant (fun _ => True) SignUpInvariant
      (fun _ _ _ _ moved invariant => invariant.step counts moved) (fun _ _ => True.intro)
    refine ⟨⟨rfl, rfl, by simp [WLITextField.initial, SignUpView.viewDidLoad, PhoneText]⟩, ?_, ?_⟩
    · exact nofun
    · intro path document found
      cases found
  exact ⟨invariant.phone.text, invariant.stored⟩

def riderView : SignUpView Int where
  txtUserName := { WLITextField.initial with text := "rider" }
  txtPassword := { WLITextField.initial with text := " secret" }
  txtEmail := { WLITextField.initial with text := "rider@mail.kr" }
  txtPhone :=
    { text := "01012345678", maxCharacter := 11,
      allowCharacterOnly := some SignUpView.phoneCharacters }
  backend := Backend.empty

theorem riderView_reached :
    Path (SignUpMoves String.length) (.viewDidLoad Backend.empty)
      [.edit .txtUserName "" "" "" "rider", .edit .txtPassword "" "" "" " secret",
        .edit .txtEmail "" "" "" "rider@mail.kr", .edit .txtPhone "" "" "" "01012345678",
        .edit .txtPhone "01012345678" "" "" "9"] riderView := by
  refine .cons ⟨{ WLITextField.initial with text := "rider" }, ⟨rfl, ?_⟩, rfl⟩
    (.cons ⟨{ WLITextField.initial with text := " secret" }, ⟨rfl, ?_⟩, rfl⟩
      (.cons ⟨{ WLITextField.initial with text := "rider@mail.kr" }, ⟨rfl, ?_⟩, rfl⟩
        (.cons ⟨riderView.txtPhone, ⟨rfl, ?_⟩, rfl⟩
          (.cons ⟨riderView.txtPhone, ⟨rfl, ?_⟩, rfl⟩ .nil))))
  · exact (if_pos (by decide)).symm
  · exact (if_pos (by decide)).symm
  · exact (if_pos (by decide)).symm
  · exact (if_pos (by decide)).symm
  · exact (if_neg (by decide)).symm

theorem stored_well_formed_rider :
    PhoneText riderView.txtPhone.text ∧
      StoredWellFormed (riderView.submitBtnDidTap ⟨some "u1", true⟩).backend := by
  have counts : CountsPhones String.length := fun _ _ => rfl
  have submitted : SignUpMoves String.length riderView (.submitBtnDidTap ⟨some "u1", true⟩)
      (riderView.submitBtnDidTap ⟨some "u1", true⟩) := rfl
  exact stored_well_formed counts (riderView_reached.append (.cons submitted .nil))

end RockYou.App.Safety

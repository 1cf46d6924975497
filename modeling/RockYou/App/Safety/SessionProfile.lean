import RockYou.App.BikeList
import RockYou.App.Safety.SignUpAccounts
import RockYou.App.User

namespace RockYou.App.Safety

open Cloud Loop Machine SignUp

variable {F : Type}

def pageOf (userid id password : String) : Profile where
  nickString := userid
  idString := id
  passwordString := password
  labels := some (userid, id, password)

section Scan

variable {userid id password : String} {documents : List (QueryDocument F)}
  {document : QueryDocument F} {profile : Profile}

theorem setUserDocument_own (mine : own userid document = true)
    (secret : FieldValue.asString (document.get "password") = some password)
    (first : profile = .initial ∨ profile = pageOf userid document.documentID password) :
    Profile.setUserDocument userid document profile =
      .next (pageOf userid document.documentID password) := by
  rw [Profile.setUserDocument, own_iff.mp mine, secret]
  dsimp only
  rw [if_pos rfl]
  rcases first with rfl | rfl
  · rfl
  · rfl

theorem setUserDocument_other (present : (FieldValue.asString (document.get "uid")).isSome)
    (foreign : own userid document = false) :
    Profile.setUserDocument userid document profile = .next profile := by
  obtain ⟨uid, found⟩ := Option.isSome_iff_exists.mp present
  have different : uid ≠ userid := by
    intro same
    simp [own, found, same] at foreign
  rw [Profile.setUserDocument, found]
  exact if_neg different

theorem setUserData_scan
    (present : ∀ document ∈ documents,
      (FieldValue.asString (QueryDocument.get document "uid")).isSome)
    (single : ∀ document ∈ documents, own userid document = true →
      QueryDocument.documentID document = id ∧
        FieldValue.asString (document.get "password") = some password)
    (first : profile = .initial ∨ profile = pageOf userid id password) :
    Profile.setUserData userid documents profile =
      .next (if documents.any (own userid) then pageOf userid id password
        else profile) := by
  induction documents generalizing profile with
  | nil => rfl
  | cons document documents ih =>
    have rest (profile : Profile) := @ih profile
      (fun other member => present other (List.mem_cons_of_mem _ member))
      (fun other member => single other (List.mem_cons_of_mem _ member))
    cases mine : own userid document with
    | true =>
      obtain ⟨rfl, secret⟩ := single document (by simp) mine
      have moved := setUserDocument_own mine secret first
      have kept := rest _ (.inr rfl)
      rw [ite_self] at kept
      rw [List.any_cons, mine, Bool.true_or, if_pos rfl]
      exact (forEach_cons_next moved).trans kept
    | false =>
      have moved : Profile.setUserDocument userid document profile = .next profile :=
        setUserDocument_other (present document (by simp)) mine
      rw [List.any_cons, mine, Bool.false_or]
      exact (forEach_cons_next moved).trans (rest _ first)

theorem setUserData_absent
    (present : ∀ document ∈ documents,
      (FieldValue.asString (QueryDocument.get document "uid")).isSome)
    (absent : ∀ document ∈ documents, own userid document = false) :
    Profile.setUserData userid documents profile = .next profile := by
  have moves : ∀ document ∈ documents, ∀ profile : Profile,
      Profile.setUserDocument userid document profile = .next profile :=
    fun document member _ => setUserDocument_other (present document member) (absent document member)
  rw [Profile.setUserData, forEach_foldl moves, List.foldl_fixed]

end Scan

section Users

variable {users : Users F} {documents : List (QueryDocument F)}

theorem mem_usersSnapshot (taken : UsersSnapshot users documents) {id : String}
    {content : Document F} : ⟨id, content⟩ ∈ documents ↔ users.lookup [id] = some content := by
  rw [List.Perm.mem_iff taken, List.mem_filterMap, ← Option.mem_def, AList.mem_lookup_iff]
  constructor
  · intro listed
    obtain ⟨⟨path, document⟩, member, chosen⟩ := listed
    match path with
    | [] => cases chosen
    | [single] =>
      cases chosen
      exact member
    | _ :: _ :: _ => cases chosen
  · intro member
    exact ⟨⟨[id], content⟩, member, rfl⟩

end Users

section Session

variable {isValid : String → Bool} {submissions : List Submission} {backend : Backend F}

theorem run_document (run : Path (Submits isValid) Backend.empty submissions backend)
    {path : List String} {document : Document F}
    (stored : backend.users.lookup path = some document) :
    (∃ uid, document "uid" = some (.string uid)) ∧
      ∃ password, document "password" = some (.string password) := by
  rw [run_documents run] at stored
  obtain ⟨submission, _, saved⟩ := List.mem_filterMap.mp (lastSaved_mem stored)
  unfold savedDocument at saved
  split at saved
  · obtain ⟨uid, _, located⟩ := Option.bind_eq_some_iff.mp saved
    obtain ⟨_, _, same⟩ := Option.map_eq_some_iff.mp located
    cases same
    exact ⟨⟨_, rfl⟩, _, rfl⟩
  · cases saved

def pageAt (userid password : String) : Option (List String) → Profile
  | some [id] => pageOf userid id password
  | _ => .initial

/-- After the callback of a login for an existing account the page shows the id and the password of
    this account's document, in whatever order the documents come; it stays empty when the path of
    the user name has several segments, so that the document lies further below. -/
theorem profile_of_session (run : Path (Submits isValid) Backend.empty submissions backend)
    {userName password : String} {document : Document F} {state next : LoginState}
    (found : account backend.users userName = some document)
    (returned : getUserData (some document) userName password state = some next)
    {documents : List (QueryDocument F)} (taken : UsersSnapshot backend.users documents) :
    ∃ stored, document "password" = some (.string stored) ∧
      Profile.setUserData next.userid documents .initial =
        .next (pageAt next.userid stored (documentWithPath userName)) := by
  obtain ⟨path, located, stored⟩ := Option.bind_eq_some_iff.mp found
  obtain ⟨⟨uid, identified⟩, secret, kept⟩ := run_document run stored
  have session : next.userid = uid := by
    obtain ⟨_, _, _, ⟨missing, _, _⟩ | ⟨same, _⟩⟩ := getUserData_cases returned
    · rw [identified] at missing
      cases missing
    · rw [identified] at same
      cases same
      rfl
  have carried : Carries backend.users path uid := ⟨document, stored, by rw [uidOf, identified]; rfl⟩
  have present : ∀ other ∈ documents,
      (FieldValue.asString (QueryDocument.get other "uid")).isSome := by
    intro other member
    obtain ⟨⟨owner, named⟩, _⟩ := run_document run ((mem_usersSnapshot taken).mp member)
    rw [QueryDocument.get, named]
    rfl
  have only : ∀ other ∈ documents, own uid other = true →
      path = [QueryDocument.documentID other] ∧ other.2 = document := by
    intro other member mine
    have lookup := (mem_usersSnapshot taken).mp member
    have same : path = [other.1] := (run_signedUp run).single uid path [other.1] carried
      ⟨other.2, lookup, own_iff.mp mine⟩
    rw [← same, stored] at lookup
    cases lookup
    exact ⟨same, rfl⟩
  refine ⟨secret, kept, ?_⟩
  rw [session, located]
  by_cases above : ∃ id, path = [id]
  · obtain ⟨id, rfl⟩ := above
    have owner : FieldValue.asString (document "uid") = some uid := by
      rw [identified]
      rfl
    have listed : documents.any (own uid) = true := by
      rw [List.any_eq_true]
      exact ⟨⟨id, document⟩, (mem_usersSnapshot taken).mpr stored, own_iff.mpr owner⟩
    have single : ∀ other ∈ documents, own uid other = true →
        QueryDocument.documentID other = id ∧
          FieldValue.asString (other.get "password") = some secret := by
      intro other member mine
      obtain ⟨same, whole⟩ := only other member mine
      refine ⟨(List.cons.inj same).1.symm, ?_⟩
      rw [QueryDocument.get, whole, kept]
      rfl
    rw [setUserData_scan present single (.inl rfl), listed]
    rfl
  · have absent : ∀ other ∈ documents, own uid other = false := by
      intro other member
      by_contra mine
      exact above ⟨_, (only other member (Bool.of_not_eq_false mine)).1⟩
    rw [setUserData_absent present absent]
    match path, above with
    | [], _ => rfl
    | [id], above => exact absurd ⟨id, rfl⟩ above
    | _ :: _ :: _, _ => rfl

end Session

theorem profile_of_session_rider :
    Profile.setUserData "u1"
        [⟨"rider", (newDocument "rider" "secret" "01012345678" "u1" : Document Int)⟩] .initial =
      .next (pageOf "u1" "rider" "secret") := by
  have taken : UsersSnapshot (afterSignUp riderForm ⟨some "u1", true⟩ Backend.empty).users
      [⟨"rider", newDocument "rider" "secret" "01012345678" "u1"⟩] := .refl _
  have located : documentWithPath "rider" = some ["rider"] :=
    documentWithPath_segment (by decide) (by decide)
  obtain ⟨stored, secret, shown⟩ := @profile_of_session _ _ _ _ (.cons (rider_submits true) .nil)
    "rider" "secret" _ .initial _ rfl rfl _ taken
  cases secret
  rw [located] at shown
  exact shown

end RockYou.App.Safety

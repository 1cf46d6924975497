import RockYou.Cloud.Document
import RockYou.Cloud.Path

namespace RockYou.App

open Cloud

variable {F : Type}

inductive Tap where
  | showForm
  | showAlert (alertmsg : String)
  | addServerData (document bicycleNickname : String)
  | dismiss
  | nothing
  deriving DecidableEq

def nextButtonDidTap (viewFlag : Nat) (txtNumberOfLocker txtNicknameBicycle : String) :
    Nat × Tap :=
  if viewFlag = 1 then (2, .showForm)
  else if viewFlag = 2 then
    if txtNumberOfLocker.length = 0 then (2, .showAlert "자물쇠 번호 입력 하셈")
    else if txtNicknameBicycle.length = 0 then (2, .showAlert "닉네임 입력 하셈")
    else
      let numberOfLocker := trimmingCharacters txtNumberOfLocker
      let nicknameBicycle := trimmingCharacters txtNicknameBicycle
      (3, .addServerData numberOfLocker nicknameBicycle)
  else if viewFlag = 3 then (3, .dismiss)
  else (viewFlag, .nothing)

def registeredDocument (bicycleNickname : String) (state : Int) (uid : String) : Document F :=
  Function.update (Function.update (Function.update DocumentStore.Document.empty
    "bicycleNickname" (some (.string bicycleNickname)))
    "state" (some (.integer state)))
    "uid" (some (.string uid))

/-- `addServerData` on the `bicycle` collection; a longer path names a document of another
    collection, and `none` is a raised exception. -/
def addServerData (document bicycleNickname : String) (state : Int) (uid : String)
    (bicycle : Collection F) : Option (Collection F) :=
  match documentWithPath document with
  | none => none
  | some [id] => some (DocumentStore.setData id (registeredDocument bicycleNickname state uid) bicycle)
  | some _ => some bicycle

def register (userid : String) (viewFlag : Nat) (txtNumberOfLocker txtNicknameBicycle : String)
    (bicycle : Collection F) : Option (Collection F) :=
  match (nextButtonDidTap viewFlag txtNumberOfLocker txtNicknameBicycle).2 with
  | .addServerData document bicycleNickname =>
    addServerData document bicycleNickname 0 userid bicycle
  | _ => some bicycle

@[simp] theorem registeredDocument_uid (bicycleNickname : String) (state : Int) (uid : String) :
    (registeredDocument bicycleNickname state uid : Document F) "uid" = some (.string uid) := rfl

@[simp] theorem registeredDocument_state (bicycleNickname : String) (state : Int)
    (uid : String) :
    (registeredDocument bicycleNickname state uid : Document F) "state" =
      some (.integer state) := rfl

@[simp] theorem registeredDocument_bicycleNickname (bicycleNickname : String) (state : Int)
    (uid : String) :
    (registeredDocument bicycleNickname state uid : Document F) "bicycleNickname" =
      some (.string bicycleNickname) := rfl

theorem addServerData_cases {document bicycleNickname uid : String} {state : Int}
    {bicycle after : Collection F}
    (added : addServerData document bicycleNickname state uid bicycle = some after) :
    (∃ id, documentWithPath document = some [id] ∧
      after = DocumentStore.setData id (registeredDocument bicycleNickname state uid) bicycle) ∨
      ((∀ id, documentWithPath document ≠ some [id]) ∧ after = bicycle) := by
  unfold addServerData at added
  split at added
  · cases added
  · rename_i id path
    cases added
    exact .inl ⟨id, path, rfl⟩
  · rename_i segments several path
    cases added
    have elsewhere (id : String) : documentWithPath document ≠ some [id] := by
      intro same
      rw [path, Option.some.injEq] at same
      exact several id same
    exact .inr ⟨elsewhere, rfl⟩

end RockYou.App

import RockYou.App.Register
import RockYou.Library.Machine

namespace RockYou.App.Safety

open Cloud Machine

variable {F : Type}

/-- The registration wizard: its step, and the documents it has written under their paths below
    `bicycle`. -/
structure Wizard (F : Type) where
  viewFlag : Nat
  writes : List (List String × Document F)

def Wizard.initial : Wizard F where
  viewFlag := 1
  writes := []

structure FieldTexts where
  txtNumberOfLocker : String
  txtNicknameBicycle : String

def FieldTexts.tap (viewFlag : Nat) (texts : FieldTexts) : Nat × Tap :=
  nextButtonDidTap viewFlag texts.txtNumberOfLocker texts.txtNicknameBicycle

def Wizard.next (userid : String) (wizard : Wizard F) (texts : FieldTexts) : Option (Wizard F) :=
  match texts.tap wizard.viewFlag with
  | (viewFlag, .addServerData document bicycleNickname) =>
    (documentWithPath document).map fun segments =>
      { viewFlag := viewFlag
        writes := wizard.writes ++ [(segments, registeredDocument bicycleNickname 0 userid)] }
  | (viewFlag, _) => some { wizard with viewFlag := viewFlag }

def Taps (userid : String) (wizard : Wizard F) (texts : FieldTexts) (after : Wizard F) : Prop :=
  wizard.next userid texts = some after

structure Registers (texts : FieldTexts) : Prop where
  locker : trimmingCharacters texts.txtNumberOfLocker ≠ ""
  segment : '/' ∉ (trimmingCharacters texts.txtNumberOfLocker).toList
  nickname : trimmingCharacters texts.txtNicknameBicycle ≠ ""

/-- At step 2 the texts of a registration write their document and lead to step 3, and others only
    to an alert; the other steps write nothing. -/
structure TapSound (userid : String) (wizard : Wizard F) (texts : FieldTexts) : Prop where
  registered : wizard.viewFlag = 2 → Registers texts → wizard.next userid texts = some
    { viewFlag := 3
      writes := wizard.writes ++ [([trimmingCharacters texts.txtNumberOfLocker],
        registeredDocument (trimmingCharacters texts.txtNicknameBicycle) 0 userid)] }
  refused : wizard.viewFlag = 2 → ¬ Registers texts → wizard.next userid texts = some wizard ∧
    ∃ alertmsg, (texts.tap wizard.viewFlag).2 = .showAlert alertmsg
  elsewhere : wizard.viewFlag ≠ 2 → ∃ after, wizard.next userid texts = some after ∧
    after.writes = wizard.writes

def Foreseen (texts : FieldTexts) : Prop :=
  texts.txtNumberOfLocker = "" ∨ texts.txtNicknameBicycle = "" ∨ Registers texts

def WritesOnce (wizard : Wizard F) : Prop :=
  wizard.writes.length = if wizard.viewFlag = 3 then 1 else 0

section Taps

variable {userid : String} {wizard after : Wizard F} {texts : FieldTexts}

theorem next_form (atForm : wizard.viewFlag = 2) (locker : texts.txtNumberOfLocker ≠ "")
    (nickname : texts.txtNicknameBicycle ≠ "") :
    wizard.next userid texts =
      (documentWithPath (trimmingCharacters texts.txtNumberOfLocker)).map fun segments =>
        { viewFlag := 3
          writes := wizard.writes ++ [(segments,
            registeredDocument (trimmingCharacters texts.txtNicknameBicycle) 0 userid)] } := by
  simp [Wizard.next, FieldTexts.tap, nextButtonDidTap, atForm, locker, nickname]

theorem next_refused (atForm : wizard.viewFlag = 2)
    (empty : texts.txtNumberOfLocker = "" ∨ texts.txtNicknameBicycle = "") :
    wizard.next userid texts = some wizard ∧
      ∃ alertmsg, (texts.tap wizard.viewFlag).2 = .showAlert alertmsg := by
  obtain ⟨viewFlag, writes⟩ := wizard
  subst atForm
  by_cases locker : texts.txtNumberOfLocker = ""
  · simp [Wizard.next, FieldTexts.tap, nextButtonDidTap, locker]
  · have nickname := empty.resolve_left locker
    simp [Wizard.next, FieldTexts.tap, nextButtonDidTap, locker, nickname]

theorem next_quiet (elsewhere : wizard.viewFlag ≠ 2) :
    wizard.next userid texts =
      some { wizard with viewFlag := if wizard.viewFlag = 1 then 2 else wizard.viewFlag } := by
  by_cases first : wizard.viewFlag = 1
  · simp [Wizard.next, FieldTexts.tap, nextButtonDidTap, first]
  · by_cases last : wizard.viewFlag = 3 <;>
      simp [Wizard.next, FieldTexts.tap, nextButtonDidTap, first, elsewhere, last]

theorem taps_writesOnce (once : WritesOnce wizard) (tapped : Taps userid wizard texts after) :
    WritesOnce after ∧
      (after.writes ≠ wizard.writes ↔ wizard.viewFlag ≠ 3 ∧ after.viewFlag = 3) := by
  rw [Taps] at tapped
  by_cases atForm : wizard.viewFlag = 2
  · by_cases empty : texts.txtNumberOfLocker = "" ∨ texts.txtNicknameBicycle = ""
    · rw [(next_refused atForm empty).1] at tapped
      cases tapped
      exact ⟨once, by simp [atForm]⟩
    · rw [not_or] at empty
      rw [next_form atForm empty.1 empty.2] at tapped
      obtain ⟨segments, _, written⟩ := Option.map_eq_some_iff.mp tapped
      rw [← written]
      simp only [WritesOnce, atForm] at once ⊢
      simp [once]
  · rw [next_quiet atForm] at tapped
    cases tapped
    simp only [WritesOnce] at once ⊢
    by_cases first : wizard.viewFlag = 1
    · simp only [first] at once ⊢
      simp [once]
    · simp [once, first]

theorem tapSound_iff : TapSound userid wizard texts ↔ (wizard.viewFlag = 2 → Foreseen texts) := by
  constructor
  · intro sound atForm
    by_cases locker : texts.txtNumberOfLocker = ""
    · exact .inl locker
    by_cases nickname : texts.txtNicknameBicycle = ""
    · exact .inr (.inl nickname)
    by_cases registers : Registers texts
    · exact .inr (.inr registers)
    · obtain ⟨stayed, _⟩ := sound.refused atForm registers
      rw [next_form atForm locker nickname] at stayed
      obtain ⟨segments, _, written⟩ := Option.map_eq_some_iff.mp stayed
      rw [← written] at atForm
      cases atForm
  · intro foreseen
    refine ⟨?_, ?_, ?_⟩
    · intro atForm registers
      have locker : texts.txtNumberOfLocker ≠ "" := by
        intro empty
        exact registers.locker (by rw [empty]; decide)
      have nickname : texts.txtNicknameBicycle ≠ "" := by
        intro empty
        exact registers.nickname (by rw [empty]; decide)
      rw [next_form atForm locker nickname,
        documentWithPath_segment registers.locker registers.segment]
      rfl
    · intro atForm unregistered
      have empty : texts.txtNumberOfLocker = "" ∨ texts.txtNicknameBicycle = "" := by
        rcases foreseen atForm with locker | nickname | registers
        · exact .inl locker
        · exact .inr nickname
        · exact absurd registers unregistered
      exact next_refused atForm empty
    · intro elsewhere
      exact ⟨_, next_quiet elsewhere, rfl⟩

end Taps

/-- In every run the wizard writes at most once, when it moves to step 3, and a tap does what it
    should exactly when its texts at step 2 are foreseen. -/
theorem registration_sound_iff {userid : String} {taps : List FieldTexts} {wizard : Wizard F}
    (path : Path (Taps userid) .initial taps wizard) (texts : FieldTexts) :
    wizard.writes.length ≤ 1 ∧
    (∀ after, Taps userid wizard texts after →
      (after.writes ≠ wizard.writes ↔ wizard.viewFlag ≠ 3 ∧ after.viewFlag = 3)) ∧
    (TapSound userid wizard texts ↔ (wizard.viewFlag = 2 → Foreseen texts)) := by
  have once : WritesOnce wizard := path.invariant (fun _ => True) WritesOnce
    (fun _ _ _ _ tapped once => (taps_writesOnce once tapped).1) (fun _ _ => True.intro) rfl
  refine ⟨?_, fun after tapped => (taps_writesOnce once tapped).2, tapSound_iff⟩
  rw [once]
  split <;> decide

def atForm : Wizard Int := { viewFlag := 2, writes := [] }

theorem registration_sound_bike :
    TapSound "u" atForm ⟨"7", "bike"⟩ ↔ (atForm.viewFlag = 2 → Foreseen ⟨"7", "bike"⟩) := by
  have opened : Taps "u" .initial ⟨"", ""⟩ atForm := rfl
  exact (registration_sound_iff (.cons opened .nil) ⟨"7", "bike"⟩).2.2

/-- A locker number of blanks passes the check and raises an exception. -/
theorem blank_locker_raises :
    ¬ ∀ (taps : List FieldTexts) (wizard : Wizard Int) (texts : FieldTexts),
      Path (Taps "u") .initial taps wizard → TapSound "u" wizard texts := by
  intro sound
  have opened : Taps "u" .initial ⟨"", ""⟩ atForm := rfl
  have foreseen := tapSound_iff.mp (sound _ _ ⟨" ", "bike"⟩ (.cons opened .nil)) rfl
  have blank : trimmingCharacters " " = "" := by decide
  rcases foreseen with locker | nickname | registers
  · revert locker
    decide
  · revert nickname
    decide
  · exact registers.locker blank

end RockYou.App.Safety

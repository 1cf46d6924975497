import Mathlib
import RockYou.Library.Prefix
import RockYou.GPS.Safety.Publication

namespace RockYou.GPS

def TinyGPSCustom.Before (p next : TinyGPSCustom) : Prop :=
  p.sentenceName < next.sentenceName ∨
    p.sentenceName = next.sentenceName ∧ p.termNumber ≤ next.termNumber

def Sorted (customElts : List TinyGPSCustom) : Prop := customElts.Pairwise TinyGPSCustom.Before

inductive Use where
  | encode (millis : BitVec 32) (c : UInt8)
  | begin (sentenceName : List UInt8) (termNumber : Int)

def use (gps : TinyGPSPlus) : Use → TinyGPSPlus × List Bool
  | .encode millis c => decode gps (millis, c)
  | .begin sentenceName termNumber =>
    ({ gps with toReadings := gps.toReadings.insertCustom (.begin sentenceName termNumber) }, [])

namespace Safety

section Order

variable {name : List UInt8} {termNumber : Int} {p next : TinyGPSCustom}

theorem precedes_next (before : p.Before next) (first : precedes name termNumber p = true) :
    precedes name termNumber next = true := by
  rw [precedes, decide_eq_true_eq] at first ⊢
  rcases before with smaller | ⟨same, number⟩
  · rcases first with below | ⟨rfl, _⟩
    · exact .inl (List.lt_trans below smaller)
    · exact .inl smaller
  · rcases first with below | ⟨rfl, short⟩
    · exact .inl (same ▸ below)
    · exact .inr ⟨same, by omega⟩

theorem before_of_precedes {x : TinyGPSCustom}
    (first : precedes x.sentenceName x.termNumber p = true) : x.Before p := by
  rw [precedes, decide_eq_true_eq] at first
  rcases first with below | ⟨same, short⟩
  · exact .inl below
  · exact .inr ⟨same, le_of_lt short⟩

theorem before_of_not_precedes {x : TinyGPSCustom}
    (later : precedes x.sentenceName x.termNumber p = false) : p.Before x := by
  rw [precedes, decide_eq_false_iff_not, not_or, not_and] at later
  rcases List.le_iff_lt_or_eq.mp (List.not_lt.mp later.1) with below | same
  · exact .inl below
  · exact .inr ⟨same, by have number := later.2 same.symm; omega⟩

theorem insertCustom_sorted {readings : Readings} (sorted : Sorted readings.customElts)
    (pElt : TinyGPSCustom) : Sorted (readings.insertCustom pElt).customElts := by
  rw [Readings.insertCustom]
  dsimp only
  rw [Prefix.take_length, Prefix.drop_length]
  refine Prefix.insert_pairwise sorted (Prefix.Initial.of_pairwise sorted ?_) ?_ ?_
  · intro p next before behind
    rw [Bool.not_eq_true', Bool.eq_false_iff] at behind ⊢
    exact fun first => behind (precedes_next before first)
  · intro p behind
    rw [Bool.not_eq_true'] at behind
    exact before_of_not_precedes behind
  · intro p first
    rw [Bool.not_eq_false'] at first
    exact before_of_precedes first

end Order

section Candidates

variable {name : List UInt8} {customElts : List TinyGPSCustom}

theorem updateWhile_eq {α : Type} (go : α → Bool) (update : α → α) (list : List α) :
    updateWhile go update list = (list.takeWhile go).map update ++ list.dropWhile go := by
  induction list with
  | nil => rfl
  | cons p next ih =>
    rw [updateWhile, List.takeWhile_cons, List.dropWhile_cons]
    split
    · rw [ih]
      rfl
    · rfl

theorem smaller_initial (sorted : Sorted customElts) (name : List UInt8) :
    Prefix.Initial (fun p : TinyGPSCustom => p.sentenceName < name) customElts := by
  refine Prefix.Initial.of_pairwise sorted fun p next before below => ?_
  rw [decide_eq_true_eq] at below ⊢
  rcases before with smaller | ⟨same, _⟩
  · exact List.lt_trans smaller below
  · exact same ▸ below

theorem front_apart (name : List UInt8) :
    ∀ p ∈ customElts.takeWhile fun p => p.sentenceName < name, p.sentenceName ≠ name := by
  intro p member same
  have below := List.mem_takeWhile_imp member
  rw [decide_eq_true_eq, same] at below
  exact List.lt_irrefl name below

theorem behind_least (sorted : Sorted customElts) (name : List UInt8) :
    ∀ p ∈ customElts.dropWhile fun p => p.sentenceName < name, name ≤ p.sentenceName := by
  intro p member
  exact List.not_lt.mp
    (of_decide_eq_false (Prefix.fails_behind (smaller_initial sorted name) p member))

theorem above_apart {p : TinyGPSCustom} {rest : List TinyGPSCustom} (sorted : Sorted (p :: rest))
    (above : name < p.sentenceName) : ∀ q ∈ p :: rest, q.sentenceName ≠ name := by
  intro q member same
  rcases List.mem_cons.mp member with rfl | later
  · exact List.lt_irrefl name (same ▸ above)
  · rcases (List.pairwise_cons.mp sorted).1 q later with smaller | ⟨equal, _⟩
    · exact List.lt_irrefl name (List.lt_trans above (same ▸ smaller))
    · exact List.lt_irrefl name (equal.trans same ▸ above)

theorem candidatesOf_cases (sorted : Sorted customElts) (name : List UInt8) :
    (candidatesOf name customElts = none ∧ ∀ p ∈ customElts, p.sentenceName ≠ name) ∨
      ∃ front p rest, customElts = front ++ p :: rest ∧ p.sentenceName = name ∧
        (∀ p ∈ front, p.sentenceName ≠ name) ∧ (∀ next ∈ rest, name ≤ next.sentenceName) ∧
        candidatesOf name customElts = some front.length := by
  have front := @front_apart customElts name
  have behind := behind_least sorted name
  have whole := List.takeWhile_append_dropWhile (p := fun p : TinyGPSCustom => p.sentenceName < name)
    (l := customElts)
  have reached : customElts[(customElts.takeWhile fun p => p.sentenceName < name).length]? =
      (customElts.dropWhile fun p => p.sentenceName < name).head? := by
    rw [← List.head?_drop, Prefix.drop_length]
  rw [candidatesOf, reached]
  cases found : customElts.dropWhile fun p => p.sentenceName < name with
  | nil =>
    refine .inl ⟨rfl, fun p member => front p ?_⟩
    rw [found, List.append_nil] at whole
    rwa [whole]
  | cons p rest =>
    rw [found] at behind whole
    rw [List.head?_cons]
    dsimp only
    by_cases above : name < p.sentenceName
    · rw [if_pos above]
      refine .inl ⟨rfl, fun q member => ?_⟩
      rw [← whole] at member sorted
      rcases List.mem_append.mp member with first | later
      · exact front q first
      · exact above_apart (List.pairwise_append.mp sorted).2.1 above q later
    · rw [if_neg above]
      have same : p.sentenceName = name :=
        (List.le_iff_lt_or_eq.mp (List.not_lt.mp above)).resolve_left
          (List.not_lt.mpr (behind p List.mem_cons_self))
      exact .inr ⟨_, p, rest, whole.symm, same, front,
        fun next member => behind next (List.mem_cons_of_mem _ member), rfl⟩

theorem forCandidates_eq {readings : Readings} (sorted : Sorted readings.customElts)
    (candidates : readings.customCandidates = candidatesOf name readings.customElts)
    {go : TinyGPSCustom → Bool} (update : TinyGPSCustom → TinyGPSCustom)
    (closed : ∀ p next, p.termNumber ≤ next.termNumber → go next = true → go p = true) :
    readings.forCandidates go update =
      readings.customElts.map fun p => if p.sentenceName = name ∧ go p then update p else p := by
  have aside {list : List TinyGPSCustom} (other : ∀ p ∈ list, p.sentenceName ≠ name) :
      (list.map fun p => if p.sentenceName = name ∧ go p then update p else p) = list :=
    (List.map_congr_left fun p member => if_neg fun both => other p member both.1).trans
      (List.map_id _)
  rw [Readings.forCandidates, candidates]
  rcases candidatesOf_cases sorted name with
    ⟨none, other⟩ | ⟨front, p, rest, split, same, other, least, some⟩
  · rw [none, aside other]
  · rw [some, split]
    dsimp only
    rw [List.take_left, List.drop_left, List.map_append, aside other, List.head?_cons,
      Option.map_some, Option.getD_some, same, updateWhile_eq]
    have initial : Prefix.Initial (fun p : TinyGPSCustom => p.sentenceName = name ∧ go p)
        (p :: rest) := by
      rw [split] at sorted
      refine (List.pairwise_append.mp sorted).2.1.imp_of_mem fun {q next} member _ before named => ?_
      rw [decide_eq_true_eq] at named ⊢
      have above : name ≤ q.sentenceName := by
        rcases List.mem_cons.mp member with rfl | later
        · exact same ▸ List.le_refl _
        · exact least q later
      rcases before with smaller | ⟨equal, number⟩
      · exact absurd (named.1 ▸ smaller) (List.not_lt.mpr above)
      · exact ⟨equal.trans named.1, closed q next number named.2⟩
    rw [Prefix.map_takeWhile initial]
    simp only [decide_eq_true_eq]

end Candidates

section Elements

variable {name : List UInt8} {customElts : List TinyGPSCustom}

def Keeps (update : TinyGPSCustom → TinyGPSCustom) : Prop :=
  ∀ p, (update p).sentenceName = p.sentenceName ∧ (update p).termNumber = p.termNumber

theorem Keeps.sorted {update : TinyGPSCustom → TinyGPSCustom} (keeps : Keeps update)
    (sorted : Sorted customElts) : Sorted (customElts.map update) := by
  refine List.pairwise_map.mpr (sorted.imp fun {p next} before => ?_)
  rw [TinyGPSCustom.Before, (keeps p).1, (keeps p).2, (keeps next).1, (keeps next).2]
  exact before

theorem Keeps.candidatesOf {update : TinyGPSCustom → TinyGPSCustom} (keeps : Keeps update)
    (name : List UInt8) (customElts : List TinyGPSCustom) :
    candidatesOf name (customElts.map update) = candidatesOf name customElts := by
  have same : ((fun p : TinyGPSCustom => decide (p.sentenceName < name)) ∘ update) =
      fun p : TinyGPSCustom => decide (p.sentenceName < name) := by
    funext p
    exact congrArg (fun sentenceName => decide (sentenceName < name)) (keeps p).1
  rw [GPS.candidatesOf, GPS.candidatesOf, List.takeWhile_map, List.length_map, same,
    List.getElem?_map]
  cases customElts[(customElts.takeWhile fun p => p.sentenceName < name).length]? with
  | none => rfl
  | some p =>
    dsimp only [Option.map_some]
    rw [(keeps p).1]

def stage (name : List UInt8) (termNumber : Nat) (term : List UInt8) (p : TinyGPSCustom) :
    TinyGPSCustom :=
  if p.sentenceName = name ∧ p.termNumber = termNumber then { p with item := p.item.set term }
  else p

def stages (name : List UInt8) : Nat → List (List UInt8) → TinyGPSCustom → TinyGPSCustom :=
  forTerms (stage name)

theorem stage_keeps (name : List UInt8) (termNumber : Nat) (term : List UInt8) :
    Keeps (stage name termNumber term) := by
  intro p
  rw [stage]
  split
  · exact ⟨rfl, rfl⟩
  · exact ⟨rfl, rfl⟩

structure Lists (name : List UInt8) (customElts : List TinyGPSCustom) (readings : Readings) :
    Prop where
  sorted : Sorted customElts
  elements : readings.customElts = customElts
  candidates : readings.customCandidates = candidatesOf name customElts

theorem switchTerm_custom (termNumber : Nat) (term : List UInt8) (readings : Readings) :
    (readings.switchTerm termNumber term).customElts = readings.customElts ∧
      (readings.switchTerm termNumber term).customCandidates = readings.customCandidates := by
  rw [Readings.switchTerm]
  split
  · split
    · next field _ => cases field <;> exact ⟨rfl, rfl⟩
    · exact ⟨rfl, rfl⟩
  · exact ⟨rfl, rfl⟩

theorem Lists.readTerm {readings : Readings} (lists : Lists name customElts readings)
    (termNumber : Nat) (term : List UInt8) :
    Lists name (customElts.map (stage name termNumber term)) (readings.readTerm termNumber term) := by
  have keeps := stage_keeps name termNumber term
  obtain ⟨same, candidates⟩ := switchTerm_custom termNumber term readings
  obtain ⟨sorted, rfl, listed⟩ := lists
  have loop := @forCandidates_eq name (readings.switchTerm termNumber term) (same ▸ sorted)
    (by rw [candidates, listed, same]) (fun p => p.termNumber ≤ termNumber)
    (Readings.setCustom term termNumber)
    (fun p next less below => decide_eq_true (less.trans (of_decide_eq_true below)))
  refine ⟨keeps.sorted sorted, ?_, ?_⟩
  · rw [Readings.readTerm, loop, same]
    refine List.map_congr_left fun p _ => ?_
    rw [stage, Readings.setCustom]
    by_cases named : p.sentenceName = name
    · by_cases number : p.termNumber = termNumber
      · simp [named, number]
      · simp [named, number]
    · simp [named]
  · rw [keeps.candidatesOf]
    exact candidates.trans listed

theorem forTerms_map (name : List UInt8) (termNumber : Nat) (terms : List (List UInt8))
    (customElts : List TinyGPSCustom) :
    forTerms (fun termNumber term => List.map (stage name termNumber term)) termNumber terms
        customElts = customElts.map (stages name termNumber terms) := by
  induction terms generalizing termNumber customElts with
  | nil => exact (List.map_id _).symm
  | cons term terms ih =>
    rw [forTerms, ih, List.map_map]
    rfl

theorem stages_keeps (name : List UInt8) (termNumber : Nat) (terms : List (List UInt8)) :
    Keeps (stages name termNumber terms) := by
  intro p
  induction terms generalizing termNumber p with
  | nil => exact ⟨rfl, rfl⟩
  | cons term terms ih =>
    obtain ⟨named, number⟩ := ih (termNumber + 1) (stage name termNumber (clip term) p)
    obtain ⟨sameName, sameNumber⟩ := stage_keeps name termNumber (clip term) p
    exact ⟨named.trans sameName, number.trans sameNumber⟩

theorem stages_other {p : TinyGPSCustom} (other : p.sentenceName ≠ name) (termNumber : Nat)
    (terms : List (List UInt8)) : stages name termNumber terms p = p := by
  induction terms generalizing termNumber with
  | nil => rfl
  | cons term terms ih =>
    rw [stages, forTerms, stage, if_neg fun both => other both.1]
    exact ih (termNumber + 1)

theorem stages_apart {p : TinyGPSCustom} {termNumber : Nat} {terms : List (List UInt8)}
    (apart : ∀ index < terms.length, p.termNumber ≠ termNumber + index) :
    stages name termNumber terms p = p := by
  induction terms generalizing termNumber with
  | nil => rfl
  | cons term terms ih =>
    have first : p.termNumber ≠ termNumber := by simpa using apart 0 (by simp)
    rw [stages, forTerms, stage, if_neg fun both => first both.2]
    refine ih fun index inside => ?_
    have later := apart (index + 1) (by simpa using inside)
    push_cast at later ⊢
    omega

theorem stages_term {p : TinyGPSCustom} {termNumber index : Nat} {terms : List (List UInt8)}
    {term : List UInt8} (named : p.sentenceName = name) (present : terms[index]? = some term)
    (number : p.termNumber = termNumber + index) :
    (stages name termNumber terms p).item.newval = clip term := by
  induction terms generalizing termNumber index p with
  | nil => exact absurd present (by simp)
  | cons first terms ih =>
    cases index with
    | zero =>
      rw [List.getElem?_cons_zero, Option.some.injEq] at present
      have here : p.termNumber = termNumber := by simpa using number
      rw [stages, forTerms, stage, if_pos ⟨named, here⟩, present]
      -- once the term was read, later ones leave the element alone
      refine congrArg (fun q => TinyGPSCustom.item q |>.newval) (stages_apart fun index _ => ?_)
      dsimp only
      push_cast
      omega
    | succ index =>
      rw [List.getElem?_cons_succ] at present
      obtain ⟨sameName, sameNumber⟩ := stage_keeps name termNumber (clip first) p
      rw [stages, forTerms]
      refine ih (sameName.trans named) present ?_
      rw [sameNumber, number]
      push_cast
      ring

end Elements

section Sentence

variable {name : List UInt8} {terms : List (List UInt8)}

theorem custom_lists {readings : Readings} (sorted : Sorted readings.customElts)
    (short : terms.length ≤ 255) :
    Lists (clip name) (readings.customElts.map (stages (clip name) 1 terms))
      (readings.terms 0 (name :: terms)) := by
  have begun : Lists (clip name) readings.customElts (readings.nameSentence (clip name)) :=
    ⟨sorted, rfl, rfl⟩
  have one : (1 : UInt8).toNat = 1 := rfl
  have read := @terms_related _ (fun termNumber term => List.map (stage (clip name) termNumber term))
    (Lists (clip name)) (fun termNumber term _ _ lists => lists.readTerm termNumber term) terms 1 _ _
    begun (by decide) (by omega)
  rw [one, forTerms_map] at read
  exact read

theorem commitItems_custom (millis : BitVec 32) (readings : Readings) :
    (readings.commitItems millis).customElts = readings.customElts ∧
      (readings.commitItems millis).customCandidates = readings.customCandidates := by
  rw [Readings.commitItems]
  split
  · dsimp only
    split <;> exact ⟨rfl, rfl⟩
  · dsimp only
    split <;> exact ⟨rfl, rfl⟩
  · exact ⟨rfl, rfl⟩

theorem validate_custom {customElts : List TinyGPSCustom} {readings : Readings}
    (lists : Lists name customElts readings) (millis : BitVec 32) {checksum parity : UInt8}
    (same : checksum = parity) :
    (readings.validate millis checksum parity).2.customElts = customElts.map fun p =>
      if p.sentenceName = name then Readings.commitCustom millis p else p := by
  obtain ⟨elements, candidates⟩ := commitItems_custom millis readings.countPassed
  obtain ⟨sorted, rfl, listed⟩ := lists
  have loop := @forCandidates_eq name (readings.countPassed.commitItems millis)
    (elements ▸ sorted) (candidates.trans (listed.trans (congrArg _ elements.symm)))
    (fun _ => true) (Readings.commitCustom millis) (fun _ _ _ _ => rfl)
  rw [Readings.validate, if_pos same]
  dsimp only
  rw [loop, elements]
  simp only [and_true]
  rfl

end Sentence

section Uses

def key (p : TinyGPSCustom) : List UInt8 × Int := (p.sentenceName, p.termNumber)

theorem sorted_of_keys {customElts after : List TinyGPSCustom} (sorted : Sorted customElts)
    (same : after.map key = customElts.map key) : Sorted after := by
  have before (list : List TinyGPSCustom) : (list.map key).Pairwise (fun left right =>
      left.1 < right.1 ∨ left.1 = right.1 ∧ left.2 ≤ right.2) ↔ Sorted list := List.pairwise_map
  rw [← before, same]
  exact (before _).mpr sorted

theorem handler_keys (millis : BitVec 32) (gps : TinyGPSPlus) :
    (gps.endOfTermHandler millis).2.customElts.map key = gps.customElts.map key := by
  rw [TinyGPSPlus.endOfTermHandler]
  split
  · dsimp only
    rw [Readings.validate]
    split
    · have loop := @forCandidates_map _ (fun _ => true) (Readings.commitCustom millis) key
        (fun _ => rfl) (gps.countPassed.commitItems millis)
      rw [(commitItems_custom _ _).1] at loop
      exact loop
    · rfl
  · split
    · rfl
    · have hidden (p : TinyGPSCustom) : key (Readings.setCustom (cString gps.term)
          gps.curTermNumber.toNat p) = key p := by
        rw [Readings.setCustom]
        split <;> rfl
      have loop := @forCandidates_map _ (fun p => p.termNumber ≤ gps.curTermNumber.toNat) _ key
        hidden (gps.switchTerm gps.curTermNumber.toNat (cString gps.term))
      rw [(switchTerm_custom _ _ _).1] at loop
      exact loop

theorem decode_keys (gps : TinyGPSPlus) (input : BitVec 32 × UInt8) :
    (decode gps input).1.customElts.map key = gps.customElts.map key := by
  obtain ⟨millis, c⟩ := input
  by_cases ends : Terminator c
  · rw [decode_terminator ends]
    dsimp only
    rw [TinyGPSPlus.closeTerm]
    split
    · rw [handler_keys]
      exact congrArg (fun readings => readings.customElts.map key) (separate_kept c _).1
    · exact congrArg (fun readings => readings.customElts.map key) (separate_kept c _).1
  · by_cases begins : c = dollar
    · rw [begins, decode_dollar]
      rfl
    · rw [decode_ordinary (ordinary_of_not ends begins)]
      exact congrArg (List.map key) (congrArg Readings.customElts (store_kept c _).1)

/-- However a program registers custom elements between the bytes, the list stays sorted. -/
theorem use_sorted (uses : List Use) : Sorted (Machine.run use .initial uses).1.customElts := by
  refine Machine.run_invariant (fun gps : TinyGPSPlus => Sorted gps.customElts) ?_ uses
    (fun _ _ => trivial) .initial List.Pairwise.nil
  intro gps action _ sorted
  cases action with
  | encode millis c => exact sorted_of_keys sorted (decode_keys gps (millis, c))
  | begin sentenceName termNumber => exact insertCustom_sorted sorted _

/-- What a valid sentence makes of a custom element: one of another sentence does not change, and
    one of this sentence is committed, with the text of its term or, when the sentence has no such
    term, with the text that was staged for it before. -/
structure Publishes (name : List UInt8) (terms : List (List UInt8)) (millis : BitVec 32)
    (p after : TinyGPSCustom) : Prop where
  key : key after = key p
  aside : p.sentenceName ≠ clip name → after = p
  published : p.sentenceName = clip name → ∀ (position : Nat) term,
    terms[position]? = some term → p.termNumber = position + 1 →
      after.item.committed = (true, true, millis, clip term)
  unread : p.sentenceName = clip name →
    (∀ position < terms.length, p.termNumber ≠ position + 1) →
      after.item.committed = (true, true, millis, p.item.newval)

/-- Every custom element of a valid sentence is committed with its own term, or with what was
    staged for it when the sentence lacks the term, and no other element changes, whatever was
    registered and read before. -/
theorem custom_published (uses : List Use) {name : List UInt8} {terms : List (List UInt8)}
    {high low : UInt8} {inputs : List (BitVec 32 × UInt8)} {millis : BitVec 32}
    (short : terms.length ≤ 255) (plain : ∀ term ∈ name :: terms, ∀ c ∈ term, Ordinary c)
    (plainHigh : Ordinary high) (plainLow : Ordinary low)
    (valid : UInt8.ofInt (16 * fromHex high + fromHex low) = parityOf (body (name :: terms)))
    (text : (inputs ++ [(millis, return')]).map Prod.snd = sentence (name :: terms) high low) :
    let gps := (Machine.run use .initial uses).1
    List.Forall₂ (Publishes name terms millis) gps.customElts
      (Machine.run decode gps (inputs ++ [(millis, return')])).1.customElts := by
  intro gps
  obtain ⟨_, final⟩ := run_sentence gps (by simp) plain plainHigh plainLow text
  have lists := @custom_lists name terms
    { gps.toReadings with curSentenceType := .other, sentenceHasFix := false } (use_sorted uses) short
  rw [final, validate_custom lists millis valid, List.map_map]
  refine List.forall₂_map_right_iff.mpr (List.forall₂_same.mpr fun p _ => ?_)
  obtain ⟨named, number⟩ := stages_keeps (clip name) 1 terms p
  dsimp only [Function.comp_apply]
  rw [named]
  by_cases same : p.sentenceName = clip name
  · rw [if_pos same]
    refine ⟨Prod.ext named number, fun other => absurd same other, ?_, ?_⟩
    · intro _ position term present place
      have read := @stages_term _ p 1 position terms term same present (by push_cast; omega)
      exact congrArg (fun text => (true, true, millis, text)) read
    · intro _ missing
      have kept : stages (clip name) 1 terms p = p := stages_apart fun index inside => by
        have apart := missing index inside
        push_cast
        omega
      rw [kept]
      rfl
  · rw [if_neg same]
    refine ⟨Prod.ext named number, fun other => stages_other other 1 terms, ?_, ?_⟩
    · exact fun listed => absurd listed same
    · exact fun listed => absurd listed same

theorem custom_published_status :
    ∃ p q, (Machine.run decode (Machine.run use .initial [.begin gprmcTerm 2, .begin gprmcTerm 9]).1
        ((dollar :: (body [gprmcTerm, [], [86]] ++ [star, 49, 68])).map (fun c => (5, c)) ++
          [(5, return')])).1.customElts = [p, q] ∧ p.item.committed = (true, true, 5, [86]) ∧
      q.item.committed = (true, true, 5, []) := by
  have pair := @custom_published [.begin gprmcTerm 2, .begin gprmcTerm 9] gprmcTerm [[], [86]] 49 68
    ((dollar :: (body [gprmcTerm, [], [86]] ++ [star, 49, 68])).map fun c => (5, c)) 5 (by decide)
    (ordinary_of_all (by decide)) (by decide) (by decide) (by decide) rfl
  have registered : (Machine.run use .initial [.begin gprmcTerm 2, .begin gprmcTerm 9]).1.customElts =
      [.begin gprmcTerm 2, .begin gprmcTerm 9] := rfl
  dsimp only at pair
  rw [registered] at pair
  obtain ⟨p, others, status, later, listed⟩ := List.forall₂_cons_left_iff.mp pair
  obtain ⟨q, none, ninth, nothing, rfl⟩ := List.forall₂_cons_left_iff.mp later
  cases nothing
  exact ⟨p, q, listed, status.published rfl 1 [86] rfl rfl, ninth.unread rfl (by decide)⟩

end Uses

end Safety

end RockYou.GPS

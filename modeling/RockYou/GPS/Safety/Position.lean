import Mathlib
import RockYou.GPS.Safety.Publication

namespace RockYou.GPS

/-- The values that the terms of a sentence have set. -/
structure Draft where
  hasFix : Bool
  location : Location
  date : BitVec 32
  time : BitVec 32
  speed : BitVec 32
  course : BitVec 32

def Readings.draft (readings : Readings) : Draft where
  hasFix := readings.sentenceHasFix
  location := readings.location.newval
  date := readings.date.newval
  time := readings.time.newval
  speed := readings.speed.newval
  course := readings.course.newval

def Field.write (term : List UInt8) (draft : Draft) : Field → Draft
  | .time => { draft with time := parseDecimal term }
  | .validity => { draft with hasFix := term.head? = some 65 }
  | .latitude => { draft with location.rawLat := parseDegrees term }
  | .northSouth => { draft with location.rawLat.negative := term.head? = some 83 }
  | .longitude => { draft with location.rawLng := parseDegrees term }
  | .eastWest => { draft with location.rawLng.negative := term.head? = some 87 }
  | .speed => { draft with speed := parseDecimal term }
  | .course => { draft with course := parseDecimal term }
  | .date => { draft with date := BitVec.ofInt 32 (atol term) }
  | .fixData => { draft with hasFix := 48 < term.headD 0 }
  | .satellites | .hdop | .altitude => draft

def Draft.read (sentenceType : SentenceType) (termNumber : Nat) (term : List UInt8)
    (draft : Draft) : Draft :=
  if term = [] then draft
  else ((fields.lookup (combine sentenceType termNumber)).map (Field.write term draft)).getD draft

def Draft.terms (sentenceType : SentenceType) : Nat → List (List UInt8) → Draft → Draft :=
  forTerms (Draft.read sentenceType)

theorem Draft.terms_cons (sentenceType : SentenceType) (termNumber : Nat) (term : List UInt8)
    (terms : List (List UInt8)) (draft : Draft) :
    draft.terms sentenceType termNumber (term :: terms) =
      (draft.read sentenceType termNumber (clip term)).terms sentenceType (termNumber + 1) terms := rfl

namespace Safety

structure Carries (sentenceType : SentenceType) (draft : Draft) (readings : Readings) : Prop where
  sentenceType : readings.curSentenceType = sentenceType
  draft : readings.draft = draft

section Terms

variable {sentenceType : SentenceType} {draft : Draft} {readings : Readings}

theorem Carries.setField (carries : Carries sentenceType draft readings) (term : List UInt8)
    (field : Field) : Carries sentenceType (field.write term draft) (readings.setField term field) := by
  obtain ⟨same, rfl⟩ := carries
  cases field <;> exact ⟨same, rfl⟩

theorem Carries.readTerm (carries : Carries sentenceType draft readings)
    (known : sentenceType ≠ .other) (termNumber : Nat) (term : List UInt8) :
    Carries sentenceType (draft.read sentenceType termNumber term)
      (readings.readTerm termNumber term) := by
  have switched : Carries sentenceType (draft.read sentenceType termNumber term)
      (readings.switchTerm termNumber term) := by
    rw [Readings.switchTerm, Draft.read, carries.sentenceType]
    by_cases none : term = []
    · rw [if_pos none, if_neg fun both => both.2 none]
      exact carries
    · rw [if_neg none, if_pos ⟨known, none⟩]
      cases fields.lookup (combine sentenceType termNumber) with
      | none => exact carries
      | some field => exact carries.setField term field
  exact ⟨switched.sentenceType, switched.draft⟩

theorem Carries.behind {terms : List (List UInt8)} (carries : Carries sentenceType draft readings)
    (known : sentenceType ≠ .other) (short : terms.length ≤ 31) :
    Carries sentenceType (draft.terms sentenceType 1 terms) (readings.terms 1 terms) := by
  have one : (1 : UInt8).toNat = 1 := rfl
  exact @terms_related _ _ (fun draft readings => Carries sentenceType draft readings)
    (fun termNumber term _ _ before => before.readTerm known termNumber term) terms 1 _ _ carries
    (by decide) (by omega)

theorem terms_view {V : Type} (view : Draft → V) (quiet : Field → Bool) (first : Nat)
    (kept : ∀ field, quiet field → ∀ term draft, view (Field.write term draft field) = view draft)
    (listed : ∀ number < 32, first ≤ number →
      (fields.lookup (combine sentenceType number)).all quiet = true)
    {terms : List (List UInt8)} {termNumber : Nat} (late : first ≤ termNumber)
    (short : termNumber + terms.length ≤ 32) (draft : Draft) :
    view (draft.terms sentenceType termNumber terms) = view draft := by
  induction terms generalizing draft termNumber with
  | nil => rfl
  | cons term terms ih =>
    rw [List.length_cons] at short
    have read : view (draft.read sentenceType termNumber (clip term)) = view draft := by
      have all := listed termNumber (by omega) late
      rw [Draft.read]
      split
      · rfl
      · cases found : fields.lookup (combine sentenceType termNumber) with
        | none => rfl
        | some field =>
          rw [found] at all
          exact kept field all _ draft
    rw [Draft.terms_cons, ih (by omega) (by omega), read]

/-- The fields that a sentence reads without touching its position and its fix. -/
def aside : Field → Bool
  | .validity | .latitude | .northSouth | .longitude | .eastWest | .fixData => false
  | _ => true

theorem write_aside (field : Field) (silent : aside field) (term : List UInt8) (draft : Draft) :
    ((field.write term draft).hasFix, (field.write term draft).location) =
      (draft.hasFix, draft.location) := by
  cases field with
  | validity | latitude | northSouth | longitude | eastWest | fixData =>
    exact absurd silent (by decide)
  | _ => rfl

theorem terms_location {terms : List (List UInt8)} (short : 7 + terms.length ≤ 32)
    (draft : Draft) :
    (draft.terms sentenceType 7 terms).hasFix = draft.hasFix ∧
      (draft.terms sentenceType 7 terms).location = draft.location :=
  Prod.ext_iff.mp (terms_view (fun draft => (draft.hasFix, draft.location)) aside 7 write_aside
    (by cases sentenceType <;> decide) (le_refl 7) short draft)

theorem read_listed {field : Field} {termNumber : Nat} {term : List UInt8} (some : term ≠ [])
    (listed : fields.lookup (combine sentenceType termNumber) = Option.some field) (draft : Draft) :
    draft.read sentenceType termNumber term = field.write term draft := by
  rw [Draft.read, if_neg some, listed]
  rfl

end Terms

/-- Sentences that report a position with a fix. -/
inductive Reports : List (List UInt8) → List UInt8 → List UInt8 → List UInt8 → List UInt8 → Prop
  | rmc {name time status lat northSouth lng eastWest : List UInt8} {rest : List (List UInt8)}
      (named : clip name = gprmcTerm ∨ clip name = gnrmcTerm) (fixed : (clip status).head? = some 65) :
      Reports (name :: time :: status :: lat :: northSouth :: lng :: eastWest :: rest)
        lat northSouth lng eastWest
  | gga {name time lat northSouth lng eastWest quality : List UInt8} {rest : List (List UInt8)}
      (named : clip name = gpggaTerm ∨ clip name = gnggaTerm) (fixed : 48 < (clip quality).headD 0) :
      Reports (name :: time :: lat :: northSouth :: lng :: eastWest :: quality :: rest)
        lat northSouth lng eastWest

def positionOf (lat northSouth lng eastWest : List UInt8) : Location where
  rawLat := { parseDegrees (clip lat) with negative := (clip northSouth).head? = some 83 }
  rawLng := { parseDegrees (clip lng) with negative := (clip eastWest).head? = some 87 }

section Reports

variable {terms : List (List UInt8)} {lat northSouth lng eastWest : List UInt8}

theorem Reports.carries (reports : Reports terms lat northSouth lng eastWest)
    (short : terms.length ≤ 32) (latitude : clip lat ≠ []) (hemisphere : clip northSouth ≠ [])
    (longitude : clip lng ≠ []) (side : clip eastWest ≠ []) (readings : Readings) :
    ∃ sentenceType draft, sentenceType ≠ .other ∧ draft.hasFix = true ∧
      draft.location = positionOf lat northSouth lng eastWest ∧
      Carries sentenceType draft (readings.terms 0 terms) := by
  cases reports with
  | @rmc name time status _ _ _ _ rest named fixed =>
    simp only [List.length_cons] at short
    have begun : Carries .gprmc readings.draft (readings.nameSentence (clip name)) :=
      ⟨if_pos named, rfl⟩
    have some : clip status ≠ [] := by
      intro none
      rw [none] at fixed
      exact absurd fixed (by decide)
    have length : (time :: status :: lat :: northSouth :: lng :: eastWest :: rest).length ≤ 31 := by
      simp only [List.length_cons]
      omega
    have read := begun.behind (by decide) length
    have second := @read_listed .gprmc .validity 2 _ some rfl
    have third := @read_listed .gprmc .latitude 3 _ latitude rfl
    have fourth := @read_listed .gprmc .northSouth 4 _ hemisphere rfl
    have fifth := @read_listed .gprmc .longitude 5 _ longitude rfl
    have sixth := @read_listed .gprmc .eastWest 6 _ side rfl
    simp only [Draft.terms_cons, Nat.reduceAdd, second, third, fourth, fifth, sixth] at read
    obtain ⟨fix, place⟩ := @terms_location .gprmc rest (by omega) _
    refine ⟨.gprmc, _, by decide, fix.trans ?_, place.trans rfl, read⟩
    exact decide_eq_true fixed
  | @gga name time _ _ _ _ quality rest named fixed =>
    simp only [List.length_cons] at short
    have other : ¬ (clip name = gprmcTerm ∨ clip name = gnrmcTerm) := by
      rcases named with same | same <;> rw [same] <;> decide
    have begun : Carries .gpgga readings.draft (readings.nameSentence (clip name)) :=
      ⟨(if_neg other).trans (if_pos named), rfl⟩
    have some : clip quality ≠ [] := by
      intro none
      rw [none] at fixed
      exact absurd fixed (by decide)
    have length : (time :: lat :: northSouth :: lng :: eastWest :: quality :: rest).length ≤ 31 := by
      simp only [List.length_cons]
      omega
    have read := begun.behind (by decide) length
    have second := @read_listed .gpgga .latitude 2 _ latitude rfl
    have third := @read_listed .gpgga .northSouth 3 _ hemisphere rfl
    have fourth := @read_listed .gpgga .longitude 4 _ longitude rfl
    have fifth := @read_listed .gpgga .eastWest 5 _ side rfl
    have sixth := @read_listed .gpgga .fixData 6 _ some rfl
    simp only [Draft.terms_cons, Nat.reduceAdd, second, third, fourth, fifth, sixth] at read
    obtain ⟨fix, place⟩ := @terms_location .gpgga rest (by omega) _
    refine ⟨.gpgga, _, by decide, fix.trans ?_, place.trans rfl, read⟩
    exact decide_eq_true fixed

theorem commitItems_location {sentenceType : SentenceType} {draft : Draft} {readings : Readings}
    (known : sentenceType ≠ .other) (fix : draft.hasFix = true)
    (carries : Carries sentenceType draft readings) (millis : BitVec 32) :
    (readings.commitItems millis).location.committed = (true, true, millis, draft.location) := by
  obtain ⟨same, rfl⟩ := carries
  have fixed : readings.sentenceHasFix = true := fix
  rw [Readings.commitItems, same]
  cases sentenceType with
  | gprmc =>
    dsimp only
    rw [if_pos fixed]
    rfl
  | gpgga =>
    dsimp only
    rw [if_pos fixed]
    rfl
  | other => exact absurd rfl known

theorem validate_location {sentenceType : SentenceType} {draft : Draft} {readings : Readings}
    (known : sentenceType ≠ .other) (fix : draft.hasFix = true)
    (carries : Carries sentenceType draft readings) (millis : BitVec 32) {checksum parity : UInt8}
    (same : checksum = parity) :
    (readings.validate millis checksum parity).2.location.committed =
      (true, true, millis, draft.location) := by
  have counted : Carries sentenceType draft readings.countPassed :=
    ⟨carries.sentenceType, carries.draft⟩
  rw [Readings.validate, if_pos same]
  exact commitItems_location known fix counted millis

/-- A valid sentence with a fix publishes the position of its own terms, whatever was read
    before. -/
theorem reported_position (gps : TinyGPSPlus) (reports : Reports terms lat northSouth lng eastWest)
    {high low : UInt8} {inputs : List (BitVec 32 × UInt8)} {millis : BitVec 32}
    (short : terms.length ≤ 32) (plain : ∀ term ∈ terms, ∀ c ∈ term, Ordinary c)
    (latitude : clip lat ≠ []) (hemisphere : clip northSouth ≠ []) (longitude : clip lng ≠ [])
    (side : clip eastWest ≠ []) (plainHigh : Ordinary high) (plainLow : Ordinary low)
    (valid : UInt8.ofInt (16 * fromHex high + fromHex low) = parityOf (body terms))
    (text : (inputs ++ [(millis, return')]).map Prod.snd = sentence terms high low) :
    (Machine.run decode gps (inputs ++ [(millis, return')])).2 =
        List.replicate inputs.length false ++ [true] ∧
      (Machine.run decode gps (inputs ++ [(millis, return')])).1.location.committed =
        (true, true, millis, positionOf lat northSouth lng eastWest) := by
  have some : terms ≠ [] := by
    rintro rfl
    cases reports
  obtain ⟨answers, final⟩ := run_sentence gps some plain plainHigh plainLow text
  obtain ⟨sentenceType, draft, known, fix, place, carries⟩ :=
    reports.carries short latitude hemisphere longitude side
      { gps.toReadings with curSentenceType := .other, sentenceHasFix := false }
  rw [decide_eq_true valid] at answers
  refine ⟨answers, ?_⟩
  rw [final, ← place]
  exact validate_location known fix carries millis valid

def southern : List (List UInt8) :=
  [gpggaTerm, [], [51, 51, 48, 48], [83], [49, 53, 49, 51, 48], [69], [49]]

theorem southern_ordinary : ∀ term ∈ southern, ∀ c ∈ term, Ordinary c :=
  ordinary_of_all (by decide)

theorem reported_position_south :
    (Machine.run decode .initial ((dollar :: (body southern ++ [star, 52, 55])).map (fun c => (7, c)) ++
      [(7, return')])).1.location.committed =
        (true, true, 7, ⟨⟨33, 0, true⟩, ⟨151, 500000000, false⟩⟩) :=
  (reported_position .initial (Reports.gga (.inl rfl) (by decide)) (by decide) southern_ordinary
    (by decide) (by decide) (by decide) (by decide) (by decide) (by decide) (by decide) rfl).2

end Reports

end Safety

end RockYou.GPS

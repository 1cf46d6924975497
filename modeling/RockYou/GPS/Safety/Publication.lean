import RockYou.GPS.Safety.Validity

namespace RockYou.GPS

variable {V : Type}

def Item.committed (item : Item V) : Bool × Bool × BitVec 32 × V :=
  (item.valid, item.updated, item.lastCommitTime, item.val)

structure Published where
  location : Bool × Bool × BitVec 32 × Location
  date : Bool × Bool × BitVec 32 × BitVec 32
  time : Bool × Bool × BitVec 32 × BitVec 32
  speed : Bool × Bool × BitVec 32 × BitVec 32
  course : Bool × Bool × BitVec 32 × BitVec 32
  altitude : Bool × Bool × BitVec 32 × BitVec 32
  satellites : Bool × Bool × BitVec 32 × BitVec 32
  hdop : Bool × Bool × BitVec 32 × BitVec 32
  customs : List (List UInt8 × Int × Bool × Bool × BitVec 32 × List UInt8)

def TinyGPSCustom.published (p : TinyGPSCustom) :
    List UInt8 × Int × Bool × Bool × BitVec 32 × List UInt8 :=
  (p.sentenceName, p.termNumber, p.item.committed)

def Readings.published (readings : Readings) : Published where
  location := readings.location.committed
  date := readings.date.committed
  time := readings.time.committed
  speed := readings.speed.committed
  course := readings.course.committed
  altitude := readings.altitude.committed
  satellites := readings.satellites.committed
  hdop := readings.hdop.committed
  customs := readings.customElts.map TinyGPSCustom.published

namespace Safety

section Handler

variable {α β : Type}

theorem updateWhile_map {go : α → Bool} {update : α → α} {view : α → β}
    (hidden : ∀ p, view (update p) = view p) (list : List α) :
    (updateWhile go update list).map view = list.map view := by
  induction list with
  | nil => rfl
  | cons p next ih =>
    rw [updateWhile]
    split
    · rw [List.map_cons, hidden, ih, List.map_cons]
    · rfl

theorem forCandidates_map {go : TinyGPSCustom → Bool} {update : TinyGPSCustom → TinyGPSCustom}
    {view : TinyGPSCustom → β} (hidden : ∀ p, view (update p) = view p) (readings : Readings) :
    (readings.forCandidates go update).map view = readings.customElts.map view := by
  rw [Readings.forCandidates]
  split
  · rfl
  · rw [List.map_append, updateWhile_map hidden, ← List.map_append, List.take_append_drop]

theorem setField_published (term : List UInt8) (readings : Readings) (field : Field) :
    (readings.setField term field).published = readings.published := by
  cases field <;> rfl

theorem customElts_published {readings : Readings} {customElts : List TinyGPSCustom}
    (same : customElts.map TinyGPSCustom.published =
      readings.customElts.map TinyGPSCustom.published) :
    { readings with customElts := customElts }.published = readings.published := by
  rw [Readings.published, Readings.published, same]

theorem readTerm_published (termNumber : Nat) (term : List UInt8) (readings : Readings) :
    (readings.readTerm termNumber term).published = readings.published := by
  have hidden (p : TinyGPSCustom) :
      (Readings.setCustom term termNumber p).published = p.published := by
    rw [Readings.setCustom]
    split <;> rfl
  have switched : (readings.switchTerm termNumber term).published = readings.published := by
    rw [Readings.switchTerm]
    split
    · split
      · exact setField_published term readings _
      · rfl
    · rfl
  rw [← switched]
  exact customElts_published (forCandidates_map hidden _)

theorem readTerm_passed (termNumber : Nat) (term : List UInt8) (readings : Readings) :
    (readings.readTerm termNumber term).passedChecksumCount = readings.passedChecksumCount := by
  have switched : (readings.switchTerm termNumber term).passedChecksumCount =
      readings.passedChecksumCount := by
    rw [Readings.switchTerm]
    split
    · split
      · next field _ => cases field <;> rfl
      · rfl
    · rfl
  exact switched

theorem commitItems_passed (millis : BitVec 32) (readings : Readings) :
    (readings.commitItems millis).passedChecksumCount = readings.passedChecksumCount := by
  rw [Readings.commitItems]
  split
  · dsimp only
    split <;> rfl
  · dsimp only
    split <;> rfl
  · rfl

theorem validate_passed (millis : BitVec 32) (checksum parity : UInt8) (readings : Readings) :
    (readings.validate millis checksum parity).2.passedChecksumCount =
      readings.passedChecksumCount +
        if (readings.validate millis checksum parity).1 then 1 else 0 := by
  rw [Readings.validate]
  split
  · exact commitItems_passed millis _
  · exact (BitVec.add_zero _).symm

theorem validate_published (millis : BitVec 32) {checksum parity : UInt8} {readings : Readings}
    (invalid : (readings.validate millis checksum parity).1 = false) :
    (readings.validate millis checksum parity).2.published = readings.published := by
  rw [Readings.validate] at invalid ⊢
  split
  · next same =>
    rw [if_pos same] at invalid
    exact absurd invalid (by simp)
  · rfl

end Handler

section Stream

theorem closeTerm_published (millis : BitVec 32) {gps : TinyGPSPlus}
    (invalid : (gps.closeTerm millis).1 = false) :
    (gps.closeTerm millis).2.published = gps.published := by
  rw [TinyGPSPlus.closeTerm] at invalid ⊢
  split
  · next inside =>
    rw [dif_pos inside, TinyGPSPlus.endOfTermHandler] at invalid
    rw [TinyGPSPlus.endOfTermHandler]
    dsimp only at invalid ⊢
    split
    · next checksum =>
      rw [if_pos checksum] at invalid
      exact validate_published millis invalid
    · split
      · rfl
      · exact readTerm_published ..
  · rfl

theorem decode_published {gps : TinyGPSPlus} {input : BitVec 32 × UInt8}
    (silent : (decode gps input).2 = [false]) :
    (decode gps input).1.published = gps.published := by
  obtain ⟨millis, c⟩ := input
  by_cases ends : Terminator c
  · rw [decode_terminator ends] at silent ⊢
    have invalid := List.head_eq_of_cons_eq silent
    exact (closeTerm_published millis invalid).trans
      (congrArg Readings.published (separate_kept c _).1)
  · by_cases begins : c = dollar
    · subst begins
      rfl
    · rw [decode_ordinary (ordinary_of_not ends begins)]
      exact congrArg Readings.published (store_kept c _).1

/-- Values change only with a valid sentence, whatever bytes arrive. -/
theorem run_published {gps : TinyGPSPlus} {inputs : List (BitVec 32 × UInt8)}
    (silent : true ∉ (Machine.run decode gps inputs).2) :
    (Machine.run decode gps inputs).1.published = gps.published := by
  induction inputs generalizing gps with
  | nil => rfl
  | cons input inputs ih =>
    rw [Machine.run_cons, List.mem_append, not_or] at silent
    have answered : (decode gps input).2 = [false] := by
      have answer : (decode gps input).2 = [(gps.encode input.1 input.2).1] := rfl
      rw [answer] at silent ⊢
      simpa using silent.1
    rw [Machine.run_cons]
    exact (ih silent.2).trans (decode_published answered)

set_option maxRecDepth 4000 in
theorem moored_location :
    moored.published.location =
      (true, true, 7, ⟨⟨37, 508333333, false⟩, ⟨127, 33333333, false⟩⟩) := by
  rfl

theorem run_published_unsigned :
    (Machine.run decode moored ((sentence mooring 48 48).map fun c => (9, c))).1.published =
        moored.published ∧
      moored.published.location =
        (true, true, 7, ⟨⟨37, 508333333, false⟩, ⟨127, 33333333, false⟩⟩) :=
  ⟨run_published (by decide +kernel), moored_location⟩

theorem closeTerm_passed (millis : BitVec 32) (gps : TinyGPSPlus) :
    (gps.closeTerm millis).2.passedChecksumCount = gps.passedChecksumCount +
        (if (gps.closeTerm millis).1 then 1 else 0) ∧
      (gps.closeTerm millis).2.encodedCharCount = gps.encodedCharCount := by
  have quiet (count : BitVec 32) : count = count + if false = true then 1 else 0 :=
    (BitVec.add_zero count).symm
  rw [TinyGPSPlus.closeTerm]
  split
  · rw [TinyGPSPlus.endOfTermHandler]
    dsimp only
    split
    · exact ⟨validate_passed .., rfl⟩
    · split
      · exact ⟨quiet _, rfl⟩
      · exact ⟨(readTerm_passed ..).trans (quiet _), rfl⟩
  · exact ⟨quiet _, rfl⟩

theorem decode_statistics (gps : TinyGPSPlus) (input : BitVec 32 × UInt8) :
    (decode gps input).1.encodedCharCount = gps.encodedCharCount + 1 ∧
      (decode gps input).1.passedChecksumCount =
        gps.passedChecksumCount + BitVec.ofNat 32 ((decode gps input).2.count true) := by
  obtain ⟨millis, c⟩ := input
  by_cases ends : Terminator c
  · have separated := separate_kept c { gps with encodedCharCount := gps.encodedCharCount + 1 }
    obtain ⟨passed, count⟩ := closeTerm_passed millis
      ({ gps with encodedCharCount := gps.encodedCharCount + 1 }.separate c)
    rw [decode_terminator ends]
    refine ⟨count.trans separated.2, passed.trans ?_⟩
    rw [separated.1]
    dsimp only
    generalize (TinyGPSPlus.closeTerm _ _).1 = answer
    cases answer <;> rfl
  · by_cases begins : c = dollar
    · subst begins
      exact ⟨rfl, (BitVec.add_zero _).symm⟩
    · have counted : ({ gps with encodedCharCount := gps.encodedCharCount + 1 }.store c).encodedCharCount =
          gps.encodedCharCount + 1 := by
        rw [TinyGPSPlus.store]
        split <;> rfl
      rw [decode_ordinary (ordinary_of_not ends begins)]
      refine ⟨counted, ?_⟩
      rw [(store_kept c _).1]
      exact (BitVec.add_zero _).symm

/-- The statistics of the decoder count the bytes and the valid sentences. -/
theorem run_statistics (gps : TinyGPSPlus) (inputs : List (BitVec 32 × UInt8)) :
    (Machine.run decode gps inputs).1.encodedCharCount =
        gps.encodedCharCount + BitVec.ofNat 32 inputs.length ∧
      (Machine.run decode gps inputs).1.passedChecksumCount =
        gps.passedChecksumCount +
          BitVec.ofNat 32 ((Machine.run decode gps inputs).2.count true) := by
  induction inputs generalizing gps with
  | nil => exact ⟨(BitVec.add_zero _).symm, (BitVec.add_zero _).symm⟩
  | cons input inputs ih =>
    obtain ⟨read, passed⟩ := decode_statistics gps input
    obtain ⟨later, total⟩ := ih (decode gps input).1
    rw [Machine.run_cons]
    refine ⟨later.trans ?_, total.trans ?_⟩
    · rw [read, List.length_cons, BitVec.add_assoc, Nat.add_comm, BitVec.ofNat_add]
      rfl
    · rw [passed, List.count_append, BitVec.add_assoc, BitVec.ofNat_add]

end Stream

/-- A sentence in which one byte of the body was replaced on its way is rejected: no byte of it
    completes a valid sentence, and every value stays as it was. -/
theorem replaced_rejected (gps : TinyGPSPlus) {front back : List UInt8}
    {sent received high low : UInt8} {inputs : List (BitVec 32 × UInt8)}
    (plain : ∀ c ∈ front ++ received :: back, Ordinary c ∨ c = comma) (plainHigh : Ordinary high)
    (plainLow : Ordinary low)
    (valid : UInt8.ofInt (16 * fromHex high + fromHex low) = parityOf (front ++ sent :: back))
    (replaced : received ≠ sent)
    (text : inputs.map Prod.snd =
      dollar :: (front ++ received :: back ++ [star, high, low, return'])) :
    (Machine.run decode gps inputs).2 = List.replicate inputs.length false ∧
      (Machine.run decode gps inputs).1.published = gps.published := by
  obtain ⟨terms, some, same, ordinary⟩ := exists_body _ plain
  have shape : inputs.map Prod.snd =
      (dollar :: (body terms ++ [star, high, low])) ++ return' :: [] := by
    rw [text, same]
    simp
  obtain ⟨before, millis, rest, rfl, first, last⟩ := inputs_split shape
  obtain rfl := List.map_eq_nil_iff.mp last
  have framed : (before ++ [(millis, return')]).map Prod.snd = sentence terms high low := by
    rw [List.map_append, first]
    simp [sentence]
  have differ : UInt8.ofInt (16 * fromHex high + fromHex low) ≠ parityOf (body terms) := by
    rw [valid, same]
    intro equal
    exact replaced ((Checksum.total_replace (· ^^^ ·)
      (fun start left right => (UInt8.xor_right_inj start).mp) front back).mp equal).symm
  obtain ⟨answers, _⟩ := run_sentence gps some ordinary plainHigh plainLow framed
  rw [decide_eq_false differ] at answers
  have silent : (Machine.run decode gps (before ++ [(millis, return')])).2 =
      List.replicate (before ++ [(millis, return')]).length false := by
    rw [answers, List.length_append, List.length_singleton, List.replicate_succ']
  refine ⟨silent, run_published ?_⟩
  rw [silent]
  intro member
  exact absurd (List.eq_of_mem_replicate member) (by decide)

/-- `GPRMC,,A,3830.5,N,12702,E`, sent as `mooring`. -/
def drifted : List UInt8 :=
  [71, 80, 82, 77, 67, 44, 44, 65, 44, 51] ++
    56 :: [51, 48, 46, 53, 44, 78, 44, 49, 50, 55, 48, 50, 44, 69]

theorem replaced_rejected_digit :
    let inputs := (dollar :: (drifted ++ [star, 50, 66, return'])).map fun c => ((9 : BitVec 32), c)
    (Machine.run decode moored inputs).2 = List.replicate 30 false ∧
      (Machine.run decode moored inputs).1.published = moored.published ∧
      moored.published.location =
        (true, true, 7, ⟨⟨37, 508333333, false⟩, ⟨127, 33333333, false⟩⟩) := by
  intro inputs
  have plain : ∀ c ∈ drifted, Ordinary c ∨ c = comma := by decide +kernel
  obtain ⟨answers, kept⟩ := @replaced_rejected moored _ _ 55 56 50 66 inputs plain (by decide)
    (by decide) (by decide) (by decide) rfl
  exact ⟨answers, kept, moored_location⟩

end Safety

end RockYou.GPS

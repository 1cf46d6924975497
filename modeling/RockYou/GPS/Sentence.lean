import RockYou.GPS.TinyGPSPlus
import RockYou.Library.Checksum
import RockYou.Library.Machine

namespace RockYou.GPS

/-- A byte read at a time, and whether it completes a valid sentence. -/
def decode (gps : TinyGPSPlus) (input : BitVec 32 × UInt8) : TinyGPSPlus × List Bool :=
  let (isValidSentence, gps) := gps.encode input.1 input.2
  (gps, [isValidSentence])

/-- Neither a terminator of a term nor the begin of a sentence. -/
def Ordinary (c : UInt8) : Prop :=
  c ≠ comma ∧ c ≠ return' ∧ c ≠ newline ∧ c ≠ star ∧ c ≠ dollar

instance (c : UInt8) : Decidable (Ordinary c) := inferInstanceAs (Decidable (_ ∧ _))

theorem ordinary_of_all {terms : List (List UInt8)}
    (all : (terms.all fun term => term.all fun c => Ordinary c) = true) :
    ∀ term ∈ terms, ∀ c ∈ term, Ordinary c := by
  intro term member c inside
  exact of_decide_eq_true (List.all_eq_true.mp (List.all_eq_true.mp all term member) c inside)

/-- What the handler sees of a term. -/
def clip (term : List UInt8) : List UInt8 := (term.take 14).takeWhile (· ≠ 0)

def parityOf (bytes : List UInt8) : UInt8 := Checksum.total (· ^^^ ·) 0 bytes

section Parity

theorem parityOf_append (left right : List UInt8) :
    parityOf (left ++ right) = parityOf left ^^^ parityOf right :=
  Checksum.total_append (· ^^^ ·) left right

theorem parityOf_cons (c : UInt8) (bytes : List UInt8) :
    parityOf (c :: bytes) = c ^^^ parityOf bytes :=
  Checksum.total_cons (· ^^^ ·) c bytes

end Parity

/-- The decoder inside a term of which it has read these bytes. -/
structure Reading (written : List UInt8) (gps : TinyGPSPlus) : Prop where
  offset : gps.curTermOffset = min written.length 14
  stored : gps.term.toList.take gps.curTermOffset = written.take 14

namespace Reading

variable {written : List UInt8} {gps : TinyGPSPlus}

theorem nil (start : gps.curTermOffset = 0) : Reading [] gps where
  offset := by simp [start]
  stored := by simp [start]

theorem store (reading : Reading written gps) (c : UInt8) :
    Reading (written ++ [c]) (gps.store c) := by
  obtain ⟨offset, stored⟩ := reading
  by_cases inside : gps.curTermOffset < 14
  · have short : written.length < 14 := by omega
    have all : written.take 14 = written := List.take_of_length_le (by omega)
    have exactly : gps.curTermOffset = written.length := by omega
    rw [TinyGPSPlus.store, dif_pos inside]
    refine ⟨?_, ?_⟩
    · simp only [List.length_append, List.length_singleton]
      omega
    · have more : (written ++ [c]).take 14 = written ++ [c] := by
        apply List.take_of_length_le
        rw [List.length_append, List.length_singleton]
        omega
      have room : gps.curTermOffset < gps.term.toList.length := by
        rw [Vector.length_toList]
        omega
      rw [more, Vector.toList_set, List.take_add_one, List.getElem?_set_self room,
        List.take_set_of_le (Nat.le_refl _), stored, all]
      rfl
  · have long : 14 ≤ written.length := by omega
    rw [TinyGPSPlus.store, dif_neg inside]
    refine ⟨?_, ?_⟩
    · simp only [List.length_append, List.length_singleton]
      omega
    · rw [List.take_append_of_le_length long]
      exact stored

theorem terminated (reading : Reading written gps) (inside : gps.curTermOffset < 15) :
    cString (gps.term.set gps.curTermOffset 0) = clip written := by
  have room : gps.curTermOffset < gps.term.toList.length := by
    rw [Vector.length_toList]
    exact inside
  have split : (gps.term.set gps.curTermOffset 0).toList =
      written.take 14 ++ 0 :: gps.term.toList.drop (gps.curTermOffset + 1) := by
    rw [Vector.toList_set, List.set_eq_take_append_cons_drop, if_pos room, reading.stored]
  have ended : (written.take 14 ++ 0 :: gps.term.toList.drop (gps.curTermOffset + 1)).takeWhile
      (· ≠ 0) = (written.take 14).takeWhile (· ≠ 0) := by
    rw [List.takeWhile_append]
    split
    · next whole =>
      rw [List.takeWhile_cons_of_neg (by simp), List.append_nil]
      exact ((List.takeWhile_prefix _).eq_of_length whole).symm
    · rfl
  rw [cString, split, ended, clip]

theorem pair {high low : UInt8} {more : List UInt8} (reading : Reading (high :: low :: more) gps)
    (inside : gps.curTermOffset < 15) :
    (gps.term.set gps.curTermOffset 0)[0] = high ∧
      (gps.term.set gps.curTermOffset 0)[1] = low := by
  have offset : 2 ≤ gps.curTermOffset := by
    rw [reading.offset, List.length_cons, List.length_cons]
    omega
  have stored : gps.term.toList.take gps.curTermOffset = high :: low :: more.take 12 :=
    reading.stored
  have first : gps.term[0] = high := by
    have read := congrArg (·[0]?) stored
    rw [List.getElem?_take_of_lt (by omega)] at read
    simpa using read
  have second : gps.term[1] = low := by
    have read := congrArg (·[1]?) stored
    rw [List.getElem?_take_of_lt (by omega)] at read
    simpa using read
  refine ⟨?_, ?_⟩
  · rw [Vector.getElem_set_ne (h := by omega), first]
  · rw [Vector.getElem_set_ne (h := by omega), second]

theorem offset_lt (reading : Reading written gps) : gps.curTermOffset < 15 := by
  have offset := reading.offset
  omega

end Reading

def Terminator (c : UInt8) : Prop := c = comma ∨ c = return' ∨ c = newline ∨ c = star

instance (c : UInt8) : Decidable (Terminator c) := inferInstanceAs (Decidable (_ ∨ _))

section Bytes

theorem decode_dollar (millis : BitVec 32) (gps : TinyGPSPlus) :
    decode gps (millis, dollar) =
      ({ gps with encodedCharCount := gps.encodedCharCount + 1 }.beginSentence, [false]) := rfl

theorem decode_ordinary {c : UInt8} (plain : Ordinary c) (millis : BitVec 32) (gps : TinyGPSPlus) :
    decode gps (millis, c) =
      ({ gps with encodedCharCount := gps.encodedCharCount + 1 }.store c, [false]) := by
  obtain ⟨separates, ends, breaks, stars, begins⟩ := plain
  simp only [decode, TinyGPSPlus.encode, separates, ends, breaks, stars, begins, or_self, if_false]

theorem store_kept (c : UInt8) (gps : TinyGPSPlus) :
    (gps.store c).toReadings = gps.toReadings ∧
      (gps.store c).parity = (if gps.isChecksumTerm then gps.parity else gps.parity ^^^ c) ∧
      (gps.store c).isChecksumTerm = gps.isChecksumTerm ∧
      (gps.store c).curTermNumber = gps.curTermNumber := by
  rw [TinyGPSPlus.store]
  split <;> exact ⟨rfl, rfl, rfl, rfl⟩

theorem separate_kept (c : UInt8) (gps : TinyGPSPlus) :
    (gps.separate c).toReadings = gps.toReadings ∧
      (gps.separate c).encodedCharCount = gps.encodedCharCount := by
  rw [TinyGPSPlus.separate]
  split <;> exact ⟨rfl, rfl⟩

theorem decode_terminator {c : UInt8} (ends : Terminator c) (millis : BitVec 32)
    (gps : TinyGPSPlus) :
    decode gps (millis, c) =
      let counted := { gps with encodedCharCount := gps.encodedCharCount + 1 }
      let closed := (counted.separate c).closeTerm millis
      ({ closed.2 with
        curTermNumber := closed.2.curTermNumber + 1
        curTermOffset := 0
        isChecksumTerm := c = star }, [closed.1]) := by
  have encoded : gps.encode millis c =
      { gps with encodedCharCount := gps.encodedCharCount + 1 }.endOfTerm millis c := if_pos ends
  rw [decode, encoded]
  rfl

end Bytes

def Readings.term (termNumber : UInt8) (term : List UInt8) (readings : Readings) : Readings :=
  if termNumber = 0 then readings.nameSentence term else readings.readTerm termNumber.toNat term

structure Within (termNumber : UInt8) (isChecksumTerm : Bool) (parity : UInt8)
    (readings : Readings) (written : List UInt8) (gps : TinyGPSPlus) : Prop where
  readings : gps.toReadings = readings
  parity : gps.parity = parity
  isChecksumTerm : gps.isChecksumTerm = isChecksumTerm
  termNumber : gps.curTermNumber = termNumber
  reading : Reading written gps

namespace Within

variable {termNumber : UInt8} {isChecksumTerm : Bool} {parity : UInt8} {readings : Readings}
  {written : List UInt8} {gps : TinyGPSPlus}

theorem counted (within : Within termNumber isChecksumTerm parity readings written gps) :
    Within termNumber isChecksumTerm parity readings written
      { gps with encodedCharCount := gps.encodedCharCount + 1 } where
  readings := within.readings
  parity := within.parity
  isChecksumTerm := within.isChecksumTerm
  termNumber := within.termNumber
  reading := ⟨within.reading.offset, within.reading.stored⟩

theorem begin (millis : BitVec 32) (gps : TinyGPSPlus) :
    (decode gps (millis, dollar)).2 = [false] ∧
      Within 0 false 0
        { gps.toReadings with curSentenceType := .other, sentenceHasFix := false } []
        (decode gps (millis, dollar)).1 := by
  rw [decode_dollar]
  exact ⟨rfl, rfl, rfl, rfl, rfl, Reading.nil rfl⟩

theorem store (within : Within termNumber isChecksumTerm parity readings written gps) (c : UInt8) :
    Within termNumber isChecksumTerm (if isChecksumTerm then parity else parity ^^^ c) readings
      (written ++ [c]) (gps.store c) := by
  obtain ⟨same, total, checksum, number⟩ := store_kept c gps
  refine ⟨same.trans within.readings, ?_, checksum.trans within.isChecksumTerm,
    number.trans within.termNumber, within.reading.store c⟩
  rw [total, within.isChecksumTerm, within.parity]

theorem ordinary (within : Within termNumber isChecksumTerm parity readings written gps)
    (millis : BitVec 32) {c : UInt8} (plain : Ordinary c) :
    (decode gps (millis, c)).2 = [false] ∧
      Within termNumber isChecksumTerm (if isChecksumTerm then parity else parity ^^^ c) readings
        (written ++ [c]) (decode gps (millis, c)).1 := by
  rw [decode_ordinary plain]
  exact ⟨rfl, within.counted.store c⟩

theorem ordinaries {inputs : List (BitVec 32 × UInt8)}
    (within : Within termNumber isChecksumTerm parity readings written gps)
    (plain : ∀ input ∈ inputs, Ordinary input.2) :
    (Machine.run decode gps inputs).2 = List.replicate inputs.length false ∧
      Within termNumber isChecksumTerm
        (if isChecksumTerm then parity else parity ^^^ parityOf (inputs.map Prod.snd)) readings
        (written ++ inputs.map Prod.snd) (Machine.run decode gps inputs).1 := by
  induction inputs generalizing gps written parity with
  | nil =>
    have none : parityOf [] = 0 := rfl
    simpa [none] using within
  | cons input inputs ih =>
    obtain ⟨first, moved⟩ := within.ordinary input.1 (plain input (by simp))
    obtain ⟨rest, final⟩ := ih moved fun other member => plain other (by simp [member])
    rw [Machine.run_cons]
    refine ⟨?_, ?_⟩
    · rw [first, rest]
      rfl
    · have total : (if isChecksumTerm = true then
            if isChecksumTerm = true then parity else parity ^^^ input.2
          else (if isChecksumTerm = true then parity else parity ^^^ input.2) ^^^
            parityOf (inputs.map Prod.snd)) =
          if isChecksumTerm = true then parity
          else parity ^^^ parityOf ((input :: inputs).map Prod.snd) := by
        cases isChecksumTerm with
        | true => rfl
        | false =>
          simp only [Bool.false_eq_true, if_false, List.map_cons, parityOf_cons, UInt8.xor_assoc]
      rw [total, List.append_assoc] at final
      exact final

theorem separate (within : Within termNumber isChecksumTerm parity readings written gps)
    (c : UInt8) :
    Within termNumber isChecksumTerm (if c = comma then parity ^^^ c else parity) readings written
      (gps.separate c) := by
  rw [TinyGPSPlus.separate]
  by_cases separates : c = comma
  · rw [if_pos separates, if_pos separates]
    exact ⟨within.readings, congrArg (· ^^^ c) within.parity, within.isChecksumTerm,
      within.termNumber, within.reading.offset, within.reading.stored⟩
  · rw [if_neg separates, if_neg separates]
    exact within

theorem closeTerm (within : Within termNumber false parity readings written gps)
    (millis : BitVec 32) :
    (gps.closeTerm millis).1 = false ∧
      (gps.closeTerm millis).2.toReadings = readings.term termNumber (clip written) ∧
      (gps.closeTerm millis).2.parity = parity ∧
      (gps.closeTerm millis).2.curTermNumber = termNumber := by
  have text := within.reading.terminated within.reading.offset_lt
  rw [TinyGPSPlus.closeTerm, dif_pos within.reading.offset_lt, TinyGPSPlus.endOfTermHandler]
  dsimp only
  rw [text, within.isChecksumTerm, within.termNumber, within.readings, Readings.term,
    if_neg Bool.false_ne_true]
  by_cases first : termNumber = 0
  · rw [if_pos first, if_pos first]
    exact ⟨rfl, rfl, within.parity, rfl⟩
  · rw [if_neg first, if_neg first]
    exact ⟨rfl, rfl, within.parity, rfl⟩

theorem closeChecksum {high low : UInt8} {more : List UInt8}
    (within : Within termNumber true parity readings (high :: low :: more) gps)
    (millis : BitVec 32) :
    let checksum := UInt8.ofInt (16 * fromHex high + fromHex low)
    (gps.closeTerm millis).1 = decide (checksum = parity) ∧
      (gps.closeTerm millis).2.toReadings = (readings.validate millis checksum parity).2 ∧
      (gps.closeTerm millis).2.parity = parity ∧
      (gps.closeTerm millis).2.curTermNumber = termNumber := by
  obtain ⟨first, second⟩ := within.reading.pair within.reading.offset_lt
  rw [TinyGPSPlus.closeTerm, dif_pos within.reading.offset_lt, TinyGPSPlus.endOfTermHandler]
  dsimp only
  rw [within.isChecksumTerm, if_pos rfl, first, second, within.parity, within.readings]
  refine ⟨?_, rfl, rfl, within.termNumber⟩
  rw [Readings.validate]
  split
  · next same => exact (decide_eq_true same).symm
  · next differ => exact (decide_eq_false differ).symm

theorem endOfTerm (within : Within termNumber false parity readings written gps)
    (millis : BitVec 32) {c : UInt8} (ends : Terminator c) :
    (decode gps (millis, c)).2 = [false] ∧
      Within (termNumber + 1) (c = star) (if c = comma then parity ^^^ c else parity)
        (readings.term termNumber (clip written)) [] (decode gps (millis, c)).1 := by
  obtain ⟨answer, after, total, number⟩ := (within.counted.separate c).closeTerm millis
  rw [decode_terminator ends]
  exact ⟨congrArg (fun valid => [valid]) answer, after, total, rfl, congrArg (· + 1) number,
    Reading.nil rfl⟩

/-- The end of a checksum term, of which only the first two characters count. -/
theorem endOfChecksum {high low : UInt8} {more : List UInt8}
    (within : Within termNumber true parity readings (high :: low :: more) gps)
    (millis : BitVec 32) {c : UInt8} (ends : Terminator c) :
    let checksum := UInt8.ofInt (16 * fromHex high + fromHex low)
    let total := if c = comma then parity ^^^ c else parity
    (decode gps (millis, c)).2 = [decide (checksum = total)] ∧
      Within (termNumber + 1) (c = star) total (readings.validate millis checksum total).2 []
        (decode gps (millis, c)).1 := by
  obtain ⟨answer, after, total, number⟩ := (within.counted.separate c).closeChecksum millis
  rw [decode_terminator ends]
  exact ⟨congrArg (fun valid => [valid]) answer, after, total, rfl, congrArg (· + 1) number,
    Reading.nil rfl⟩

end Within

def Readings.terms : UInt8 → List (List UInt8) → Readings → Readings
  | _, [], readings => readings
  | termNumber, term :: terms, readings =>
    (readings.term termNumber (clip term)).terms (termNumber + 1) terms

def forTerms {V : Type} (read : Nat → List UInt8 → V → V) : Nat → List (List UInt8) → V → V
  | _, [], value => value
  | termNumber, term :: terms, value =>
    forTerms read (termNumber + 1) terms (read termNumber (clip term) value)

theorem terms_related {V : Type} {read : Nat → List UInt8 → V → V} (related : V → Readings → Prop)
    (step : ∀ termNumber term value readings, related value readings →
      related (read termNumber term value) (readings.readTerm termNumber term))
    {terms : List (List UInt8)} {termNumber : UInt8} {value : V} {readings : Readings}
    (before : related value readings) (behind : 0 < termNumber.toNat)
    (short : termNumber.toNat + terms.length ≤ 256) :
    related (forTerms read termNumber.toNat terms value) (readings.terms termNumber terms) := by
  induction terms generalizing readings value termNumber with
  | nil => exact before
  | cons term terms ih =>
    rw [List.length_cons] at short
    have later : termNumber ≠ 0 := by
      rintro rfl
      exact absurd behind (by decide)
    have after := step termNumber.toNat (clip term) value readings before
    rw [Readings.terms, Readings.term, if_neg later, forTerms]
    by_cases last : terms = []
    · subst last
      exact after
    · have more := List.length_pos_iff.mpr last
      have next : (termNumber + 1).toNat = termNumber.toNat + 1 := by
        have one : (1 : UInt8).toNat = 1 := rfl
        rw [UInt8.toNat_add]
        omega
      rw [← next]
      exact ih after (by omega) (by omega)

def body (terms : List (List UInt8)) : List UInt8 := List.intercalate [comma] terms

theorem body_cons {term : List UInt8} {terms : List (List UInt8)} (more : terms ≠ []) :
    body (term :: terms) = term ++ comma :: body terms := by
  rw [body, List.intercalate_cons_of_ne_nil more, List.append_assoc]
  rfl

theorem exists_body (bytes : List UInt8) (plain : ∀ c ∈ bytes, Ordinary c ∨ c = comma) :
    ∃ terms, terms ≠ [] ∧ body terms = bytes ∧ ∀ term ∈ terms, ∀ c ∈ term, Ordinary c := by
  induction bytes with
  | nil => exact ⟨[[]], by simp, rfl, by simp⟩
  | cons c bytes ih =>
    obtain ⟨terms, some, same, ordinary⟩ := ih fun other member => plain other (by simp [member])
    obtain ⟨term, others, rfl⟩ := List.exists_cons_of_ne_nil some
    rcases plain c (by simp) with single | rfl
    · refine ⟨(c :: term) :: others, by simp, ?_, ?_⟩
      · rw [← same]
        by_cases last : others = []
        · subst last
          simp [body]
        · rw [body_cons last, body_cons last, List.cons_append]
      · intro first member d inside
        rcases List.mem_cons.mp member with rfl | later
        · rcases List.mem_cons.mp inside with rfl | rest
          · exact single
          · exact ordinary term (by simp) d rest
        · exact ordinary first (by simp [later]) d inside
    · refine ⟨[] :: term :: others, by simp, ?_, ?_⟩
      · rw [body_cons (by simp), same, List.nil_append]
      · intro first member d inside
        rcases List.mem_cons.mp member with rfl | later
        · exact absurd inside List.not_mem_nil
        · exact ordinary first later d inside

section Sentences

variable {gps : TinyGPSPlus} {readings : Readings} {termNumber parity : UInt8}

theorem inputs_split {inputs : List (BitVec 32 × UInt8)} {front back : List UInt8} {c : UInt8}
    (text : inputs.map Prod.snd = front ++ c :: back) :
    ∃ first millis rest, inputs = first ++ (millis, c) :: rest ∧ first.map Prod.snd = front ∧
      rest.map Prod.snd = back := by
  obtain ⟨first, later, rfl, same, tail⟩ := List.map_eq_append_iff.mp text
  obtain ⟨input, rest, rfl, rfl, ends⟩ := List.map_eq_cons_iff.mp tail
  exact ⟨first, input.1, rest, rfl, same, ends⟩

theorem run_term {term : List UInt8} {inputs : List (BitVec 32 × UInt8)} {millis : BitVec 32}
    {c : UInt8} (within : Within termNumber false parity readings [] gps)
    (text : inputs.map Prod.snd = term) (plain : ∀ c ∈ term, Ordinary c) (ends : Terminator c) :
    (Machine.run decode gps (inputs ++ [(millis, c)])).2 =
        List.replicate (inputs.length + 1) false ∧
      Within (termNumber + 1) (c = star)
        (if c = comma then parity ^^^ parityOf term ^^^ c else parity ^^^ parityOf term)
        (readings.term termNumber (clip term)) []
        (Machine.run decode gps (inputs ++ [(millis, c)])).1 := by
  subst text
  have each : ∀ input ∈ inputs, Ordinary input.2 :=
    fun input member => plain _ (List.mem_map_of_mem member)
  obtain ⟨answers, read⟩ := within.ordinaries each
  obtain ⟨answer, final⟩ := read.endOfTerm millis ends
  rw [Machine.run_append, Machine.run_singleton]
  refine ⟨?_, final⟩
  rw [answers, answer, List.replicate_succ']

theorem run_body {terms : List (List UInt8)} {inputs : List (BitVec 32 × UInt8)}
    (within : Within termNumber false parity readings [] gps) (some : terms ≠ [])
    (text : inputs.map Prod.snd = body terms ++ [star])
    (plain : ∀ term ∈ terms, ∀ c ∈ term, Ordinary c) :
    (Machine.run decode gps inputs).2 = List.replicate inputs.length false ∧
      Within (termNumber + UInt8.ofNat terms.length) true (parity ^^^ parityOf (body terms))
        (readings.terms termNumber terms) [] (Machine.run decode gps inputs).1 := by
  induction terms generalizing gps readings termNumber parity inputs with
  | nil => exact absurd rfl some
  | cons term terms ih =>
    have plainTerm := plain term (by simp)
    by_cases last : terms = []
    · subst last
      have single : body [term] = term := List.intercalate_singleton
      rw [single] at text ⊢
      obtain ⟨first, millis, rest, rfl, same, none⟩ := inputs_split text
      obtain rfl := List.map_eq_nil_iff.mp none
      have starred : Terminator star := by simp [Terminator]
      have run := @run_term _ _ _ _ _ _ millis _ within same plainTerm starred
      rw [List.length_append, List.length_singleton]
      exact run
    · rw [body_cons last] at text ⊢
      rw [List.append_assoc, List.cons_append] at text
      obtain ⟨first, millis, rest, rfl, same, tail⟩ := inputs_split text
      have separated : Terminator comma := by simp [Terminator]
      obtain ⟨answers, read⟩ := @run_term _ _ _ _ _ _ millis _ within same plainTerm separated
      rw [if_pos rfl] at read
      obtain ⟨later, final⟩ :=
        ih read last tail fun other member => plain other (List.mem_cons_of_mem _ member)
      rw [← List.singleton_append, ← List.append_assoc, Machine.run_append]
      refine ⟨?_, ?_⟩
      · rw [answers, later, List.replicate_append_replicate, List.length_append,
          List.length_append, List.length_singleton]
      · have number : termNumber + 1 + UInt8.ofNat terms.length =
            termNumber + UInt8.ofNat (term :: terms).length := by
          rw [List.length_cons, UInt8.add_assoc, UInt8.add_comm 1, UInt8.ofNat_add]
          rfl
        have total : parity ^^^ parityOf term ^^^ comma ^^^ parityOf (body terms) =
            parity ^^^ parityOf (term ++ comma :: body terms) := by
          rw [parityOf_append, parityOf_cons, UInt8.xor_assoc, UInt8.xor_assoc]
        rw [number, total] at final
        exact final

def sentence (terms : List (List UInt8)) (high low : UInt8) : List UInt8 :=
  dollar :: (body terms ++ [star, high, low, return'])

/-- A sentence is read as its terms, whatever the decoder read before; it is valid exactly when
    its checksum is the parity of its body, and then its values are committed. -/
theorem run_sentence (gps : TinyGPSPlus) {terms : List (List UInt8)} {high low : UInt8}
    {inputs : List (BitVec 32 × UInt8)} {millis : BitVec 32} (some : terms ≠ [])
    (plain : ∀ term ∈ terms, ∀ c ∈ term, Ordinary c) (plainHigh : Ordinary high)
    (plainLow : Ordinary low)
    (text : (inputs ++ [(millis, return')]).map Prod.snd = sentence terms high low) :
    let checksum := UInt8.ofInt (16 * fromHex high + fromHex low)
    let unread := { gps.toReadings with curSentenceType := .other, sentenceHasFix := false }
    (Machine.run decode gps (inputs ++ [(millis, return')])).2 =
        List.replicate inputs.length false ++ [decide (checksum = parityOf (body terms))] ∧
      (Machine.run decode gps (inputs ++ [(millis, return')])).1.toReadings =
        ((unread.terms 0 terms).validate millis checksum (parityOf (body terms))).2 := by
  intro checksum unread
  have whole : inputs.map Prod.snd = dollar :: (body terms ++ [star, high, low]) := by
    have split : sentence terms high low =
        (dollar :: (body terms ++ [star, high, low])) ++ [return'] := by
      simp [sentence]
    rw [split, List.map_append, List.map_singleton] at text
    exact List.append_cancel_right text
  obtain ⟨⟨time, c⟩, rest, rfl, first, tail⟩ := List.map_eq_cons_iff.mp whole
  obtain rfl : c = dollar := first
  have halves : body terms ++ [star, high, low] = (body terms ++ [star]) ++ [high, low] := by
    rw [List.append_assoc]
    rfl
  rw [halves] at tail
  obtain ⟨before, digits, rfl, named, hex⟩ := List.map_eq_append_iff.mp tail
  obtain ⟨started, begun⟩ := Within.begin time gps
  obtain ⟨answers, read⟩ := run_body begun some named plain
  have plainDigits : ∀ input ∈ digits, Ordinary input.2 := by
    intro input member
    have code : input.2 ∈ [high, low] := hex ▸ List.mem_map_of_mem member
    rcases List.mem_pair.mp code with same | same
    · rwa [same]
    · rwa [same]
  obtain ⟨silent, stored⟩ := read.ordinaries plainDigits
  rw [if_pos rfl, hex, List.nil_append, UInt8.zero_xor] at stored
  obtain ⟨answer, final⟩ :=
    stored.endOfChecksum millis (c := return') (by simp [Terminator])
  have apart : return' ≠ comma := by decide
  rw [if_neg apart] at answer final
  have runs : Machine.run decode gps ((time, dollar) :: (before ++ digits) ++ [(millis, return')]) =
      Machine.run decode gps ((time, dollar) :: (before ++ (digits ++ [(millis, return')]))) := by simp
  rw [runs, Machine.run_cons, Machine.run_append, Machine.run_append, Machine.run_singleton]
  refine ⟨?_, final.readings⟩
  dsimp only
  rw [started, answers, silent, answer]
  rw [List.length_cons, List.replicate_succ, List.length_append, ← List.replicate_append_replicate]
  simp only [List.cons_append, List.nil_append, List.append_assoc, checksum]

end Sentences

end RockYou.GPS

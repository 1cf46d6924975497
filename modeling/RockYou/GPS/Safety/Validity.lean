import RockYou.GPS.Sentence

namespace RockYou.GPS.Safety

/-- The bytes of a sentence that enter its parity: all but the checksum terms and the terminators
    other than commas. -/
def covered (isChecksumTerm : Bool) : List UInt8 → List UInt8
  | [] => []
  | c :: rest =>
    if c = comma then c :: covered false rest
    else if Terminator c then covered (c = star) rest
    else if isChecksumTerm then covered isChecksumTerm rest
    else c :: covered isChecksumTerm rest

def checksumAfter (isChecksumTerm : Bool) : List UInt8 → Bool
  | [] => isChecksumTerm
  | c :: rest => checksumAfter (if Terminator c then c = star else isChecksumTerm) rest

structure Tracks (isChecksumTerm : Bool) (parity : UInt8) (gps : TinyGPSPlus) : Prop where
  isChecksumTerm : gps.isChecksumTerm = isChecksumTerm
  parity : gps.parity = parity

section Tracks

variable {isChecksumTerm : Bool} {parity : UInt8} {gps : TinyGPSPlus}

theorem handler_parity (millis : BitVec 32) (gps : TinyGPSPlus) :
    (gps.closeTerm millis).2.parity = gps.parity := by
  rw [TinyGPSPlus.closeTerm]
  split
  · rw [TinyGPSPlus.endOfTermHandler]
    dsimp only
    split
    · rfl
    · split <;> rfl
  · rfl

theorem Tracks.terminator (tracks : Tracks isChecksumTerm parity gps) (millis : BitVec 32)
    {c : UInt8} (ends : Terminator c) :
    Tracks (c = star) (if c = comma then parity ^^^ c else parity)
      (decode gps (millis, c)).1 := by
  rw [decode_terminator ends]
  refine ⟨rfl, ?_⟩
  dsimp only
  rw [handler_parity, TinyGPSPlus.separate]
  by_cases separates : c = comma
  · rw [if_pos separates, if_pos separates, ← tracks.parity]
  · rw [if_neg separates, if_neg separates, ← tracks.parity]

theorem ordinary_of_not {c : UInt8} (goes : ¬ Terminator c) (inside : c ≠ dollar) : Ordinary c := by
  simp only [Terminator, not_or] at goes
  exact ⟨goes.1, goes.2.1, goes.2.2.1, goes.2.2.2, inside⟩

theorem Tracks.ordinary (tracks : Tracks isChecksumTerm parity gps) (millis : BitVec 32)
    {c : UInt8} (plain : Ordinary c) :
    Tracks isChecksumTerm (if isChecksumTerm then parity else parity ^^^ c)
      (decode gps (millis, c)).1 := by
  obtain ⟨_, total, flag, _⟩ :=
    store_kept c { gps with encodedCharCount := gps.encodedCharCount + 1 }
  rw [decode_ordinary plain]
  refine ⟨flag.trans tracks.isChecksumTerm, ?_⟩
  rw [total, tracks.isChecksumTerm, tracks.parity]

theorem Tracks.run {inputs : List (BitVec 32 × UInt8)} (tracks : Tracks isChecksumTerm parity gps)
    (inside : ∀ input ∈ inputs, input.2 ≠ dollar) :
    Tracks (checksumAfter isChecksumTerm (inputs.map Prod.snd))
      (parity ^^^ parityOf (covered isChecksumTerm (inputs.map Prod.snd)))
      (Machine.run decode gps inputs).1 := by
  induction inputs generalizing gps isChecksumTerm parity with
  | nil =>
    have none : parityOf (covered isChecksumTerm []) = 0 := rfl
    rw [List.map_nil, none, UInt8.xor_zero]
    exact tracks
  | cons input inputs ih =>
    have others : ∀ other ∈ inputs, other.2 ≠ dollar :=
      fun other member => inside other (by simp [member])
    rw [Machine.run_cons, List.map_cons, covered, checksumAfter]
    by_cases ends : Terminator input.2
    · have rest := ih (tracks.terminator input.1 ends) others
      rw [if_pos ends]
      by_cases separates : input.2 = comma
      · have go : decide (input.2 = star) = false := by rw [separates]; rfl
        rw [if_pos separates, go] at rest
        rw [if_pos separates, go, parityOf_cons, ← UInt8.xor_assoc]
        exact rest
      · rw [if_neg separates] at rest
        rw [if_neg separates, if_pos ends]
        exact rest
    · have plain := ordinary_of_not ends (inside input (by simp))
      have rest := ih (tracks.ordinary input.1 plain) others
      rw [if_neg ends, if_neg plain.1, if_neg ends]
      cases isChecksumTerm with
      | true => exact rest
      | false =>
        simp only [Bool.false_eq_true, if_false] at rest ⊢
        rw [parityOf_cons, ← UInt8.xor_assoc]
        exact rest

end Tracks

theorem covered_append (tail : List UInt8) (isChecksumTerm : Bool) {c : UInt8}
    (ends : Terminator c) :
    covered isChecksumTerm (tail ++ [c]) =
      covered isChecksumTerm tail ++ if c = comma then [c] else [] := by
  induction tail generalizing isChecksumTerm with
  | nil =>
    rw [List.nil_append, covered, covered, List.nil_append, if_pos ends]
    rfl
  | cons first tail ih =>
    rw [List.cons_append, covered, covered]
    split
    · rw [ih, List.cons_append]
    · split
      · rw [ih]
      · split
        · rw [ih]
        · rw [ih, List.cons_append]

/-- Behind a dollar, a checksum term of at least two characters completes a valid sentence exactly
    when these are the parity of what the sentence covers, in every state of the decoder. -/
theorem checksum_answer (gps : TinyGPSPlus) {tail more : List UInt8} {high low c : UInt8}
    {inputs : List (BitVec 32 × UInt8)} {millis : BitVec 32} (inside : dollar ∉ tail)
    (plain : ∀ digit ∈ high :: low :: more, Ordinary digit) (ends : Terminator c)
    (text : inputs.map Prod.snd = dollar :: tail ++ star :: high :: low :: more) :
    (Machine.run decode gps (inputs ++ [(millis, c)])).2.getLast? =
      some (decide (UInt8.ofInt (16 * fromHex high + fromHex low) =
        parityOf (covered false (tail ++ [c])))) := by
  obtain ⟨front, time, digits, rfl, begun, hex⟩ := inputs_split text
  obtain ⟨⟨first, d⟩, body, rfl, same, followed⟩ := List.map_eq_cons_iff.mp begun
  obtain rfl : d = dollar := same
  have start : Tracks false 0 (decode gps (first, dollar)).1 := by
    rw [decode_dollar]
    exact ⟨rfl, rfl⟩
  have within : ∀ input ∈ body, input.2 ≠ dollar := by
    intro input member here
    exact inside (followed ▸ here ▸ List.mem_map_of_mem member)
  have read := start.run within
  rw [followed, UInt8.zero_xor] at read
  have starred := read.terminator time (c := star) (by simp [Terminator])
  have apart : star ≠ comma := by decide
  rw [if_neg apart, decide_eq_true rfl] at starred
  generalize reached : (decode (Machine.run decode (decode gps (first, dollar)).1 body).1
    (time, star)).1 = after at starred
  have empty : after.curTermOffset = 0 := by
    rw [← reached, decode_terminator (by simp [Terminator])]
  have opened : Within after.curTermNumber true (parityOf (covered false tail)) after.toReadings []
      after := ⟨rfl, starred.parity, starred.isChecksumTerm, rfl, Reading.nil empty⟩
  have plainDigits : ∀ input ∈ digits, Ordinary input.2 := by
    intro input member
    exact plain _ (hex ▸ List.mem_map_of_mem member)
  obtain ⟨_, stored⟩ := opened.ordinaries plainDigits
  rw [if_pos rfl, hex, List.nil_append] at stored
  obtain ⟨answer, _⟩ := stored.endOfChecksum millis ends
  have total : parityOf (covered false (tail ++ [c])) =
      if c = comma then parityOf (covered false tail) ^^^ c
      else parityOf (covered false tail) := by
    rw [covered_append tail false ends, parityOf_append]
    split
    · rw [parityOf_cons]
      exact congrArg _ UInt8.xor_zero
    · exact UInt8.xor_zero
  have runs : Machine.run decode gps ((first, dollar) :: body ++ (time, star) :: digits ++
      [(millis, c)]) = Machine.run decode gps ((first, dollar) :: (body ++
        ((time, star) :: (digits ++ [(millis, c)])))) := by simp
  rw [runs, Machine.run_cons, Machine.run_append, Machine.run_cons, Machine.run_append,
    Machine.run_singleton, reached, answer, total]
  simp

/-- `GPRMC,,A,3730.5,N,12702,E` -/
def mooring : List (List UInt8) :=
  [gprmcTerm, [], [65], [51, 55, 51, 48, 46, 53], [78], [49, 50, 55, 48, 50], [69]]

def moored : TinyGPSPlus :=
  (Machine.run decode .initial ((sentence mooring 50 66).map fun c => (7, c))).1

theorem checksum_answer_unsigned :
    (Machine.run decode moored ((dollar :: body mooring ++ [star, 48, 48]).map (fun c => (9, c)) ++
      [(9, return')])).2.getLast? = some false := by
  have digits : ∀ digit ∈ [48, 48], Ordinary digit :=
    List.forall_mem_cons.mpr ⟨by decide, List.forall_mem_singleton.mpr (by decide)⟩
  refine (@checksum_answer moored (body mooring) [] 48 48 return' _ 9 (by decide) digits
    (.inr (.inl rfl)) rfl).trans ?_
  decide

end RockYou.GPS.Safety

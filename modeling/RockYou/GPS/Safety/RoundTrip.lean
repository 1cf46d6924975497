import Mathlib
import RockYou.GPS.Numeral
import RockYou.GPS.Safety.Position

namespace RockYou.GPS.Safety

open Firmware (isDigit)

open Positional (value padded places)

theorem digit_ordinary {c : UInt8} (digit : isDigit c = true) : Ordinary c ∧ c ≠ 0 := by
  have apart {d : UInt8} (other : isDigit d = false) : c ≠ d := by
    rintro rfl
    rw [digit] at other
    exact absurd other (by decide)
  exact ⟨⟨apart rfl, apart rfl, apart rfl, apart rfl, apart rfl⟩, apart rfl⟩

theorem clip_eq {term : List UInt8} (short : term.length ≤ 14) (nonzero : ∀ c ∈ term, c ≠ 0) :
    clip term = term := by
  rw [clip, List.take_of_length_le short]
  exact List.takeWhile_eq_self_iff.mpr fun c member => decide_eq_true (nonzero c member)

section Printed

variable {whole decimals : List Nat}

theorem printed_plain (decimal : Decimal whole) (decimalToo : Decimal decimals) :
    ∀ c ∈ ascii whole ++ fraction decimals, Ordinary c ∧ c ≠ 0 := by
  intro c member
  rw [fraction] at member
  rcases List.mem_append.mp member with front | back
  · exact digit_ordinary (isDigit_ascii decimal c front)
  · split at back
    · exact absurd back List.not_mem_nil
    · rcases List.mem_cons.mp back with rfl | digits
      · decide
      · exact digit_ordinary (isDigit_ascii decimalToo c digits)

theorem printed_clip (decimal : Decimal whole) (decimalToo : Decimal decimals)
    (short : whole.length + decimals.length ≤ 13) :
    clip (ascii whole ++ fraction decimals) = ascii whole ++ fraction decimals := by
  have length : (ascii whole ++ fraction decimals).length ≤ 14 := by
    rw [List.length_append, ascii, List.length_map, fraction]
    split
    · rw [List.length_nil]
      omega
    · rw [List.length_cons, ascii, List.length_map]
      omega
  exact clip_eq length fun c member => (printed_plain decimal decimalToo c member).2

theorem printed_ne_nil (some : whole ≠ []) : ascii whole ++ fraction decimals ≠ [] := by
  intro none
  exact some (List.map_eq_nil_iff.mp (List.append_eq_nil_iff.mp none).1)

end Printed

/-- An angle as a receiver prints it, with so many digits for its degrees. -/
structure Angle (width : Nat) where
  degrees : Nat
  minutes : Nat
  decimals : List Nat
  negative : Bool
  degrees_lt : degrees < 10 ^ width
  minutes_lt : minutes < 60
  decimal : Decimal decimals
  few : decimals.length ≤ 7

namespace Angle

variable {width : Nat} (angle : Angle width)

def whole : List Nat := padded 10 width angle.degrees ++ padded 10 2 angle.minutes

def text : List UInt8 := ascii angle.whole ++ fraction angle.decimals

def part : ℚ := (angle.minutes + value 10 angle.decimals / 10 ^ angle.decimals.length) / 60

/-- The raw reading of the angle, exact but for a third of a billionth of a degree. -/
structure Read (raw : RawDegrees) : Prop where
  deg : raw.deg.toNat = angle.degrees
  negative : raw.negative = angle.negative
  billionths : |(raw.billionths.toNat : ℚ) / 10 ^ 9 - angle.part| ≤ 1 / (3 * 10 ^ 9)

theorem whole_decimal : Decimal angle.whole := by
  intro digit member
  rcases List.mem_append.mp member with front | back
  · exact Positional.padded_lt (by decide) front
  · exact Positional.padded_lt (by decide) back

theorem whole_ne_nil : angle.whole ≠ [] := by
  intro none
  have length := congrArg List.length none
  rw [whole, List.length_append, Positional.padded_length, Positional.padded_length] at length
  exact absurd length (by simp)

theorem value_whole : value 10 angle.whole = angle.degrees * 100 + angle.minutes := by
  have minutes : angle.minutes < 10 ^ 2 := angle.minutes_lt.trans (by decide)
  rw [whole, Positional.value_append, Positional.value_padded angle.degrees_lt,
    Positional.value_padded minutes, Positional.padded_length]
  rfl

def tenMillionths : Nat := angle.minutes * 10000000 + value 10 (places 7 angle.decimals)

theorem tenMillionths_lt : angle.tenMillionths < 600000000 := by
  have small : value 10 (places 7 angle.decimals) < 10 ^ (places 7 angle.decimals).length :=
    Positional.value_lt fun digit => Positional.places_lt (by decide) angle.decimal
  have minutes := angle.minutes_lt
  rw [Positional.places_length] at small
  rw [tenMillionths]
  omega

theorem part_eq : angle.part = angle.tenMillionths / (60 * 10 ^ 7) := by
  have scaled : (value 10 (places 7 angle.decimals) : ℚ) =
      value 10 angle.decimals * 10 ^ (7 - angle.decimals.length) := by
    rw [Positional.value_places angle.few]
    push_cast
    rfl
  have split : (10 : ℚ) ^ 7 = 10 ^ (7 - angle.decimals.length) * 10 ^ angle.decimals.length := by
    rw [← pow_add, Nat.sub_add_cancel angle.few]
  have positive : (10 : ℚ) ^ angle.decimals.length ≠ 0 := by positivity
  have cancel : (10 : ℚ) ^ 7 / 10 ^ angle.decimals.length = 10 ^ (7 - angle.decimals.length) := by
    rw [split, mul_div_cancel_right₀ _ positive]
  rw [part, tenMillionths]
  push_cast
  rw [scaled, ← cancel]
  field_simp
  ring

theorem parseDegrees_text (narrow : width ≤ 3) :
    parseDegrees angle.text =
      { deg := BitVec.ofNat 16 angle.degrees
        billionths := (5 * BitVec.ofNat 32 angle.tenMillionths + 1) / 3
        negative := false } := by
  have fits : angle.degrees < 1000 :=
    angle.degrees_lt.trans_le (Nat.pow_le_pow_right (by decide) narrow)
  have minutes := angle.minutes_lt
  have range : value 10 angle.whole < 2147483648 := by
    rw [value_whole]
    omega
  rw [text, parseDegrees_number angle.whole_ne_nil angle.whole_decimal angle.decimal range,
    value_whole, tenMillionths]
  have degrees : (angle.degrees * 100 + angle.minutes) / 100 = angle.degrees := by omega
  have rest : (angle.degrees * 100 + angle.minutes) % 100 = angle.minutes := by omega
  rw [degrees, rest]

theorem billionths_near (narrow : width ≤ 3) :
    |((parseDegrees angle.text).billionths.toNat : ℚ) / 10 ^ 9 - angle.part| ≤
      1 / (3 * 10 ^ 9) := by
  have bound := angle.tenMillionths_lt
  have read : (parseDegrees angle.text).billionths.toNat = (5 * angle.tenMillionths + 1) / 3 := by
    rw [parseDegrees_text angle narrow]
    have five : (5 : BitVec 32) * BitVec.ofNat 32 angle.tenMillionths + 1 =
        BitVec.ofNat 32 (5 * angle.tenMillionths + 1) := by
      rw [BitVec.ofNat_add, BitVec.ofNat_mul]
      rfl
    dsimp only
    rw [five, BitVec.toNat_udiv, BitVec.toNat_ofNat, Nat.mod_eq_of_lt (by omega)]
    rfl
  have lower : 5 * angle.tenMillionths ≤ 3 * ((5 * angle.tenMillionths + 1) / 3) + 1 := by omega
  have upper : 3 * ((5 * angle.tenMillionths + 1) / 3) ≤ 5 * angle.tenMillionths + 1 := by omega
  rw [read, part_eq, abs_le]
  have lowerQ : (5 * angle.tenMillionths : ℚ) ≤
      3 * ((5 * angle.tenMillionths + 1) / 3 : ℕ) + 1 := by exact_mod_cast lower
  have upperQ : (3 * ((5 * angle.tenMillionths + 1) / 3 : ℕ) : ℚ) ≤
      5 * angle.tenMillionths + 1 := by exact_mod_cast upper
  constructor
  · linarith
  · linarith

theorem read_text (narrow : width ≤ 3) :
    angle.Read { parseDegrees angle.text with negative := angle.negative } where
  deg := by
    have fits : angle.degrees < 1000 :=
      angle.degrees_lt.trans_le (Nat.pow_le_pow_right (by decide) narrow)
    rw [parseDegrees_text angle narrow, BitVec.toNat_ofNat, Nat.mod_eq_of_lt (by omega)]
  negative := rfl
  billionths := angle.billionths_near narrow

theorem text_plain : ∀ c ∈ angle.text, Ordinary c ∧ c ≠ 0 :=
  printed_plain angle.whole_decimal angle.decimal

theorem clip_text (narrow : width ≤ 3) : clip angle.text = angle.text := by
  have few := angle.few
  have length : angle.whole.length + angle.decimals.length ≤ 13 := by
    rw [whole, List.length_append, Positional.padded_length, Positional.padded_length]
    omega
  exact printed_clip angle.whole_decimal angle.decimal length

theorem text_ne_nil : angle.text ≠ [] := printed_ne_nil angle.whole_ne_nil

end Angle

def hexDigit (digit : Nat) : UInt8 :=
  if digit < 10 then UInt8.ofNat (48 + digit) else UInt8.ofNat (55 + digit)

theorem hexDigit_ordinary : ∀ digit < 16, Ordinary (hexDigit digit) := by decide

theorem fromHex_hexDigit : ∀ digit < 16, fromHex (hexDigit digit) = digit := by decide

theorem checksum_hexDigits (parity : UInt8) :
    UInt8.ofInt (16 * fromHex (hexDigit (parity.toNat / 16)) +
      fromHex (hexDigit (parity.toNat % 16))) = parity := by
  have bound := parity.toNat_lt
  rw [fromHex_hexDigit _ (by omega), fromHex_hexDigit _ (by omega)]
  have whole : (16 * ((parity.toNat / 16 : ℕ) : ℤ) + ((parity.toNat % 16 : ℕ) : ℤ)) =
      ((parity.toNat : ℕ) : ℤ) := by omega
  have kept : ((parity.toNat : ℤ) % 2 ^ 8).toNat = parity.toNat := by omega
  rw [whole, UInt8.ofInt, kept, UInt8.ofNat_toNat]

def signed (terms : List (List UInt8)) : List UInt8 :=
  sentence terms (hexDigit ((parityOf (body terms)).toNat / 16))
    (hexDigit ((parityOf (body terms)).toNat % 16))

structure Fix where
  lat : Angle 2
  lng : Angle 3

def northSouth (negative : Bool) : UInt8 := if negative then 83 else 78

def eastWest (negative : Bool) : UInt8 := if negative then 87 else 69

def Fix.rmc (fix : Fix) (time : List UInt8) (rest : List (List UInt8)) : List (List UInt8) :=
  gprmcTerm :: time :: [65] :: fix.lat.text :: [northSouth fix.lat.negative] :: fix.lng.text ::
    [eastWest fix.lng.negative] :: rest

theorem side_plain (negative : Bool) :
    Ordinary (northSouth negative) ∧ Ordinary (eastWest negative) ∧
      clip [northSouth negative] = [northSouth negative] ∧
      clip [eastWest negative] = [eastWest negative] := by
  cases negative with
  | true => exact ⟨by decide, by decide, rfl, rfl⟩
  | false => exact ⟨by decide, by decide, rfl, rfl⟩

theorem side_negative (negative : Bool) :
    decide ([northSouth negative].head? = some 83) = negative ∧
      decide ([eastWest negative].head? = some 87) = negative := by
  cases negative with
  | true => exact ⟨rfl, rfl⟩
  | false => exact ⟨rfl, rfl⟩

theorem gprmcTerm_ordinary : ∀ c ∈ gprmcTerm, Ordinary c :=
  @ordinary_of_all [gprmcTerm] (by decide) gprmcTerm (List.mem_singleton_self _)

theorem rmc_ordinary (fix : Fix) {time : List UInt8} {rest : List (List UInt8)}
    (plain : ∀ term ∈ time :: rest, ∀ c ∈ term, Ordinary c) :
    ∀ term ∈ fix.rmc time rest, ∀ c ∈ term, Ordinary c := by
  obtain ⟨plainSouth, _, _, _⟩ := side_plain fix.lat.negative
  obtain ⟨_, plainWest, _, _⟩ := side_plain fix.lng.negative
  intro term member
  simp only [Fix.rmc, List.mem_cons] at member
  rcases member with rfl | rfl | rfl | rfl | rfl | rfl | rfl | later
  · exact gprmcTerm_ordinary
  · exact plain _ (by simp)
  · exact List.forall_mem_singleton.mpr (by decide)
  · exact fun c inside => (fix.lat.text_plain c inside).1
  · exact List.forall_mem_singleton.mpr plainSouth
  · exact fun c inside => (fix.lng.text_plain c inside).1
  · exact List.forall_mem_singleton.mpr plainWest
  · exact plain _ (by simp [later])

theorem positionOf_read (fix : Fix) :
    let location := positionOf fix.lat.text [northSouth fix.lat.negative] fix.lng.text
      [eastWest fix.lng.negative]
    fix.lat.Read location.rawLat ∧ fix.lng.Read location.rawLng := by
  obtain ⟨_, _, hemisphere, _⟩ := side_plain fix.lat.negative
  obtain ⟨_, _, _, side⟩ := side_plain fix.lng.negative
  rw [positionOf, fix.lat.clip_text (by decide), fix.lng.clip_text (by decide), hemisphere, side,
    (side_negative _).1, (side_negative _).2]
  exact ⟨fix.lat.read_text (by decide), fix.lng.read_text (by decide)⟩

/-- What a receiver prints is what the decoder publishes, from every state of the decoder. -/
theorem fix_round_trip (gps : TinyGPSPlus) (fix : Fix) {time : List UInt8}
    {rest : List (List UInt8)} {inputs : List (BitVec 32 × UInt8)} {millis : BitVec 32}
    (short : rest.length ≤ 25) (plain : ∀ term ∈ time :: rest, ∀ c ∈ term, Ordinary c)
    (text : (inputs ++ [(millis, return')]).map Prod.snd = signed (fix.rmc time rest)) :
    (Machine.run decode gps (inputs ++ [(millis, return')])).2 =
        List.replicate inputs.length false ++ [true] ∧
      ∃ location, (Machine.run decode gps (inputs ++ [(millis, return')])).1.location.committed =
          (true, true, millis, location) ∧
        fix.lat.Read location.rawLat ∧ fix.lng.Read location.rawLng := by
  have named : clip gprmcTerm = gprmcTerm := rfl
  have reports : Reports (fix.rmc time rest) fix.lat.text [northSouth fix.lat.negative]
      fix.lng.text [eastWest fix.lng.negative] := Reports.rmc (.inl named) rfl
  obtain ⟨_, _, hemisphere, _⟩ := side_plain fix.lat.negative
  obtain ⟨_, _, _, side⟩ := side_plain fix.lng.negative
  have bound := (parityOf (body (fix.rmc time rest))).toNat_lt
  have count : (fix.rmc time rest).length ≤ 32 := by
    simp only [Fix.rmc, List.length_cons]
    omega
  have latitude : clip fix.lat.text = fix.lat.text := fix.lat.clip_text (by decide)
  have longitude : clip fix.lng.text = fix.lng.text := fix.lng.clip_text (by decide)
  obtain ⟨read, readToo⟩ := positionOf_read fix
  obtain ⟨answers, published⟩ := reported_position gps reports count (rmc_ordinary fix plain)
    (by rw [latitude]; exact fix.lat.text_ne_nil) (by rw [hemisphere]; simp)
    (by rw [longitude]; exact fix.lng.text_ne_nil) (by rw [side]; simp)
    (hexDigit_ordinary _ (by omega)) (hexDigit_ordinary _ (by omega)) (checksum_hexDigits _) text
  exact ⟨answers, _, published, read, readToo⟩

def harbour : Fix where
  lat := ⟨37, 30, [5], false, by decide, by decide, List.forall_mem_singleton.mpr (by decide),
    by decide⟩
  lng := ⟨127, 2, [], false, by decide, by decide, List.forall_mem_nil _, by decide⟩

theorem fix_round_trip_harbour :
    ∃ location, (Machine.run decode .initial
        ((signed (harbour.rmc [] [])).dropLast.map (fun c => (0, c)) ++
          [(0, return')])).1.location.committed = (true, true, 0, location) ∧
      location.rawLat.deg.toNat = 37 ∧ location.rawLng.deg.toNat = 127 := by
  obtain ⟨_, location, published, lat, lng⟩ := @fix_round_trip .initial harbour [] []
    ((signed (harbour.rmc [] [])).dropLast.map fun c => (0, c)) 0 (by decide) (by simp) (by decide)
  exact ⟨location, published, lat.deg, lng.deg⟩

end RockYou.GPS.Safety

import Mathlib
import RockYou.GPS.Term

namespace RockYou.GPS

open Firmware (isDigit digitValue minus)

def ascii (digits : List Nat) : List UInt8 := digits.map fun digit => UInt8.ofNat (48 + digit)

def fraction (decimals : List Nat) : List UInt8 :=
  if decimals = [] then [] else point :: ascii decimals

def Decimal (digits : List Nat) : Prop := ∀ digit ∈ digits, digit < 10

section Digits

variable {digit : Nat} {digits : List Nat} {rest : List UInt8}

theorem toNat_digit (small : digit < 10) : (UInt8.ofNat (48 + digit)).toNat = 48 + digit := by
  rw [UInt8.toNat_ofNat']
  omega

theorem isDigit_iff {c : UInt8} : isDigit c = true ↔ 48 ≤ c.toNat ∧ c.toNat ≤ 57 := by
  rw [isDigit, Bool.and_eq_true, decide_eq_true_eq, decide_eq_true_eq]
  exact Iff.rfl

theorem isDigit_digit (small : digit < 10) : isDigit (UInt8.ofNat (48 + digit)) = true := by
  rw [isDigit_iff, toNat_digit small]
  omega

theorem digitValue_digit (small : digit < 10) : digitValue (UInt8.ofNat (48 + digit)) = digit := by
  rw [digitValue, toNat_digit small]
  omega

theorem isDigit_ascii (decimal : Decimal digits) : ∀ c ∈ ascii digits, isDigit c = true := by
  intro c member
  obtain ⟨digit, present, rfl⟩ := List.mem_map.mp member
  exact isDigit_digit (decimal digit present)

theorem digitValue_ascii (decimal : Decimal digits) : (ascii digits).map digitValue = digits := by
  rw [ascii, List.map_map]
  conv_rhs => rw [← List.map_id digits]
  exact List.map_congr_left fun digit present => digitValue_digit (decimal digit present)

def Stops (rest : List UInt8) : Prop := ∀ c, rest.head? = some c → isDigit c = false

theorem takeWhile_stops (stops : Stops rest) : rest.takeWhile isDigit = [] := by
  cases rest with
  | nil => rfl
  | cons c rest => rw [List.takeWhile_cons_of_neg (by simp [stops c rfl])]

theorem dropWhile_stops (stops : Stops rest) : rest.dropWhile isDigit = rest := by
  cases rest with
  | nil => rfl
  | cons c rest => rw [List.dropWhile_cons_of_neg (by simp [stops c rfl])]

theorem takeWhile_ascii (decimal : Decimal digits) (stops : Stops rest) :
    (ascii digits ++ rest).takeWhile isDigit = ascii digits := by
  rw [List.takeWhile_append_of_pos (isDigit_ascii decimal), takeWhile_stops stops, List.append_nil]

theorem dropWhile_ascii (decimal : Decimal digits) (stops : Stops rest) :
    (ascii digits ++ rest).dropWhile isDigit = rest := by
  rw [List.dropWhile_append_of_pos (isDigit_ascii decimal), dropWhile_stops stops]

theorem leading_ascii (decimal : Decimal digits) (stops : Stops rest) :
    leading (ascii digits ++ rest) = Positional.value 10 digits := by
  rw [leading, takeWhile_ascii decimal stops, digitValue_ascii decimal]

theorem stops_fraction (decimals : List Nat) : Stops (fraction decimals) := by
  intro c first
  rw [fraction] at first
  split at first
  · exact absurd first (by simp)
  · rw [List.head?_cons, Option.some.injEq] at first
    subst first
    decide

theorem digit_plain {c : UInt8} (digit : isDigit c = true) :
    isspace c = false ∧ c ≠ minus ∧ c ≠ plus := by
  obtain ⟨lower, upper⟩ := isDigit_iff.mp digit
  refine ⟨?_, ?_, ?_⟩
  · have blank : isspace c = (decide (c = 32) || (decide (9 ≤ c.toNat) && decide (c.toNat ≤ 13))) :=
      rfl
    have apart : c ≠ 32 := by
      rintro rfl
      exact absurd lower (by decide)
    rw [blank, decide_eq_false apart, decide_eq_false (show ¬ c.toNat ≤ 13 by omega), Bool.and_false,
      Bool.or_false]
  · rintro rfl
    exact absurd lower (by decide)
  · rintro rfl
    exact absurd lower (by decide)

theorem atol_ascii (decimal : Decimal digits) (some : digits ≠ []) (stops : Stops rest)
    (fits : Positional.value 10 digits < 2147483648) :
    atol (ascii digits ++ rest) = Positional.value 10 digits := by
  obtain ⟨first, others, rfl⟩ := List.exists_cons_of_ne_nil some
  obtain ⟨blank, negative, positive⟩ := digit_plain (isDigit_digit (decimal first (by simp)))
  have start : ascii (first :: others) ++ rest =
      UInt8.ofNat (48 + first) :: (ascii others ++ rest) := rfl
  have skipped : (ascii (first :: others) ++ rest).dropWhile isspace =
      ascii (first :: others) ++ rest := by
    rw [start, List.dropWhile_cons_of_neg (by rw [blank]; exact Bool.false_ne_true)]
  have head : (ascii (first :: others) ++ rest).head? = Option.some (UInt8.ofNat (48 + first)) := by
    rw [start, List.head?_cons]
  rw [atol, skipped, head, leading_ascii decimal stops]
  simp only [Option.some.injEq, negative, positive, if_false]
  omega

end Digits

section Fraction

open Positional (value places)

variable {whole decimals : List Nat}

theorem head_number (some : whole ≠ []) (decimal : Decimal whole) (rest : List UInt8) :
    (ascii whole ++ rest).head? ≠ Option.some minus := by
  obtain ⟨first, others, rfl⟩ := List.exists_cons_of_ne_nil some
  have start : (ascii (first :: others) ++ rest).head? = Option.some (UInt8.ofNat (48 + first)) := rfl
  rw [start, ne_eq, Option.some.injEq]
  exact (digit_plain (isDigit_digit (decimal first (by simp)))).2.1

theorem digitOf_digit {digit : Nat} (small : digit < 10) :
    digitOf (UInt8.ofNat (48 + digit)) = BitVec.ofNat 32 digit := by
  rw [digitOf, digitValue_digit small]

theorem ofNat_mul_add (ret scale digit : Nat) :
    BitVec.ofNat 32 ret + BitVec.ofNat 32 scale * BitVec.ofNat 32 digit =
      BitVec.ofNat 32 (ret + digit * scale) := by
  rw [BitVec.ofNat_add, Nat.mul_comm, BitVec.ofNat_mul]

theorem addHundredths_fraction (decimal : Decimal decimals) (ret : Nat) :
    addHundredths (BitVec.ofNat 32 ret) (fraction decimals) =
      BitVec.ofNat 32 (ret + value 10 (places 2 decimals)) := by
  match decimals with
  | [] => rfl
  | [tenth] =>
    have small := decimal tenth (by simp)
    have text : fraction [tenth] = [point, UInt8.ofNat (48 + tenth)] := rfl
    have tenths : BitVec.ofNat 32 ret + 10 * BitVec.ofNat 32 tenth =
        BitVec.ofNat 32 (ret + tenth * 10) := ofNat_mul_add ret 10 tenth
    have read : value 10 (places 2 [tenth]) = tenth * 10 := by
      simp [Positional.places_succ, Positional.places_nil, Positional.value_cons]
    rw [text, addHundredths, if_pos ⟨rfl, isDigit_digit small⟩, digitOf_digit small]
    dsimp only
    rw [tenths, read]
  | tenth :: hundredth :: rest =>
    have small := decimal tenth (by simp)
    have smallToo := decimal hundredth (by simp)
    have text : fraction (tenth :: hundredth :: rest) =
        point :: UInt8.ofNat (48 + tenth) :: UInt8.ofNat (48 + hundredth) :: ascii rest := rfl
    have tenths : BitVec.ofNat 32 ret + 10 * BitVec.ofNat 32 tenth =
        BitVec.ofNat 32 (ret + tenth * 10) := ofNat_mul_add ret 10 tenth
    have read : value 10 (places 2 (tenth :: hundredth :: rest)) = tenth * 10 + hundredth := by
      simp [Positional.places_succ, Positional.value_cons]
    rw [text, addHundredths, if_pos ⟨rfl, isDigit_digit small⟩, digitOf_digit small]
    dsimp only
    rw [if_pos (isDigit_digit smallToo), digitOf_digit smallToo, tenths, read, ← BitVec.ofNat_add,
      Nat.add_assoc]

/-- A number is read in hundredths, its further decimals dropped. -/
theorem parseDecimal_number (some : whole ≠ []) (decimal : Decimal whole)
    (decimalsToo : Decimal decimals) (fits : value 10 whole < 2147483648) :
    parseDecimal (ascii whole ++ fraction decimals) =
      BitVec.ofNat 32 (100 * value 10 whole + value 10 (places 2 decimals)) := by
  have ret : (100 : BitVec 32) * BitVec.ofInt 32 (value 10 whole) =
      BitVec.ofNat 32 (100 * value 10 whole) := by
    rw [BitVec.ofInt_natCast, BitVec.ofNat_mul]
    rfl
  have positive := head_number some decimal (fraction decimals)
  rw [parseDecimal]
  simp only [positive, if_false]
  rw [atol_ascii decimal some (stops_fraction _) fits, ret,
    dropWhile_ascii decimal (stops_fraction _), addHundredths_fraction decimalsToo]

def scaled (multiplier : Nat) : List Nat → Nat
  | [] => 0
  | digit :: digits => digit * (multiplier / 10) + scaled (multiplier / 10) digits

theorem scaled_zero (digits : List Nat) : scaled 0 digits = 0 := by
  induction digits with
  | nil => rfl
  | cons digit digits ih => rw [scaled, Nat.zero_div, ih, Nat.mul_zero]

theorem scaled_places (count : Nat) (digits : List Nat) :
    scaled (10 ^ count) digits = value 10 (places count digits) := by
  induction digits generalizing count with
  | nil => rw [scaled, Positional.places_nil, Positional.value_zeros]
  | cons digit digits ih =>
    cases count with
    | zero =>
      have tiny : 10 ^ 0 / 10 = 0 := rfl
      rw [scaled, tiny, scaled_zero, Nat.mul_zero, Positional.places_zero, Positional.value_nil]
    | succ count =>
      have tenth : 10 ^ (count + 1) / 10 = 10 ^ count := by
        rw [pow_succ, Nat.mul_div_cancel _ (by decide)]
      rw [scaled, tenth, ih, Positional.places_succ, Positional.value_cons,
        Positional.places_length]

theorem addDecimals_ascii (decimal : Decimal decimals) (start : Nat) {multiplier : Nat}
    (fits : multiplier < 4294967296) :
    addDecimals (BitVec.ofNat 32 multiplier) (BitVec.ofNat 32 start) (ascii decimals) =
      BitVec.ofNat 32 (start + scaled multiplier decimals) := by
  induction decimals generalizing start multiplier with
  | nil => rfl
  | cons digit digits ih =>
    have small := decimal digit (by simp)
    have text : ascii (digit :: digits) = UInt8.ofNat (48 + digit) :: ascii digits := rfl
    have tenth : BitVec.ofNat 32 multiplier / 10 = BitVec.ofNat 32 (multiplier / 10) := by
      apply BitVec.eq_of_toNat_eq
      rw [BitVec.toNat_udiv, BitVec.toNat_ofNat, BitVec.toNat_ofNat, Nat.mod_eq_of_lt fits,
        Nat.mod_eq_of_lt (by omega)]
      rfl
    rw [text, addDecimals, if_pos (isDigit_digit small), digitOf_digit small]
    simp only [tenth]
    rw [BitVec.mul_comm, ofNat_mul_add, ih (fun other member => decimal other (by simp [member])) _
      (by omega), scaled, Nat.add_assoc]

/-- Degrees and minutes are read exactly up to the seventh decimal of the minutes. -/
theorem parseDegrees_number (some : whole ≠ []) (decimal : Decimal whole)
    (decimalsToo : Decimal decimals) (fits : value 10 whole < 2147483648) :
    parseDegrees (ascii whole ++ fraction decimals) =
      { deg := BitVec.ofNat 16 (value 10 whole / 100)
        billionths := (5 * BitVec.ofNat 32
          (value 10 whole % 100 * 10000000 + value 10 (places 7 decimals)) + 1) / 3
        negative := false } := by
  have left : BitVec.ofInt 32 (value 10 whole) = BitVec.ofNat 32 (value 10 whole) :=
    BitVec.ofInt_natCast ..
  have degrees : (BitVec.ofNat 32 (value 10 whole) / 100).setWidth 16 =
      BitVec.ofNat 16 (value 10 whole / 100) := by
    apply BitVec.eq_of_toNat_eq
    simp only [BitVec.toNat_setWidth, BitVec.toNat_udiv, BitVec.toNat_ofNat]
    rw [Nat.mod_eq_of_lt (by omega : value 10 whole < 2 ^ 32)]
    rfl
  have minutes : ((BitVec.ofNat 32 (value 10 whole) % 100).setWidth 16).setWidth 32 =
      BitVec.ofNat 32 (value 10 whole % 100) := by
    apply BitVec.eq_of_toNat_eq
    have hundred : (100 : BitVec 32).toNat = 100 := rfl
    simp only [BitVec.toNat_setWidth, BitVec.toNat_umod, BitVec.toNat_ofNat, hundred]
    omega
  have scale : BitVec.ofNat 32 (value 10 whole % 100) * 10000000 =
      BitVec.ofNat 32 (value 10 whole % 100 * 10000000) := (BitVec.ofNat_mul ..).symm
  have behind : addMinutes 10000000 (BitVec.ofNat 32 (value 10 whole % 100 * 10000000))
      (fraction decimals) =
      BitVec.ofNat 32 (value 10 whole % 100 * 10000000 + value 10 (places 7 decimals)) := by
    cases decimals with
    | nil =>
      have text : fraction [] = [] := rfl
      rw [Positional.places_nil, Positional.value_zeros, Nat.add_zero, text, addMinutes]
    | cons digit digits =>
      have text : fraction (digit :: digits) = point :: ascii (digit :: digits) := rfl
      have million : scaled 10000000 (digit :: digits) =
          value 10 (places 7 (digit :: digits)) := by
        rw [← scaled_places]
        norm_num
      rw [text, addMinutes, if_pos rfl, ← million]
      exact addDecimals_ascii decimalsToo _ (by decide)
  rw [parseDegrees, atol_ascii decimal some (stops_fraction _) fits, left,
    dropWhile_ascii decimal (stops_fraction _), minutes, scale, behind, degrees]

end Fraction

end RockYou.GPS

import Mathlib
import RockYou.GPS.Safety.RoundTrip

namespace RockYou.GPS.Safety

open Positional (value padded places)

/-- A number that is not negative, as a receiver prints it. -/
structure Number where
  whole : List Nat
  decimals : List Nat
  some : whole ≠ []
  decimal : Decimal whole
  decimalToo : Decimal decimals
  short : whole.length + decimals.length ≤ 13
  fits : value 10 whole < 21474836

namespace Number

variable (number : Number)

def text : List UInt8 := ascii number.whole ++ fraction number.decimals

def amount : ℚ :=
  value 10 number.whole + value 10 number.decimals / 10 ^ number.decimals.length

def hundredths : Nat := 100 * value 10 number.whole + value 10 (places 2 number.decimals)

theorem hundredths_lt : number.hundredths < 2147483648 := by
  have small : value 10 (places 2 number.decimals) < 10 ^ (places 2 number.decimals).length :=
    Positional.value_lt fun digit => Positional.places_lt (by decide) number.decimalToo
  have fits := number.fits
  rw [Positional.places_length] at small
  rw [hundredths]
  omega

theorem hundredths_floor :
    (number.hundredths : ℚ) ≤ 100 * number.amount ∧ 100 * number.amount < number.hundredths + 1 := by
  obtain ⟨lower, upper⟩ := @Positional.places_floor 10 (by decide) 2 _ number.decimalToo
  have positive : (0 : ℚ) < 10 ^ number.decimals.length := by positivity
  have lowerQ : (value 10 (places 2 number.decimals) : ℚ) * 10 ^ number.decimals.length ≤
      value 10 number.decimals * 10 ^ 2 := by exact_mod_cast lower
  have upperQ : (value 10 number.decimals : ℚ) * 10 ^ 2 <
      (value 10 (places 2 number.decimals) + 1) * 10 ^ number.decimals.length := by
    exact_mod_cast upper
  have below := (le_div_iff₀ positive).mpr lowerQ
  have above := (div_lt_iff₀ positive).mpr upperQ
  have scaled : 100 * number.amount = 100 * value 10 number.whole +
      (value 10 number.decimals : ℚ) * 10 ^ 2 / 10 ^ number.decimals.length := by
    rw [amount]
    ring
  have parts : (number.hundredths : ℚ) =
      100 * value 10 number.whole + value 10 (places 2 number.decimals) := by
    rw [hundredths]
    push_cast
    rfl
  rw [scaled, parts]
  constructor
  · linarith
  · linarith

theorem parseDecimal_text : parseDecimal number.text = BitVec.ofNat 32 number.hundredths := by
  have fits := number.fits
  exact parseDecimal_number number.some number.decimal number.decimalToo (by omega)

def Read (val : BitVec 32) : Prop :=
  (val.toNat : ℚ) ≤ 100 * number.amount ∧ 100 * number.amount < val.toNat + 1

theorem read_hundredths : number.Read (BitVec.ofNat 32 number.hundredths) := by
  have small := number.hundredths_lt
  rw [Read, BitVec.toNat_ofNat, Nat.mod_eq_of_lt (by omega)]
  exact number.hundredths_floor

theorem text_plain : ∀ c ∈ number.text, Ordinary c ∧ c ≠ 0 :=
  printed_plain number.decimal number.decimalToo

theorem clip_text : clip number.text = number.text :=
  printed_clip number.decimal number.decimalToo number.short

theorem text_ne_nil : number.text ≠ [] := printed_ne_nil number.some

end Number

structure Moment where
  day : Nat
  month : Nat
  year : Nat
  hour : Nat
  minute : Nat
  second : Nat
  centisecond : Nat
  day_lt : day < 100
  month_lt : month < 100
  year_lt : year < 100
  hour_lt : hour < 100
  minute_lt : minute < 100
  second_lt : second < 100
  centisecond_lt : centisecond < 100

def triple (first second third : Nat) : List Nat :=
  padded 10 2 first ++ padded 10 2 second ++ padded 10 2 third

section Triple

variable {first second third : Nat}

theorem triple_decimal : Decimal (triple first second third) := by
  intro digit member
  rcases List.mem_append.mp member with front | back
  · rcases List.mem_append.mp front with one | two
    · exact Positional.padded_lt (by decide) one
    · exact Positional.padded_lt (by decide) two
  · exact Positional.padded_lt (by decide) back

theorem triple_length : (triple first second third).length = 6 := by
  simp [triple]

theorem triple_ne_nil : triple first second third ≠ [] := by
  intro none
  have length := @triple_length first second third
  rw [none] at length
  exact absurd length (by decide)

theorem value_triple (one : first < 100) (two : second < 100) (three : third < 100) :
    value 10 (triple first second third) = first * 10000 + second * 100 + third := by
  have width {number : Nat} (small : number < 100) : value 10 (padded 10 2 number) = number :=
    Positional.value_padded small
  rw [triple, Positional.value_append, Positional.value_append, width one, width two, width three,
    Positional.padded_length, Positional.padded_length]
  ring

end Triple

namespace Moment

variable (moment : Moment)

def date : List UInt8 := ascii (triple moment.day moment.month moment.year)

def time : Number where
  whole := triple moment.hour moment.minute moment.second
  decimals := padded 10 2 moment.centisecond
  some := triple_ne_nil
  decimal := triple_decimal
  decimalToo := fun _ => Positional.padded_lt (by decide)
  short := by
    rw [triple_length, Positional.padded_length]
    decide
  fits := by
    have hour := moment.hour_lt
    have minute := moment.minute_lt
    have second := moment.second_lt
    rw [value_triple hour minute second]
    omega

def dateValue : Nat := moment.day * 10000 + moment.month * 100 + moment.year

def timeValue : Nat :=
  moment.hour * 1000000 + moment.minute * 10000 + moment.second * 100 + moment.centisecond

theorem atol_date : BitVec.ofInt 32 (atol moment.date) = BitVec.ofNat 32 moment.dateValue := by
  have day := moment.day_lt
  have month := moment.month_lt
  have year := moment.year_lt
  have total := value_triple day month year
  have read := @atol_ascii _ [] triple_decimal triple_ne_nil (by simp [Stops])
    (show value 10 (triple moment.day moment.month moment.year) < _ by omega)
  rw [List.append_nil] at read
  rw [date, read, total, BitVec.ofInt_natCast, dateValue]

theorem hundredths_time : moment.time.hundredths = moment.timeValue := by
  have few : (padded 10 2 moment.centisecond).length ≤ 2 := by rw [Positional.padded_length]
  have last : value 10 (places 2 (padded 10 2 moment.centisecond)) = moment.centisecond := by
    rw [Positional.value_places few, Positional.padded_length, Nat.sub_self, pow_zero, Nat.mul_one]
    exact Positional.value_padded moment.centisecond_lt
  rw [Number.hundredths]
  have whole := value_triple moment.hour_lt moment.minute_lt moment.second_lt
  have total : 100 * value 10 moment.time.whole = 100 * _ := congrArg (100 * ·) whole
  have rest : value 10 (places 2 moment.time.decimals) = moment.centisecond := last
  rw [total, rest, timeValue]
  omega

structure Read (date time : Item (BitVec 32)) : Prop where
  year : (TinyGPSDate.year date).1.toNat = 2000 + moment.year
  month : (TinyGPSDate.month date).1.toNat = moment.month
  day : (TinyGPSDate.day date).1.toNat = moment.day
  hour : (TinyGPSTime.hour time).1.toNat = moment.hour
  minute : (TinyGPSTime.minute time).1.toNat = moment.minute
  second : (TinyGPSTime.second time).1.toNat = moment.second
  centisecond : (TinyGPSTime.centisecond time).1.toNat = moment.centisecond

theorem read_values {date time : Item (BitVec 32)}
    (dated : date.val = BitVec.ofNat 32 moment.dateValue)
    (timed : time.val = BitVec.ofNat 32 moment.timeValue) : moment.Read date time := by
  have day := moment.day_lt
  have month := moment.month_lt
  have year := moment.year_lt
  have hour := moment.hour_lt
  have minute := moment.minute_lt
  have second := moment.second_lt
  have centisecond := moment.centisecond_lt
  have dateNat : date.val.toNat = moment.dateValue := by
    rw [dated, BitVec.toNat_ofNat, dateValue]
    omega
  have timeNat : time.val.toNat = moment.timeValue := by
    rw [timed, BitVec.toNat_ofNat, timeValue]
    omega
  rw [dateValue] at dateNat
  rw [timeValue] at timeNat
  have hundred : (100 : BitVec 32).toNat = 100 := rfl
  have square : (10000 : BitVec 32).toNat = 10000 := rfl
  have cube : (1000000 : BitVec 32).toNat = 1000000 := rfl
  have century : (2000 : BitVec 16).toNat = 2000 := rfl
  constructor
  all_goals
    simp only [TinyGPSDate.year, TinyGPSDate.month, TinyGPSDate.day, TinyGPSTime.hour,
      TinyGPSTime.minute, TinyGPSTime.second, TinyGPSTime.centisecond, Item.value,
      BitVec.toNat_add, BitVec.toNat_setWidth, BitVec.toNat_umod, BitVec.toNat_udiv, dateNat,
      timeNat, hundred, square, cube, century]
    omega

end Moment

/-- Committed at a moment and not yet read. -/
def Fresh {V : Type} (millis : BitVec 32) (item : Item V) : Prop :=
  item.valid = true ∧ item.updated = true ∧ item.lastCommitTime = millis

structure Report where
  moment : Moment
  fix : Fix
  speed : Number
  course : Number

namespace Report

variable (report : Report)

def rmc (rest : List (List UInt8)) : List (List UInt8) :=
  report.fix.rmc report.moment.time.text
    (report.speed.text :: report.course.text :: report.moment.date :: rest)

/-- What the accessors show of a report that was committed. -/
structure Shown (millis : BitVec 32) (readings : Readings) : Prop where
  lat : report.fix.lat.Read readings.location.val.rawLat
  lng : report.fix.lng.Read readings.location.val.rawLng
  moment : report.moment.Read readings.date readings.time
  speed : report.speed.Read readings.speed.val
  course : report.course.Read readings.course.val
  fresh : Fresh millis readings.location ∧ Fresh millis readings.date ∧
    Fresh millis readings.time ∧ Fresh millis readings.speed ∧ Fresh millis readings.course

end Report

theorem validate_rmc {draft : Draft} {readings : Readings}
    (carries : Carries .gprmc draft readings) (fix : draft.hasFix = true) (millis : BitVec 32)
    {checksum parity : UInt8} (same : checksum = parity) :
    let after := (readings.validate millis checksum parity).2
    after.location.val = draft.location ∧ after.date.val = draft.date ∧
      after.time.val = draft.time ∧ after.speed.val = draft.speed ∧
      after.course.val = draft.course ∧ Fresh millis after.location ∧ Fresh millis after.date ∧
      Fresh millis after.time ∧ Fresh millis after.speed ∧ Fresh millis after.course := by
  obtain ⟨rmc, rfl⟩ := carries
  have counted : readings.countPassed.curSentenceType = .gprmc := rmc
  have fixed : readings.countPassed.sentenceHasFix = true := fix
  rw [Readings.validate, if_pos same, Readings.commitItems, counted]
  dsimp only
  rw [if_pos fixed]
  exact ⟨rfl, rfl, rfl, rfl, rfl, ⟨rfl, rfl, rfl⟩, ⟨rfl, rfl, rfl⟩, ⟨rfl, rfl, rfl⟩,
    ⟨rfl, rfl, rfl⟩, ⟨rfl, rfl, rfl⟩⟩

theorem terms_kept {sentenceType : SentenceType} {terms : List (List UInt8)}
    (short : 10 + terms.length ≤ 32) (draft : Draft) :
    draft.terms sentenceType 10 terms = draft :=
  terms_view (fun draft => draft) (fun _ => false) 10
    (fun _ silent => absurd silent (by decide)) (by cases sentenceType <;> decide) (le_refl 10)
    short draft

theorem clip_date (moment : Moment) : clip moment.date = moment.date := by
  have length : moment.date.length ≤ 14 := by
    rw [Moment.date, ascii, List.length_map, triple_length]
    decide
  exact clip_eq length fun c member => (digit_ordinary (isDigit_ascii triple_decimal c member)).2

theorem date_ne_nil (moment : Moment) : moment.date ≠ [] := by
  rw [Moment.date, ascii]
  intro none
  exact triple_ne_nil (List.map_eq_nil_iff.mp none)

section Round

variable (report : Report) {rest : List (List UInt8)}

theorem report_carries (short : rest.length ≤ 22) (readings : Readings) :
    ∃ draft, Carries .gprmc draft (readings.terms 0 (report.rmc rest)) ∧ draft.hasFix = true ∧
      draft.location = positionOf report.fix.lat.text [northSouth report.fix.lat.negative]
        report.fix.lng.text [eastWest report.fix.lng.negative] ∧
      draft.date = BitVec.ofNat 32 report.moment.dateValue ∧
      draft.time = BitVec.ofNat 32 report.moment.timeValue ∧
      draft.speed = BitVec.ofNat 32 report.speed.hundredths ∧
      draft.course = BitVec.ofNat 32 report.course.hundredths := by
  have begun : Carries .gprmc readings.draft (readings.nameSentence (clip gprmcTerm)) :=
    ⟨rfl, rfl⟩
  have length : (report.rmc rest).tail.length ≤ 31 := by
    simp only [Report.rmc, Fix.rmc, List.tail_cons, List.length_cons]
    omega
  have read := begun.behind (by decide) length
  have time : clip report.moment.time.text ≠ [] := by
    rw [Number.clip_text]
    exact Number.text_ne_nil _
  have latitude : clip report.fix.lat.text ≠ [] := by
    rw [report.fix.lat.clip_text (by decide)]
    exact Angle.text_ne_nil _
  have longitude : clip report.fix.lng.text ≠ [] := by
    rw [report.fix.lng.clip_text (by decide)]
    exact Angle.text_ne_nil _
  have speed : clip report.speed.text ≠ [] := by
    rw [Number.clip_text]
    exact Number.text_ne_nil _
  have course : clip report.course.text ≠ [] := by
    rw [Number.clip_text]
    exact Number.text_ne_nil _
  have date : clip report.moment.date ≠ [] := by
    rw [clip_date]
    exact date_ne_nil _
  have first := @read_listed .gprmc .time 1 _ time rfl
  have second := @read_listed .gprmc .validity 2 (clip [65]) (by decide) rfl
  have third := @read_listed .gprmc .latitude 3 _ latitude rfl
  have fourth := @read_listed .gprmc .northSouth 4 (clip [northSouth report.fix.lat.negative])
    (by rw [(side_plain _).2.2.1]; simp) rfl
  have fifth := @read_listed .gprmc .longitude 5 _ longitude rfl
  have sixth := @read_listed .gprmc .eastWest 6 (clip [eastWest report.fix.lng.negative])
    (by rw [(side_plain _).2.2.2]; simp) rfl
  have seventh := @read_listed .gprmc .speed 7 _ speed rfl
  have eighth := @read_listed .gprmc .course 8 _ course rfl
  have ninth := @read_listed .gprmc .date 9 _ date rfl
  simp only [Report.rmc, Fix.rmc, List.tail_cons, Draft.terms_cons, Nat.reduceAdd, first,
    second, third, fourth, fifth, sixth, seventh, eighth, ninth] at read
  rw [terms_kept (by omega)] at read
  refine ⟨_, read, rfl, rfl, ?_, ?_, ?_, ?_⟩
  · dsimp only [Field.write]
    rw [clip_date, Moment.atol_date]
  · dsimp only [Field.write]
    rw [Number.clip_text, Number.parseDecimal_text, Moment.hundredths_time]
  · dsimp only [Field.write]
    rw [Number.clip_text, Number.parseDecimal_text]
  · dsimp only [Field.write]
    rw [Number.clip_text, Number.parseDecimal_text]

theorem report_ordinary (plain : ∀ term ∈ rest, ∀ c ∈ term, Ordinary c) :
    ∀ term ∈ report.rmc rest, ∀ c ∈ term, Ordinary c := by
  refine rmc_ordinary report.fix ?_
  simp only [List.forall_mem_cons]
  exact ⟨fun c inside => (Number.text_plain _ c inside).1,
    fun c inside => (Number.text_plain _ c inside).1,
    fun c inside => (Number.text_plain _ c inside).1,
    fun c inside => (digit_ordinary (isDigit_ascii triple_decimal c inside)).1, plain⟩

/-- A whole report is what the accessors show, from every state of the decoder. -/
theorem report_round_trip (gps : TinyGPSPlus) {inputs : List (BitVec 32 × UInt8)}
    {millis : BitVec 32} (short : rest.length ≤ 22)
    (plain : ∀ term ∈ rest, ∀ c ∈ term, Ordinary c)
    (text : (inputs ++ [(millis, return')]).map Prod.snd = signed (report.rmc rest)) :
    (Machine.run decode gps (inputs ++ [(millis, return')])).2 =
        List.replicate inputs.length false ++ [true] ∧
      report.Shown millis (Machine.run decode gps (inputs ++ [(millis, return')])).1.toReadings := by
  have some : report.rmc rest ≠ [] := by simp [Report.rmc, Fix.rmc]
  have bound := (parityOf (body (report.rmc rest))).toNat_lt
  obtain ⟨answers, final⟩ := run_sentence gps some (report_ordinary report plain)
    (hexDigit_ordinary _ (by omega)) (hexDigit_ordinary _ (by omega)) text
  obtain ⟨draft, carries, fix, place, date, time, speed, course⟩ := report_carries report short
    { gps.toReadings with curSentenceType := .other, sentenceHasFix := false }
  obtain ⟨shownPlace, shownDate, shownTime, shownSpeed, shownCourse, fresh⟩ :=
    validate_rmc carries fix millis (checksum_hexDigits (parityOf (body (report.rmc rest))))
  obtain ⟨read, readToo⟩ := positionOf_read report.fix
  rw [decide_eq_true (checksum_hexDigits _)] at answers
  rw [final]
  refine ⟨answers, ?_, ?_, ?_, ?_, ?_, fresh⟩
  · rw [shownPlace, place]
    exact read
  · rw [shownPlace, place]
    exact readToo
  · exact report.moment.read_values (shownDate.trans date) (shownTime.trans time)
  · rw [shownSpeed, speed]
    exact report.speed.read_hundredths
  · rw [shownCourse, course]
    exact report.course.read_hundredths

end Round

/-- A bicycle on its way at noon on New Year's Day, at 4.275 knots on a course of 231.6 degrees. -/
def noon : Report where
  moment := ⟨1, 1, 20, 12, 0, 0, 0, by decide, by decide, by decide, by decide, by decide,
    by decide, by decide⟩
  fix := harbour
  speed := ⟨[4], [2, 7, 5], by decide, by simp [Decimal], by simp [Decimal], by decide, by decide⟩
  course := ⟨[2, 3, 1], [6], by decide, by simp [Decimal], by simp [Decimal], by decide, by decide⟩

theorem report_round_trip_noon :
    noon.Shown 0 (Machine.run decode .initial
      ((signed (noon.rmc [])).dropLast.map (fun c => (0, c)) ++ [(0, return')])).1.toReadings :=
  (report_round_trip noon .initial (by decide) (List.forall_mem_nil _) (by decide)).2

end RockYou.GPS.Safety

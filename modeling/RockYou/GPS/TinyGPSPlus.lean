import RockYou.GPS.Term

namespace RockYou.GPS

/-- A value of the last validated sentence, and the one read since; the common part of
    `TinyGPSLocation`, `TinyGPSDate`, `TinyGPSTime`, `TinyGPSDecimal`, `TinyGPSInteger` and
    `TinyGPSCustom`. -/
structure Item (V : Type) where
  valid : Bool
  updated : Bool
  lastCommitTime : BitVec 32
  val : V
  newval : V

namespace Item

variable {V : Type}

def initial (val : V) : Item V where
  valid := false
  updated := false
  lastCommitTime := 0
  val := val
  newval := val

def commit (millis : BitVec 32) (item : Item V) : Item V where
  valid := true
  updated := true
  lastCommitTime := millis
  val := item.newval
  newval := item.newval

def set (newval : V) (item : Item V) : Item V := { item with newval := newval }

def value (item : Item V) : V × Item V := (item.val, { item with updated := false })

end Item

namespace TinyGPSDate

def year (date : Item (BitVec 32)) : BitVec 16 × Item (BitVec 32) :=
  let (value, date) := date.value
  ((value % 100).setWidth 16 + 2000, date)

def month (date : Item (BitVec 32)) : BitVec 8 × Item (BitVec 32) :=
  let (value, date) := date.value
  ((value / 100 % 100).setWidth 8, date)

def day (date : Item (BitVec 32)) : BitVec 8 × Item (BitVec 32) :=
  let (value, date) := date.value
  ((value / 10000).setWidth 8, date)

end TinyGPSDate

namespace TinyGPSTime

def hour (time : Item (BitVec 32)) : BitVec 8 × Item (BitVec 32) :=
  let (value, time) := time.value
  ((value / 1000000).setWidth 8, time)

def minute (time : Item (BitVec 32)) : BitVec 8 × Item (BitVec 32) :=
  let (value, time) := time.value
  ((value / 10000 % 100).setWidth 8, time)

def second (time : Item (BitVec 32)) : BitVec 8 × Item (BitVec 32) :=
  let (value, time) := time.value
  ((value / 100 % 100).setWidth 8, time)

def centisecond (time : Item (BitVec 32)) : BitVec 8 × Item (BitVec 32) :=
  let (value, time) := time.value
  ((value % 100).setWidth 8, time)

end TinyGPSTime

inductive SentenceType where
  | gpgga
  | gprmc
  | other
  deriving DecidableEq

def SentenceType.code : SentenceType → Nat
  | .gpgga => 0
  | .gprmc => 1
  | .other => 2

structure Location where
  rawLat : RawDegrees
  rawLng : RawDegrees

structure TinyGPSCustom where
  sentenceName : List UInt8
  termNumber : Int
  item : Item (List UInt8)

def TinyGPSCustom.begin (sentenceName : List UInt8) (termNumber : Int) : TinyGPSCustom where
  sentenceName := sentenceName
  termNumber := termNumber
  item := .initial []

/-- What the handler of a term reads and writes; `customCandidates` is a position in
    `customElts`. -/
structure Readings where
  location : Item Location
  date : Item (BitVec 32)
  time : Item (BitVec 32)
  speed : Item (BitVec 32)
  course : Item (BitVec 32)
  altitude : Item (BitVec 32)
  satellites : Item (BitVec 32)
  hdop : Item (BitVec 32)
  curSentenceType : SentenceType
  sentenceHasFix : Bool
  customElts : List TinyGPSCustom
  customCandidates : Option Nat
  sentencesWithFixCount : BitVec 32
  failedChecksumCount : BitVec 32
  passedChecksumCount : BitVec 32

structure TinyGPSPlus extends Readings where
  parity : UInt8
  isChecksumTerm : Bool
  term : Vector UInt8 15
  curTermNumber : UInt8
  curTermOffset : Nat
  encodedCharCount : BitVec 32

section Names

def comma : UInt8 := 44

def return' : UInt8 := 13

def newline : UInt8 := 10

def star : UInt8 := 42

def dollar : UInt8 := 36

def gprmcTerm : List UInt8 := [71, 80, 82, 77, 67]

def gpggaTerm : List UInt8 := [71, 80, 71, 71, 65]

def gnrmcTerm : List UInt8 := [71, 78, 82, 77, 67]

def gnggaTerm : List UInt8 := [71, 78, 71, 71, 65]

end Names

section Custom

variable {α : Type}

/-- A loop along a linked list that updates its elements until one fails the condition. -/
def updateWhile (go : α → Bool) (update : α → α) : List α → List α
  | [] => []
  | p :: next => if go p then update p :: updateWhile go update next else p :: next

def Readings.forCandidates (go : TinyGPSCustom → Bool) (update : TinyGPSCustom → TinyGPSCustom)
    (readings : Readings) : List TinyGPSCustom :=
  match readings.customCandidates with
  | none => readings.customElts
  | some first =>
    let candidates := readings.customElts.drop first
    let sentenceName := (candidates.head?.map (·.sentenceName)).getD []
    readings.customElts.take first ++
      updateWhile (fun p => p.sentenceName = sentenceName ∧ go p) update candidates

def candidatesOf (term : List UInt8) (customElts : List TinyGPSCustom) : Option Nat :=
  let first := (customElts.takeWhile fun p => p.sentenceName < term).length
  match customElts[first]? with
  | some p => if term < p.sentenceName then none else some first
  | none => none

def precedes (sentenceName : List UInt8) (termNumber : Int) (p : TinyGPSCustom) : Bool :=
  sentenceName < p.sentenceName ∨ sentenceName = p.sentenceName ∧ termNumber < p.termNumber

/-- The pointer to the candidates stays on its element. -/
def Readings.insertCustom (pElt : TinyGPSCustom) (readings : Readings) : Readings :=
  let position := (readings.customElts.takeWhile fun p =>
    !precedes pElt.sentenceName pElt.termNumber p).length
  { readings with
    customElts := readings.customElts.take position ++ pElt :: readings.customElts.drop position
    customCandidates := readings.customCandidates.map fun first =>
      if position ≤ first then first + 1 else first }

end Custom

section Handler

inductive Field where
  | time
  | validity
  | latitude
  | northSouth
  | longitude
  | eastWest
  | speed
  | course
  | date
  | fixData
  | satellites
  | hdop
  | altitude

def combine (sentenceType : SentenceType) (termNumber : Nat) : Nat :=
  (sentenceType.code <<< 5) ||| termNumber

/-- The cases of the `switch` over the terms of a sentence. -/
def fields : List (Nat × Field) :=
  [(combine .gprmc 1, .time), (combine .gpgga 1, .time),
    (combine .gprmc 2, .validity),
    (combine .gprmc 3, .latitude), (combine .gpgga 2, .latitude),
    (combine .gprmc 4, .northSouth), (combine .gpgga 3, .northSouth),
    (combine .gprmc 5, .longitude), (combine .gpgga 4, .longitude),
    (combine .gprmc 6, .eastWest), (combine .gpgga 5, .eastWest),
    (combine .gprmc 7, .speed),
    (combine .gprmc 8, .course),
    (combine .gprmc 9, .date),
    (combine .gpgga 6, .fixData),
    (combine .gpgga 7, .satellites),
    (combine .gpgga 8, .hdop),
    (combine .gpgga 9, .altitude)]

namespace Readings

def setLocation (update : Location → Location) (readings : Readings) : Readings :=
  { readings with location := readings.location.set (update readings.location.newval) }

def setField (term : List UInt8) (readings : Readings) : Field → Readings
  | .time => { readings with time := readings.time.set (parseDecimal term) }
  | .validity => { readings with sentenceHasFix := term.head? = some 65 }
  | .latitude => readings.setLocation fun location =>
    { location with rawLat := parseDegrees term }
  | .northSouth => readings.setLocation fun location =>
    { location with rawLat := { location.rawLat with negative := term.head? = some 83 } }
  | .longitude => readings.setLocation fun location =>
    { location with rawLng := parseDegrees term }
  | .eastWest => readings.setLocation fun location =>
    { location with rawLng := { location.rawLng with negative := term.head? = some 87 } }
  | .speed => { readings with speed := readings.speed.set (parseDecimal term) }
  | .course => { readings with course := readings.course.set (parseDecimal term) }
  | .date => { readings with date := readings.date.set (BitVec.ofInt 32 (atol term)) }
  | .fixData => { readings with sentenceHasFix := 48 < term.headD 0 }
  | .satellites =>
    { readings with satellites := readings.satellites.set (BitVec.ofInt 32 (atol term)) }
  | .hdop => { readings with hdop := readings.hdop.set (parseDecimal term) }
  | .altitude => { readings with altitude := readings.altitude.set (parseDecimal term) }

def commitItems (millis : BitVec 32) (readings : Readings) : Readings :=
  match readings.curSentenceType with
  | .gprmc =>
    let readings := { readings with
      date := readings.date.commit millis
      time := readings.time.commit millis }
    if readings.sentenceHasFix then
      { readings with
        location := readings.location.commit millis
        speed := readings.speed.commit millis
        course := readings.course.commit millis }
    else readings
  | .gpgga =>
    let readings := { readings with time := readings.time.commit millis }
    let readings :=
      if readings.sentenceHasFix then
        { readings with
          location := readings.location.commit millis
          altitude := readings.altitude.commit millis }
      else readings
    { readings with
      satellites := readings.satellites.commit millis
      hdop := readings.hdop.commit millis }
  | .other => readings

def commitCustom (millis : BitVec 32) (p : TinyGPSCustom) : TinyGPSCustom :=
  { p with item := p.item.commit millis }

def countPassed (readings : Readings) : Readings :=
  { readings with
    passedChecksumCount := readings.passedChecksumCount + 1
    sentencesWithFixCount :=
      if readings.sentenceHasFix then readings.sentencesWithFixCount + 1
      else readings.sentencesWithFixCount }

def validate (millis : BitVec 32) (checksum parity : UInt8) (readings : Readings) :
    Bool × Readings :=
  if checksum = parity then
    let readings := readings.countPassed.commitItems millis
    (true, { readings with
      customElts := readings.forCandidates (fun _ => true) (commitCustom millis) })
  else (false, { readings with failedChecksumCount := readings.failedChecksumCount + 1 })

def nameSentence (term : List UInt8) (readings : Readings) : Readings :=
  { readings with
    curSentenceType :=
      if term = gprmcTerm ∨ term = gnrmcTerm then .gprmc
      else if term = gpggaTerm ∨ term = gnggaTerm then .gpgga
      else .other
    customCandidates := candidatesOf term readings.customElts }

def setCustom (term : List UInt8) (termNumber : Int) (p : TinyGPSCustom) : TinyGPSCustom :=
  if p.termNumber = termNumber then { p with item := p.item.set term } else p

def switchTerm (termNumber : Nat) (term : List UInt8) (readings : Readings) : Readings :=
  if readings.curSentenceType ≠ .other ∧ term ≠ [] then
    match fields.lookup (combine readings.curSentenceType termNumber) with
    | some field => readings.setField term field
    | none => readings
  else readings

def readTerm (termNumber : Nat) (term : List UInt8) (readings : Readings) : Readings :=
  let readings := readings.switchTerm termNumber term
  { readings with
    customElts := readings.forCandidates (fun p => p.termNumber ≤ termNumber)
      (setCustom term termNumber) }

end Readings

def cString (term : Vector UInt8 15) : List UInt8 := term.toList.takeWhile (· ≠ 0)

def TinyGPSPlus.endOfTermHandler (millis : BitVec 32) (gps : TinyGPSPlus) : Bool × TinyGPSPlus :=
  if gps.isChecksumTerm then
    let checksum := UInt8.ofInt (16 * fromHex gps.term[0] + fromHex gps.term[1])
    let (passed, readings) := gps.toReadings.validate millis checksum gps.parity
    (passed, { gps with toReadings := readings })
  else if gps.curTermNumber = 0 then
    (false, { gps with toReadings := gps.toReadings.nameSentence (cString gps.term) })
  else
    let readings := gps.toReadings.readTerm gps.curTermNumber.toNat (cString gps.term)
    (false, { gps with toReadings := readings })

end Handler

namespace TinyGPSPlus

def initial : TinyGPSPlus where
  location := .initial ⟨⟨0, 0, false⟩, ⟨0, 0, false⟩⟩
  date := .initial 0
  time := .initial 0
  speed := .initial 0
  course := .initial 0
  altitude := .initial 0
  satellites := .initial 0
  hdop := .initial 0
  curSentenceType := .other
  sentenceHasFix := false
  customElts := []
  customCandidates := none
  sentencesWithFixCount := 0
  failedChecksumCount := 0
  passedChecksumCount := 0
  parity := 0
  isChecksumTerm := false
  term := Vector.replicate 15 0
  curTermNumber := 0
  curTermOffset := 0
  encodedCharCount := 0

def separate (c : UInt8) (gps : TinyGPSPlus) : TinyGPSPlus :=
  if c = comma then { gps with parity := gps.parity ^^^ c } else gps

def closeTerm (millis : BitVec 32) (gps : TinyGPSPlus) : Bool × TinyGPSPlus :=
  if inside : gps.curTermOffset < 15 then
    { gps with term := gps.term.set gps.curTermOffset 0 }.endOfTermHandler millis
  else (false, gps)

def endOfTerm (millis : BitVec 32) (c : UInt8) (gps : TinyGPSPlus) : Bool × TinyGPSPlus :=
  let (isValidSentence, gps) := (gps.separate c).closeTerm millis
  (isValidSentence, { gps with
    curTermNumber := gps.curTermNumber + 1
    curTermOffset := 0
    isChecksumTerm := c = star })

def beginSentence (gps : TinyGPSPlus) : TinyGPSPlus :=
  { gps with
    curTermNumber := 0
    curTermOffset := 0
    parity := 0
    curSentenceType := .other
    isChecksumTerm := false
    sentenceHasFix := false }

def store (c : UInt8) (gps : TinyGPSPlus) : TinyGPSPlus :=
  let gps :=
    if inside : gps.curTermOffset < 14 then
      { gps with
        term := gps.term.set gps.curTermOffset c
        curTermOffset := gps.curTermOffset + 1 }
    else gps
  { gps with parity := if gps.isChecksumTerm then gps.parity else gps.parity ^^^ c }

def encode (millis : BitVec 32) (c : UInt8) (gps : TinyGPSPlus) : Bool × TinyGPSPlus :=
  let gps := { gps with encodedCharCount := gps.encodedCharCount + 1 }
  if c = comma ∨ c = return' ∨ c = newline ∨ c = star then gps.endOfTerm millis c
  else if c = dollar then (false, gps.beginSentence)
  else (false, gps.store c)

end TinyGPSPlus

end RockYou.GPS

import RockYou.Firmware.Bluetooth
import RockYou.Library.Positional

namespace RockYou.GPS

open Firmware (isDigit digitValue minus)

def plus : UInt8 := 43

def point : UInt8 := 46

def isspace (c : UInt8) : Bool := c = 32 || (9 ≤ c && c ≤ 13)

def leading (text : List UInt8) : Nat :=
  Positional.value 10 ((text.takeWhile isDigit).map digitValue)

/-- `atol` of a C string, with a `long` of 32 bits that saturates. -/
def atol (text : List UInt8) : Int :=
  let text := text.dropWhile isspace
  let number : Int :=
    if text.head? = some minus then -leading text.tail
    else if text.head? = some plus then leading text.tail
    else leading text
  max (-2147483648) (min 2147483647 number)

def digitOf (c : UInt8) : BitVec 32 := BitVec.ofNat 32 (digitValue c)

def addHundredths (ret : BitVec 32) : List UInt8 → BitVec 32
  | c :: tenth :: rest =>
    if c = point ∧ isDigit tenth then
      let ret := ret + 10 * digitOf tenth
      match rest with
      | hundredth :: _ => if isDigit hundredth then ret + digitOf hundredth else ret
      | [] => ret
    else ret
  | _ => ret

/-- A number with up to two decimals, in hundredths. -/
def parseDecimal (term : List UInt8) : BitVec 32 :=
  let negative := term.head? = some minus
  let term := if negative then term.tail else term
  let ret := addHundredths (100 * BitVec.ofInt 32 (atol term)) (term.dropWhile isDigit)
  if negative then -ret else ret

structure RawDegrees where
  deg : BitVec 16
  billionths : BitVec 32
  negative : Bool
  deriving DecidableEq

def addDecimals (multiplier tenMillionthsOfMinutes : BitVec 32) : List UInt8 → BitVec 32
  | [] => tenMillionthsOfMinutes
  | c :: rest =>
    if isDigit c then
      let multiplier := multiplier / 10
      addDecimals multiplier (tenMillionthsOfMinutes + digitOf c * multiplier) rest
    else tenMillionthsOfMinutes

def addMinutes (multiplier tenMillionthsOfMinutes : BitVec 32) : List UInt8 → BitVec 32
  | [] => tenMillionthsOfMinutes
  | c :: rest =>
    if c = point then addDecimals multiplier tenMillionthsOfMinutes rest
    else tenMillionthsOfMinutes

/-- Degrees and minutes as `DDMM.MMMM`. -/
def parseDegrees (term : List UInt8) : RawDegrees :=
  let leftOfDecimal := BitVec.ofInt 32 (atol term)
  let minutes : BitVec 16 := (leftOfDecimal % 100).setWidth 16
  let multiplier : BitVec 32 := 10000000
  let tenMillionthsOfMinutes := minutes.setWidth 32 * multiplier
  let tenMillionthsOfMinutes :=
    addMinutes multiplier tenMillionthsOfMinutes (term.dropWhile isDigit)
  { deg := (leftOfDecimal / 100).setWidth 16
    billionths := (5 * tenMillionthsOfMinutes + 1) / 3
    negative := false }

def fromHex (a : UInt8) : Int :=
  if 65 ≤ a ∧ a ≤ 70 then (a.toNat : Int) - 65 + 10
  else if 97 ≤ a ∧ a ≤ 102 then (a.toNat : Int) - 97 + 10
  else (a.toNat : Int) - 48

end RockYou.GPS

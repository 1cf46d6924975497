import RockYou.Firmware.Event

namespace RockYou.Firmware

/-- The receive side of `BTSerial`: the clock in milliseconds and the bytes not yet read,
    each with the time of its arrival. -/
structure Port where
  now : Nat
  pending : List (Nat × UInt8)

def streamTimeout : Nat := 1000

def isDigit (c : UInt8) : Bool := 48 ≤ c && c ≤ 57

def minus : UInt8 := 45

def digitValue (c : UInt8) : Nat := c.toNat - 48

def Port.available (port : Port) : Bool :=
  match port.pending with
  | [] => false
  | (arrival, _) :: _ => arrival ≤ port.now

def peekNextDigit (now : Nat) : List (Nat × UInt8) → Option UInt8 × Port
  | [] => (none, ⟨now + streamTimeout, []⟩)
  | (arrival, c) :: rest =>
    if arrival < now + streamTimeout then
      if c = minus ∨ isDigit c then (some c, ⟨max now arrival, (arrival, c) :: rest⟩)
      else peekNextDigit (max now arrival) rest
    else (none, ⟨now + streamTimeout, (arrival, c) :: rest⟩)

def readDigits (now : Nat) (value : BitVec 32) : List (Nat × UInt8) → BitVec 32 × Port
  | [] => (value, ⟨now + streamTimeout, []⟩)
  | (arrival, c) :: rest =>
    if arrival < now + streamTimeout then
      if isDigit c then
        readDigits (max now arrival) (value * 10 + BitVec.ofNat 32 (digitValue c)) rest
      else (value, ⟨max now arrival, (arrival, c) :: rest⟩)
    else (value, ⟨now + streamTimeout, (arrival, c) :: rest⟩)

def Port.parseInt (port : Port) : BitVec 32 × Port :=
  match peekNextDigit port.now port.pending with
  | (none, port) => (0, port)
  | (some c, port) =>
    let value : BitVec 32 := if c = minus then 0 else BitVec.ofNat 32 (digitValue c)
    let (value, port) := readDigits port.now value port.pending.tail
    (if c = minus then -value else value, port)

def getCmdFromBLE {F : Type} (port : Port) : BitVec 32 × Port × List (Event F) :=
  if port.available then
    let (lockCmd, port) := port.parseInt
    (lockCmd, port, [.serialWrite lockCmd])
  else (-1, port, [])

def sendCmdToBLE {F : Type} (lockState : Int) : List (Event F) := [.sendCmdToBLE lockState]

end RockYou.Firmware

import Mathlib.Data.List.Basic

namespace RockYou.Firmware

structure GPSValue (F : Type) where
  latitude : F
  longitude : F
  deriving DecidableEq

inductive LockCmd where
  | «open»
  | close
  deriving DecidableEq

/-- Enumerators as the 32-bit `int` that `switch (lockCmd)` compares. -/
def LockCmd.code : LockCmd → BitVec 32
  | LockCmd.open => 0
  | LockCmd.close => 1

inductive BicycleState where
  | drive
  | locked
  | steel
  deriving DecidableEq

def BicycleState.value : BicycleState → Int
  | .drive => 0
  | .locked => 1
  | .steel => 2

inductive UpdateValue where
  | longitude
  | latitude
  | lock
  | state
  deriving DecidableEq

theorem BicycleState.value_injective : Function.Injective BicycleState.value := by
  intro left right same
  cases left <;> cases right <;> simp_all [BicycleState.value]

@[simp] theorem BicycleState.value_inj {left right : BicycleState} :
    left.value = right.value ↔ left = right := BicycleState.value_injective.eq_iff

theorem LockCmd.code_injective : Function.Injective LockCmd.code := by
  intro left right same
  cases left <;> cases right <;> simp_all [LockCmd.code]

theorem LockCmd.code_ne_sentinel (cmd : LockCmd) : cmd.code ≠ -1 := by
  cases cmd <;> decide

@[simp] theorem LockCmd.open_ne_close : LockCmd.open.code ≠ LockCmd.close.code := by decide

/-- The globals of `ValueClass` that the sketch reads: `int state` and the last stored fix. -/
structure ValueClass (F : Type) where
  state : Int
  preGpsValue : GPSValue F

def ValueClass.initValue {F : Type} [Zero F] (_ : ValueClass F) : ValueClass F where
  state := BicycleState.drive.value
  preGpsValue := { latitude := 0, longitude := 0 }

def bicycleId : String := "qf6r5zOcY4jXmmcniqX9"

end RockYou.Firmware

import Mathlib.Logic.Function.Basic

namespace RockYou.App

inductive CBManagerState where
  | unknown
  | resetting
  | unsupported
  | unauthorized
  | poweredOff
  | poweredOn
  deriving DecidableEq

inductive CBCharacteristicWriteType where
  | withResponse
  | withoutResponse
  deriving DecidableEq

/-- A characteristic with the peripheral it was discovered on; `write` is a flag of its
    properties. -/
structure CBCharacteristic (P : Type) where
  peripheral : P
  uuid : String
  write : Bool
  deriving DecidableEq

structure BluetoothSerial (P : Type) where
  state : CBManagerState
  pendingPeripheral : Option P
  connectedPeripheral : Option P
  writeCharacteristic : Option (CBCharacteristic P)
  writeType : CBCharacteristicWriteType
  deriving DecidableEq

def serviceUUID : String := "FFE0"

def characteristicUUID : String := "FFE1"

variable {P : Type}

namespace BluetoothSerial

def initial : BluetoothSerial P where
  state := .unknown
  pendingPeripheral := none
  connectedPeripheral := none
  writeCharacteristic := none
  writeType := .withoutResponse

def bluetoothIsReady (serial : BluetoothSerial P) : Bool :=
  serial.state == .poweredOn && serial.connectedPeripheral.isSome &&
    serial.writeCharacteristic.isSome

def connectToPeripheral (peripheral : P) (serial : BluetoothSerial P) : BluetoothSerial P :=
  { serial with pendingPeripheral := some peripheral }

def centralManagerDidUpdateState (serial : BluetoothSerial P) : BluetoothSerial P :=
  { serial with pendingPeripheral := none, connectedPeripheral := none }

def didConnect (peripheral : P) (serial : BluetoothSerial P) : BluetoothSerial P :=
  { serial with pendingPeripheral := none, connectedPeripheral := some peripheral }

/-- The services whose characteristics are asked for; `services!` traps without a list. -/
def didDiscoverServices (services : Option (List String)) : Option (List String) := services

def remember (serial : BluetoothSerial P) (characteristic : CBCharacteristic P) :
    BluetoothSerial P :=
  if characteristic.uuid = characteristicUUID then
    { serial with
      writeCharacteristic := some characteristic
      writeType := if characteristic.write then .withResponse else .withoutResponse }
  else serial

def didDiscoverCharacteristicsFor (characteristics : Option (List (CBCharacteristic P)))
    (serial : BluetoothSerial P) : Option (BluetoothSerial P) :=
  characteristics.map fun found => found.foldl remember serial

end BluetoothSerial

structure WriteValue (P : Type) where
  peripheral : P
  data : List UInt8
  characteristic : CBCharacteristic P
  type : CBCharacteristicWriteType

namespace BluetoothSerial

def sendMessageToDevice (message : String) (serial : BluetoothSerial P) : Option (WriteValue P) :=
  if serial.bluetoothIsReady then
    match serial.connectedPeripheral, serial.writeCharacteristic with
    | some peripheral, some characteristic =>
      some
        { peripheral := peripheral
          data := message.toUTF8.data.toList
          characteristic := characteristic
          type := serial.writeType }
    | _, _ => none
  else none

end BluetoothSerial

def lockButtonDidTap (serial : BluetoothSerial P) : Option (WriteValue P) :=
  if !serial.bluetoothIsReady then none else serial.sendMessageToDevice "1"

def openButtonDidTap (serial : BluetoothSerial P) : Option (WriteValue P) :=
  if !serial.bluetoothIsReady then none else serial.sendMessageToDevice "0"

namespace BluetoothSerial

theorem bluetoothIsReady_iff {serial : BluetoothSerial P} :
    serial.bluetoothIsReady = true ↔ serial.state = .poweredOn ∧
      (∃ peripheral, serial.connectedPeripheral = some peripheral) ∧
      ∃ characteristic, serial.writeCharacteristic = some characteristic := by
  simp only [bluetoothIsReady, Bool.and_eq_true, beq_iff_eq, Option.isSome_iff_exists, and_assoc]

theorem sendMessageToDevice_ready {serial : BluetoothSerial P}
    (ready : serial.bluetoothIsReady = true) (message : String) :
    ∃ peripheral characteristic, serial.connectedPeripheral = some peripheral ∧
      serial.writeCharacteristic = some characteristic ∧
      serial.sendMessageToDevice message = some
        { peripheral := peripheral
          data := message.toUTF8.data.toList
          characteristic := characteristic
          type := serial.writeType } := by
  obtain ⟨_, ⟨peripheral, connected⟩, characteristic, remembered⟩ := bluetoothIsReady_iff.mp ready
  refine ⟨peripheral, characteristic, connected, remembered, ?_⟩
  simp only [sendMessageToDevice, ready, if_true, connected, remembered]

theorem remember_frame (serial : BluetoothSerial P) (found : List (CBCharacteristic P)) :
    (found.foldl remember serial).state = serial.state ∧
      (found.foldl remember serial).connectedPeripheral = serial.connectedPeripheral := by
  induction found generalizing serial with
  | nil => exact ⟨rfl, rfl⟩
  | cons characteristic found ih =>
    obtain ⟨state, connected⟩ := ih (remember serial characteristic)
    rw [List.foldl_cons, state, connected]
    unfold remember
    split <;> exact ⟨rfl, rfl⟩

theorem remember_cases (serial : BluetoothSerial P) (found : List (CBCharacteristic P)) :
    ((∀ characteristic ∈ found, characteristic.uuid ≠ characteristicUUID) ∧
      (found.foldl remember serial).writeCharacteristic = serial.writeCharacteristic) ∨
    ∃ characteristic ∈ found, characteristic.uuid = characteristicUUID ∧
      (found.foldl remember serial).writeCharacteristic = some characteristic := by
  induction found generalizing serial with
  | nil => exact .inl ⟨nofun, rfl⟩
  | cons characteristic found ih =>
    rw [List.foldl_cons]
    rcases ih (remember serial characteristic) with ⟨unmatched, kept⟩ | ⟨later, member, same, held⟩
    · by_cases matching : characteristic.uuid = characteristicUUID
      · right
        refine ⟨characteristic, List.mem_cons_self .., matching, ?_⟩
        rw [kept, remember, if_pos matching]
      · left
        refine ⟨List.forall_mem_cons.mpr ⟨matching, unmatched⟩, ?_⟩
        rw [kept, remember, if_neg matching]
    · exact .inr ⟨later, List.mem_cons_of_mem _ member, same, held⟩

end BluetoothSerial

end RockYou.App

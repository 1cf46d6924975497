import Mathlib
import RockYou.App.Bluetooth

namespace RockYou.App

structure ScannedPeripheral (P F : Type) where
  peripheral : P
  RSSI : F

variable {P I N F : Type}

/-- The calls of the delegate for the peripherals that are already connected. -/
def BluetoothSerial.startScan (peripherals : List P) (serial : BluetoothSerial P) :
    List (P × Option N) :=
  if serial.state = .poweredOn then peripherals.map fun peripheral => (peripheral, none) else []

inductive Discovery (P N : Type) where
  | startScan (serial : BluetoothSerial P) (peripherals : List P)
  | didDiscover (peripheral : P) (RSSI : N)

def Discovery.calls : Discovery P N → List (P × Option N)
  | .startScan serial peripherals => serial.startScan peripherals
  | .didDiscover peripheral RSSI => [(peripheral, some RSSI)]

variable [DecidableEq I] [LinearOrder F] [Zero F] (identifier : P → I) (floatValue : N → F)

def serialDidDiscoverPeripheral (peripheralList : List (ScannedPeripheral P F))
    (call : P × Option N) : List (ScannedPeripheral P F) :=
  let (peripheral, RSSI) := call
  if ∃ existing ∈ peripheralList, identifier existing.peripheral = identifier peripheral then
    peripheralList
  else
    let fRSSI := (RSSI.map floatValue).getD 0
    let row : ScannedPeripheral P F := { peripheral := peripheral, RSSI := fRSSI }
    -- `sort` is stable: of two rows the later one comes first only when its RSSI is less.
    (peripheralList ++ [row]).mergeSort fun left right => ¬ right.RSSI < left.RSSI

def peripheralList (events : List (Discovery P N)) : List (ScannedPeripheral P F) :=
  (events.flatMap Discovery.calls).foldl (serialDidDiscoverPeripheral identifier floatValue) []

end RockYou.App

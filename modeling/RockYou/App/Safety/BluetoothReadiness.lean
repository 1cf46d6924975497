import RockYou.App.Bluetooth
import RockYou.Library.Machine

namespace RockYou.App.Safety

open BluetoothSerial

variable {P : Type}

/-- The serial with what the framework knows: the links that are up, the connections asked for,
    and the searches that are not answered yet. -/
structure Central (P : Type) where
  serial : BluetoothSerial P
  links : P → Bool
  connecting : P → Bool
  serviceSearches : List P
  characteristicSearches : List (P × String)

def Central.initial : Central P where
  serial := .initial
  links := fun _ => false
  connecting := fun _ => false
  serviceSearches := []
  characteristicSearches := []

inductive CentralEvent (P : Type) where
  | connectToPeripheral (peripheral : P)
  | didUpdateState (state : CBManagerState)
  | didConnect (peripheral : P)
  | linkLost (peripheral : P)
  | didDiscoverServices (peripheral : P) (services : Option (List String))
  | didDiscoverCharacteristicsFor (peripheral : P) (service : String)
      (characteristics : Option (List (CBCharacteristic P)))
  | characteristicsReleased (peripheral : P)

variable [DecidableEq P]

/-- `writeCharacteristic` is weak: it is cleared when the framework drops the object. -/
def releaseCharacteristics (peripheral : P) (serial : BluetoothSerial P) : BluetoothSerial P :=
  { serial with
    writeCharacteristic := serial.writeCharacteristic.filter fun characteristic =>
      characteristic.peripheral ≠ peripheral }

/-- An event with its callback, in any order in which the framework can deliver them: a
    connection answers a request, a discovery answers a search, also when the link is gone; no
    callback handles a lost link. -/
def Occurs (central : Central P) : CentralEvent P → Central P → Prop
  | .connectToPeripheral peripheral, next =>
    next = { central with
      serial := central.serial.connectToPeripheral peripheral
      connecting := Function.update central.connecting peripheral true }
  | .didUpdateState state, next =>
    next = { central with
      serial := centralManagerDidUpdateState { central.serial with state := state }
      links := fun peripheral => central.links peripheral && state == .poweredOn
      connecting := fun peripheral => central.connecting peripheral && state == .poweredOn }
  | .didConnect peripheral, next =>
    central.serial.state = .poweredOn ∧ central.connecting peripheral = true ∧
      next = { central with
        serial := central.serial.didConnect peripheral
        links := Function.update central.links peripheral true
        connecting := Function.update central.connecting peripheral false
        serviceSearches := central.serviceSearches ++ [peripheral] }
  | .linkLost peripheral, next =>
    central.links peripheral = true ∧
      next = { central with links := Function.update central.links peripheral false }
  | .didDiscoverServices peripheral services, next =>
    peripheral ∈ central.serviceSearches ∧
      ∃ searched, didDiscoverServices services = some searched ∧
        next = { central with
          serviceSearches := central.serviceSearches.erase peripheral
          characteristicSearches :=
            central.characteristicSearches ++ searched.map fun service => (peripheral, service) }
  | .didDiscoverCharacteristicsFor peripheral service characteristics, next =>
    (peripheral, service) ∈ central.characteristicSearches ∧
      (∀ found, characteristics = some found → ∀ characteristic ∈ found,
        characteristic.peripheral = peripheral) ∧
      ∃ serial, didDiscoverCharacteristicsFor characteristics central.serial = some serial ∧
        next = { central with
          serial := serial
          characteristicSearches := central.characteristicSearches.erase (peripheral, service) }
  | .characteristicsReleased peripheral, next =>
    next = { central with serial := releaseCharacteristics peripheral central.serial }

def ReadySound (central : Central P) : Prop :=
  central.serial.bluetoothIsReady = true → ∃ peripheral characteristic,
    central.serial.connectedPeripheral = some peripheral ∧ central.links peripheral = true ∧
      central.serial.writeCharacteristic = some characteristic ∧
      characteristic.peripheral = peripheral

/-- The event leaves no characteristic without its link: no other peripheral connects while one is
    remembered, the link of the connected one is not lost while one is remembered, and one is
    found only for the connected peripheral, over its link. -/
def KeepsReady (central : Central P) : CentralEvent P → Prop
  | .didConnect peripheral => ∀ characteristic,
    central.serial.writeCharacteristic = some characteristic →
      characteristic.peripheral = peripheral
  | .linkLost peripheral =>
    central.serial.connectedPeripheral = some peripheral →
      central.serial.writeCharacteristic = none
  | .didDiscoverCharacteristicsFor peripheral _ characteristics =>
    (∃ found, characteristics = some found ∧ ∃ characteristic ∈ found,
      characteristic.uuid = characteristicUUID) →
      ∀ connected, central.serial.connectedPeripheral = some connected →
        connected = peripheral ∧ central.links peripheral = true
  | _ => True

def Tight (central : Central P) : Prop :=
  ∀ peripheral characteristic, central.serial.connectedPeripheral = some peripheral →
    central.serial.writeCharacteristic = some characteristic →
      central.links peripheral = true ∧ characteristic.peripheral = peripheral

def Powered (central : Central P) : Prop :=
  ∀ peripheral, central.serial.connectedPeripheral = some peripheral →
    central.serial.state = .poweredOn

omit [DecidableEq P] in
theorem readySound_iff {central : Central P} (powered : Powered central) :
    ReadySound central ↔ Tight central := by
  constructor
  · intro sound peripheral characteristic connected remembered
    have ready : central.serial.bluetoothIsReady = true :=
      bluetoothIsReady_iff.mpr ⟨powered peripheral connected, ⟨_, connected⟩, _, remembered⟩
    obtain ⟨other, found, same, up, held, owner⟩ := sound ready
    rw [connected, Option.some.injEq] at same
    rw [remembered, Option.some.injEq] at held
    rw [same, held]
    exact ⟨up, owner⟩
  · intro tight ready
    obtain ⟨_, ⟨peripheral, connected⟩, characteristic, remembered⟩ := bluetoothIsReady_iff.mp ready
    obtain ⟨up, owner⟩ := tight peripheral characteristic connected remembered
    exact ⟨peripheral, characteristic, connected, up, remembered, owner⟩

theorem occurs_powered {central next : Central P} {event : CentralEvent P}
    (powered : Powered central) (occurred : Occurs central event next) : Powered next := by
  cases event with
  | connectToPeripheral peripheral =>
    cases occurred
    exact powered
  | didUpdateState state =>
    cases occurred
    exact nofun
  | didConnect peripheral =>
    obtain ⟨on, _, rfl⟩ := occurred
    exact fun _ _ => on
  | linkLost peripheral =>
    obtain ⟨_, rfl⟩ := occurred
    exact powered
  | didDiscoverServices peripheral services =>
    obtain ⟨_, _, _, rfl⟩ := occurred
    exact powered
  | didDiscoverCharacteristicsFor peripheral service characteristics =>
    obtain ⟨_, _, serial, discovered, rfl⟩ := occurred
    obtain ⟨found, _, rfl⟩ := Option.map_eq_some_iff.mp discovered
    obtain ⟨state, connected⟩ := remember_frame central.serial found
    intro peripheral same
    exact state.trans (powered peripheral (connected.symm.trans same))
  | characteristicsReleased peripheral =>
    cases occurred
    exact powered

theorem didConnect_tight {central : Central P} {peripheral : P} {links : P → Bool}
    {searches : List P} {connecting : P → Bool} :
    Tight { central with
      serial := central.serial.didConnect peripheral
      links := Function.update links peripheral true
      connecting := connecting
      serviceSearches := searches } ↔ KeepsReady central (.didConnect peripheral) := by
  constructor
  · intro tight characteristic remembered
    exact (tight peripheral characteristic rfl remembered).2
  · intro keeps other characteristic connected remembered
    have same : peripheral = other := Option.some.inj connected
    subst same
    exact ⟨Function.update_self .., keeps characteristic remembered⟩

theorem linkLost_tight {central : Central P} (tight : Tight central) (peripheral : P) :
    Tight { central with links := Function.update central.links peripheral false } ↔
      KeepsReady central (.linkLost peripheral) := by
  constructor
  · intro after connected
    cases remembered : central.serial.writeCharacteristic with
    | none => rfl
    | some characteristic =>
      have up : Function.update central.links peripheral false peripheral = true :=
        (after peripheral characteristic connected remembered).1
      rw [Function.update_self] at up
      cases up
  · intro keeps other characteristic connected remembered
    obtain ⟨up, owner⟩ := tight other characteristic connected remembered
    have different : other ≠ peripheral := by
      intro same
      rw [same] at connected
      rw [keeps connected] at remembered
      cases remembered
    exact ⟨(Function.update_of_ne different ..).trans up, owner⟩

omit [DecidableEq P] in
theorem discovered_tight {central : Central P} (tight : Tight central) {peripheral : P}
    (service : String) {found : List (CBCharacteristic P)} {searches : List (P × String)}
    (owned : ∀ characteristic ∈ found, characteristic.peripheral = peripheral) :
    Tight { central with
      serial := found.foldl remember central.serial
      characteristicSearches := searches } ↔
        KeepsReady central (.didDiscoverCharacteristicsFor peripheral service (some found)) := by
  have connection := (remember_frame central.serial found).2
  rcases remember_cases central.serial found with
    ⟨unmatched, kept⟩ | ⟨characteristic, member, matching, held⟩
  · constructor
    · intro _ matched
      obtain ⟨listed, same, characteristic, member, matching⟩ := matched
      cases same
      exact absurd matching (unmatched characteristic member)
    · intro _ other characteristic connected remembered
      exact tight other characteristic (connection.symm.trans connected)
        (kept.symm.trans remembered)
  · constructor
    · intro after _ connected same
      obtain ⟨up, owner⟩ := after connected characteristic (connection.trans same) held
      have equal : connected = peripheral := owner.symm.trans (owned characteristic member)
      rw [equal] at up
      exact ⟨equal, up⟩
    · intro keeps other remembered connected same
      obtain ⟨equal, up⟩ :=
        keeps ⟨found, rfl, characteristic, member, matching⟩ other (connection.symm.trans connected)
      have latest : characteristic = remembered := Option.some.inj (held.symm.trans same)
      rw [equal, ← latest]
      exact ⟨up, owned characteristic member⟩

theorem occurs_tight {central next : Central P} {event : CentralEvent P} (tight : Tight central)
    (occurred : Occurs central event next) : Tight next ↔ KeepsReady central event := by
  cases event with
  | connectToPeripheral peripheral =>
    cases occurred
    exact iff_of_true tight True.intro
  | didUpdateState state =>
    cases occurred
    exact iff_of_true nofun True.intro
  | didConnect peripheral =>
    obtain ⟨_, _, rfl⟩ := occurred
    exact didConnect_tight
  | linkLost peripheral =>
    obtain ⟨_, rfl⟩ := occurred
    exact linkLost_tight tight peripheral
  | didDiscoverServices peripheral services =>
    obtain ⟨_, _, _, rfl⟩ := occurred
    exact iff_of_true tight True.intro
  | didDiscoverCharacteristicsFor peripheral service characteristics =>
    obtain ⟨_, owned, serial, discovered, rfl⟩ := occurred
    obtain ⟨found, listed, rfl⟩ := Option.map_eq_some_iff.mp discovered
    subst listed
    exact discovered_tight tight service (owned found rfl)
  | characteristicsReleased peripheral =>
    cases occurred
    refine iff_of_true ?_ True.intro
    intro other characteristic connected remembered
    exact tight other characteristic connected (Option.filter_eq_some_iff.mp remembered).1

/-- The serial stays sound through a run exactly when every event of the run keeps it ready. -/
theorem ready_sound_iff (events : List (CentralEvent P)) (central : Central P) :
    Machine.Path (Machine.restrict Occurs fun _ _ next => ReadySound next) .initial events central ↔
      Machine.Path (Machine.restrict Occurs fun before event _ => KeepsReady before event) .initial
        events central := by
  apply Machine.Path.restrict_iff (fun central : Central P => Powered central ∧ Tight central)
  · intro before event next invariant occurred
    rw [readySound_iff (occurs_powered invariant.1 occurred)]
    exact occurs_tight invariant.2 occurred
  · intro before event next invariant occurred sound
    have powered := occurs_powered invariant.1 occurred
    exact ⟨powered, (readySound_iff powered).mp sound⟩
  · exact ⟨nofun, nofun⟩

def lockCharacteristic : CBCharacteristic Nat := ⟨0, characteristicUUID, true⟩

/-- No callback hears of a lost link: the serial still counts as ready. -/
theorem ready_after_link_loss :
    ¬ ∀ (events : List (CentralEvent Nat)) (central : Central Nat),
      Machine.Path Occurs .initial events central → ReadySound central := by
  intro sound
  have path : Machine.Path Occurs .initial
      [.didUpdateState .poweredOn, .connectToPeripheral 0, .didConnect 0,
        .didDiscoverServices 0 (some [serviceUUID]),
        .didDiscoverCharacteristicsFor 0 serviceUUID (some [lockCharacteristic]), .linkLost 0] _ :=
    .cons rfl (.cons rfl (.cons ⟨rfl, rfl, rfl⟩ (.cons ⟨by decide, _, rfl, rfl⟩
      (.cons ⟨by decide, by simp [lockCharacteristic], _, rfl, rfl⟩ (.cons ⟨rfl, rfl⟩ .nil)))))
  obtain ⟨peripheral, _, connected, up, _⟩ := sound _ _ path (by decide)
  have same : 0 = peripheral := Option.some.inj connected
  rw [← same] at up
  cases up

end RockYou.App.Safety

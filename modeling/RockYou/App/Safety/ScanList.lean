import RockYou.App.Scan
import RockYou.Library.Ranking

namespace RockYou.App.Safety

open Ranking

variable {P I N F : Type} [DecidableEq I] [LinearOrder F] [Zero F]

def firstRow (floatValue : N → F) (call : P × Option N) : ScannedPeripheral P F where
  peripheral := call.1
  RSSI := (call.2.map floatValue).getD 0

def label (identifier : P → I) (row : ScannedPeripheral P F) : I := identifier row.peripheral

variable (identifier : P → I) (floatValue : N → F)

theorem serialDidDiscoverPeripheral_enlists (rows : List (ScannedPeripheral P F))
    (call : P × Option N) :
    serialDidDiscoverPeripheral identifier floatValue rows call =
      enlist (label identifier) ScannedPeripheral.RSSI rows (firstRow floatValue call) := by
  simp only [serialDidDiscoverPeripheral, enlist, label, firstRow, List.mem_map, not_lt]

theorem peripheralList_ranks (events : List (Discovery P N)) :
    peripheralList identifier floatValue events =
      enlistAll (label identifier) ScannedPeripheral.RSSI []
        ((events.flatMap Discovery.calls).map (firstRow floatValue)) := by
  have enlists : serialDidDiscoverPeripheral identifier floatValue =
      fun rows call => enlist (label identifier) ScannedPeripheral.RSSI rows
        (firstRow floatValue call) := by
    funext rows call
    exact serialDidDiscoverPeripheral_enlists identifier floatValue rows call
  rw [peripheralList, enlistAll, List.foldl_map, enlists]

omit [LinearOrder F] in
theorem find_firstRow (calls : List (P × Option N)) (id : I) :
    (calls.map (firstRow floatValue)).find? (fun row => label identifier row = id) =
      (calls.find? fun call => identifier call.1 = id).map (firstRow floatValue) :=
  List.find?_map ..

/-- An event that discovers a peripheral, with the strength counted for it: an advertisement, or the
    start of a scan with the radio on, which finds the connected ones without a strength. -/
inductive Discovers : Discovery P N → P → F → Prop where
  | advertised (peripheral : P) (RSSI : N) :
      Discovers (.didDiscover peripheral RSSI) peripheral (floatValue RSSI)
  | connected {serial : BluetoothSerial P} {peripherals : List P} {peripheral : P}
      (on : serial.state = .poweredOn) (member : peripheral ∈ peripherals) :
      Discovers (.startScan serial peripherals) peripheral 0

def Discovered (id : I) (events : List (Discovery P N)) : Prop :=
  ∃ event ∈ events, ∃ peripheral RSSI, Discovers floatValue event peripheral RSSI ∧
    identifier peripheral = id

def discoveriesOf (id : I) : Discovery P N → List (P × Option N)
  | .didDiscover peripheral RSSI =>
    if identifier peripheral = id then [(peripheral, some RSSI)] else []
  | .startScan serial peripherals =>
    if serial.state = .poweredOn then
      (peripherals.filter fun peripheral => identifier peripheral = id).map (·, none)
    else []

/-- The events in another order, each peripheral's own ones in theirs. -/
def Reorders (events reordered : List (Discovery P N)) : Prop :=
  ∀ id, reordered.flatMap (discoveriesOf identifier id) =
    events.flatMap (discoveriesOf identifier id)

omit [DecidableEq I] [LinearOrder F] in
theorem discovers_iff {event : Discovery P N} {peripheral : P} {RSSI : F} :
    Discovers floatValue event peripheral RSSI ↔
      ∃ call ∈ event.calls, firstRow floatValue call = ⟨peripheral, RSSI⟩ := by
  cases event with
  | didDiscover other strength =>
    constructor
    · rintro ⟨⟩
      exact ⟨_, List.mem_singleton_self _, rfl⟩
    · rintro ⟨call, member, same⟩
      rw [List.mem_singleton.mp member] at same
      cases same
      exact .advertised ..
  | startScan serial peripherals =>
    constructor
    · rintro (_ | ⟨on, member⟩)
      refine ⟨(peripheral, none), ?_, rfl⟩
      rw [Discovery.calls, BluetoothSerial.startScan, if_pos on]
      exact List.mem_map_of_mem member
    · rintro ⟨call, member, same⟩
      rw [Discovery.calls, BluetoothSerial.startScan] at member
      split at member
      · next on =>
        obtain ⟨other, listed, rfl⟩ := List.mem_map.mp member
        cases same
        exact .connected on listed
      · cases member

omit [DecidableEq I] [LinearOrder F] in
theorem discovered_iff {id : I} {events : List (Discovery P N)} :
    Discovered identifier floatValue id events ↔
      ∃ call ∈ events.flatMap Discovery.calls, identifier call.1 = id := by
  constructor
  · rintro ⟨event, member, peripheral, RSSI, discovers, same⟩
    obtain ⟨call, called, row⟩ := (discovers_iff floatValue).mp discovers
    have own : call.1 = peripheral := congrArg ScannedPeripheral.peripheral row
    exact ⟨call, List.mem_flatMap.mpr ⟨event, member, called⟩, by rw [own, same]⟩
  · rintro ⟨call, member, same⟩
    obtain ⟨event, listed, called⟩ := List.mem_flatMap.mp member
    exact ⟨event, listed, call.1, _, (discovers_iff floatValue).mpr ⟨call, called, rfl⟩, same⟩

omit [LinearOrder F] [Zero F] in
theorem calls_filter (id : I) (event : Discovery P N) :
    event.calls.filter (fun call => identifier call.1 = id) = discoveriesOf identifier id event := by
  cases event with
  | didDiscover peripheral RSSI =>
    rw [Discovery.calls, discoveriesOf, List.filter_singleton]
    by_cases same : identifier peripheral = id <;> simp [same]
  | startScan serial peripherals =>
    rw [Discovery.calls, discoveriesOf, BluetoothSerial.startScan]
    split
    · exact List.filter_map ..
    · rfl

theorem mem_peripheralList (events : List (Discovery P N)) (row : ScannedPeripheral P F) :
    row ∈ peripheralList identifier floatValue events ↔
      ((events.flatMap Discovery.calls).find? fun call =>
        identifier call.1 = identifier row.peripheral).map (firstRow floatValue) = some row := by
  rw [peripheralList_ranks, mem_enlistAll, find_firstRow, List.map_nil]
  simp only [List.not_mem_nil, not_false_eq_true, true_and, false_or]
  rfl

theorem mem_identifiers (events : List (Discovery P N)) (id : I) :
    id ∈ (peripheralList identifier floatValue events).map (label identifier) ↔
      Discovered identifier floatValue id events := by
  rw [discovered_iff]
  constructor
  · intro member
    obtain ⟨row, listed, same⟩ := List.mem_map.mp member
    obtain ⟨call, first, shown⟩ :=
      Option.map_eq_some_iff.mp ((mem_peripheralList identifier floatValue events row).mp listed)
    refine ⟨call, List.mem_of_find?_eq_some first, ?_⟩
    rw [← same, ← shown]
    rfl
  · intro ⟨call, member, same⟩
    have found : ((events.flatMap Discovery.calls).find?
        fun call => identifier call.1 = id).isSome :=
      List.find?_isSome.mpr ⟨call, member, by simpa using same⟩
    obtain ⟨first, located⟩ := Option.isSome_iff_exists.mp found
    have own : identifier first.1 = id := by simpa using List.find?_some located
    refine List.mem_map.mpr ⟨firstRow floatValue first, ?_, own⟩
    rw [mem_peripheralList]
    change ((events.flatMap Discovery.calls).find? fun call =>
      identifier call.1 = identifier first.1).map (firstRow floatValue) = _
    rw [own, located, Option.map_some]

theorem row_first {events : List (Discovery P N)} {row : ScannedPeripheral P F}
    (listed : row ∈ peripheralList identifier floatValue events) :
    ∃ before event after, events = before ++ event :: after ∧
      ¬ Discovered identifier floatValue (identifier row.peripheral) before ∧
      Discovers floatValue event row.peripheral row.RSSI := by
  rw [mem_peripheralList, Option.map_eq_some_iff] at listed
  obtain ⟨call, found, shown⟩ := listed
  rw [List.find?_flatMap, List.findSome?_eq_some_iff] at found
  obtain ⟨before, event, after, whole, located, silent⟩ := found
  refine ⟨before, event, after, whole, ?_, ?_⟩
  · rw [discovered_iff]
    rintro ⟨other, member, same⟩
    obtain ⟨earlier, inside, called⟩ := List.mem_flatMap.mp member
    have none := List.find?_eq_none.mp (silent earlier inside) other called
    exact none (by simpa using same)
  · exact (discovers_iff floatValue).mpr ⟨call, List.mem_of_find?_eq_some located, shown⟩

theorem reorders_find {events reordered : List (Discovery P N)}
    (same : Reorders identifier events reordered) (id : I) :
    (reordered.flatMap Discovery.calls).find? (fun call => identifier call.1 = id) =
      (events.flatMap Discovery.calls).find? (fun call => identifier call.1 = id) := by
  have calls (list : List (Discovery P N)) :
      (list.flatMap Discovery.calls).filter (fun call => identifier call.1 = id) =
        list.flatMap (discoveriesOf identifier id) := by
    rw [List.filter_flatMap, ← funext (calls_filter identifier id)]
  rw [← List.head?_filter, ← List.head?_filter, calls, calls, same id]

/-- After any discoveries the list holds each discovered peripheral once, with the RSSI of its first
    discovery, by increasing RSSI; another order of the discoveries permutes rows of equal RSSI. -/
theorem peripheralList_correct (events : List (Discovery P N)) :
    ((peripheralList identifier floatValue events).map (label identifier)).Nodup ∧
    (∀ id, id ∈ (peripheralList identifier floatValue events).map (label identifier) ↔
      Discovered identifier floatValue id events) ∧
    (∀ row ∈ peripheralList identifier floatValue events,
      ∃ before event after, events = before ++ event :: after ∧
        ¬ Discovered identifier floatValue (identifier row.peripheral) before ∧
        Discovers floatValue event row.peripheral row.RSSI) ∧
    (peripheralList identifier floatValue events).Pairwise
      (fun left right => left.RSSI ≤ right.RSSI) ∧
    ∀ reordered, Reorders identifier events reordered →
      (peripheralList identifier floatValue reordered).Perm
          (peripheralList identifier floatValue events) ∧
        (peripheralList identifier floatValue reordered).map ScannedPeripheral.RSSI =
          (peripheralList identifier floatValue events).map ScannedPeripheral.RSSI := by
  refine ⟨?_, mem_identifiers identifier floatValue events, ?_, ?_, ?_⟩
  · rw [peripheralList_ranks]
    exact enlistAll_keys_nodup (by simp) _
  · intro row listed
    exact row_first identifier floatValue listed
  · rw [peripheralList_ranks]
    exact enlistAll_ranked .nil _
  · intro reordered same
    rw [peripheralList_ranks, peripheralList_ranks]
    apply enlistAll_reorder
    intro id
    rw [find_firstRow, find_firstRow, reorders_find identifier same]

def poweredOn : BluetoothSerial Nat := { BluetoothSerial.initial with state := .poweredOn }

theorem peripheralList_correct_two :
    (peripheralList (F := Int) id id
        [.didDiscover 3 (-60), .startScan poweredOn [7], .didDiscover 3 (-40)]).Perm
      (peripheralList id id
        [.startScan poweredOn [7], .didDiscover 3 (-60), .didDiscover 3 (-40)]) := by
  have both := peripheralList_correct (F := Int) (id : Nat → Nat) (id : Int → Int)
    [.startScan poweredOn [7], .didDiscover 3 (-60), .didDiscover 3 (-40)]
  refine (both.2.2.2.2 _ ?_).1
  intro label
  have on : poweredOn.state = .poweredOn := rfl
  by_cases three : 3 = label
  · subst three
    simp [discoveriesOf, on]
  · by_cases seven : 7 = label <;> simp [discoveriesOf, on, three, seven]

end RockYou.App.Safety

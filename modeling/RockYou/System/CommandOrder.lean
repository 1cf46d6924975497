import Mathlib
import RockYou.App.Safety.BluetoothReadiness
import RockYou.Library.Channel
import RockYou.System.CommandDelivery

namespace RockYou.System

open App App.Safety Firmware Machine Path

section Reading

def parity (command : LockCmd) : Nat := command.code.toNat % 2

theorem parity_injective : Function.Injective parity := by
  intro command other same
  cases command <;> cases other
  · rfl
  · exact absurd same (by decide)
  · exact absurd same (by decide)
  · rfl

/-- A number has the parity of its last digit, also after an overflow. -/
theorem accumulated_parity (value : BitVec 32) (command : LockCmd) :
    (value * 10 + BitVec.ofNat 32 (digitValue (digit command))).toNat % 2 = parity command := by
  have ten : (10 : BitVec 32).toNat = 10 := rfl
  rw [digit_code, BitVec.toNat_add, BitVec.toNat_mul, ten, parity]
  omega

def Letter (c : UInt8) : Prop := isDigit c = false ∧ c ≠ minus

instance : DecidablePred Letter := fun c => inferInstanceAs (Decidable (isDigit c = false ∧ c ≠ minus))

def commandOf (c : UInt8) : Option LockCmd :=
  if c = digit .open then some .open else if c = digit .close then some .close else none

def heard (pending : List (Nat × UInt8)) : List LockCmd :=
  pending.filterMap fun byte => commandOf byte.2

theorem commandOf_digit (command : LockCmd) : commandOf (digit command) = some command := by
  cases command <;> rfl

theorem commandOf_letter {c : UInt8} (letter : Letter c) : commandOf c = none := by
  have other (command : LockCmd) : c ≠ digit command := by
    rintro rfl
    rw [Letter, digit_isDigit] at letter
    cases letter.1
  rw [commandOf, if_neg (other _), if_neg (other _)]

theorem heard_append (left right : List (Nat × UInt8)) :
    heard (left ++ right) = heard left ++ heard right := List.filterMap_append

theorem heard_digit (arrival : Nat) (command : LockCmd) (later : List (Nat × UInt8)) :
    heard ((arrival, digit command) :: later) = command :: heard later :=
  List.filterMap_cons_some (commandOf_digit command)

theorem heard_letters {text : List (Nat × UInt8)} (letters : ∀ byte ∈ text, Letter byte.2) :
    heard text = [] :=
  List.filterMap_eq_nil_iff.mpr fun byte member => commandOf_letter (letters byte member)

/-- What may wait at the port of a receiver that listens to these commands: commands, and letters
    where it does not listen to OPEN, for which a parser that finds no number takes them. -/
def Legible (hears : LockCmd → Bool) (c : UInt8) : Prop :=
  (∃ command, c = digit command) ∨ (Letter c ∧ hears .open = false)

variable {hears : LockCmd → Bool} {pending : List (Nat × UInt8)}

theorem readDigits_parity (now : Nat) {value : BitVec 32} {last : LockCmd}
    (start : value.toNat % 2 = parity last)
    (legible : ∀ byte ∈ pending, Legible hears byte.2) :
    ∃ read, pending = read ++ (readDigits now value pending).2.pending ∧
      (readDigits now value pending).1.toNat % 2 = parity ((heard read).getLastD last) := by
  induction pending generalizing now value last with
  | nil => exact ⟨[], rfl, start⟩
  | cons byte pending ih =>
    obtain ⟨arrival, c⟩ := byte
    by_cases timely : arrival < now + streamTimeout
    · rcases legible _ List.mem_cons_self with ⟨command, same⟩ | ⟨letter, _⟩
      · obtain rfl : c = digit command := same
        obtain ⟨read, split, kept⟩ := ih (max now arrival) (accumulated_parity value command)
          fun byte member => legible byte (List.mem_cons_of_mem _ member)
        rw [readDigits_digit timely]
        refine ⟨(arrival, digit command) :: read, congrArg _ split, ?_⟩
        rw [kept, heard_digit, List.getLastD_cons]
      · have step : readDigits now value ((arrival, c) :: pending) =
            (value, ⟨max now arrival, (arrival, c) :: pending⟩) := by
          have other : ¬ isDigit c = true := by
            rw [letter.1]
            exact Bool.false_ne_true
          rw [readDigits, if_pos timely, if_neg other]
        rw [step]
        exact ⟨[], rfl, start⟩
    · rw [readDigits_late timely]
      exact ⟨[], rfl, start⟩

theorem parseInt_late {now : Nat} {byte : Nat × UInt8} (late : ¬ byte.1 < now + streamTimeout) :
    Port.parseInt ⟨now, byte :: pending⟩ = (0, ⟨now + streamTimeout, byte :: pending⟩) := by
  rw [Port.parseInt, peekNextDigit, if_neg late]

theorem parseInt_letter {now arrival : Nat} {c : UInt8} (timely : arrival < now + streamTimeout)
    (letter : Letter c) :
    Port.parseInt ⟨now, (arrival, c) :: pending⟩ = Port.parseInt ⟨max now arrival, pending⟩ := by
  have skipped : ¬ (c = minus ∨ isDigit c = true) := by
    rw [letter.1]
    simpa using letter.2
  rw [Port.parseInt, peekNextDigit, if_pos timely, if_neg skipped, Port.parseInt]

theorem zero_code {command : LockCmd} (zero : 0 = command.code) : command = .open := by
  cases command with
  | «open» => rfl
  | close => exact absurd zero (by decide)

/-- A command that the parser understands is the last one that it has read, or it is OPEN and the
    first byte is a letter. -/
theorem parseInt_last (now : Nat) (legible : ∀ byte ∈ pending, Legible hears byte.2) :
    ∃ read, pending = read ++ (Port.parseInt ⟨now, pending⟩).2.pending ∧
      ∀ command : LockCmd, (Port.parseInt ⟨now, pending⟩).1 = command.code →
        command ∈ heard read ∨ (command = .open ∧
          ∀ byte ∈ pending.head?, byte.1 < now + streamTimeout → Letter byte.2) := by
  induction pending generalizing now with
  | nil => exact ⟨[], rfl, fun command zero => .inr ⟨zero_code zero, nofun⟩⟩
  | cons byte pending ih =>
    obtain ⟨arrival, c⟩ := byte
    have rest : ∀ byte ∈ pending, Legible hears byte.2 := fun byte member =>
      legible byte (List.mem_cons_of_mem _ member)
    by_cases timely : arrival < now + streamTimeout
    · rcases legible _ List.mem_cons_self with ⟨first, same⟩ | ⟨letter, _⟩
      · obtain rfl : c = digit first := same
        have start : first.code.toNat % 2 = parity first := rfl
        obtain ⟨read, split, kept⟩ := readDigits_parity (max now arrival) start rest
        rw [parseInt_digit timely]
        refine ⟨(arrival, digit first) :: read, congrArg _ split, fun command understood => ?_⟩
        rw [understood] at kept
        rw [heard_digit, parity_injective kept]
        exact .inl List.getLastD_mem_cons
      · obtain ⟨read, split, understood⟩ := ih (max now arrival) rest
        rw [parseInt_letter timely letter]
        refine ⟨(arrival, c) :: read, congrArg _ split, fun command received => ?_⟩
        have skipped : heard ((arrival, c) :: read) = heard read :=
          List.filterMap_cons_none (commandOf_letter letter)
        rw [skipped]
        rcases understood command received with inside | ⟨opening, _⟩
        · exact .inl inside
        · refine .inr ⟨opening, fun byte first _ => ?_⟩
          cases first
          exact letter
    · rw [parseInt_late timely]
      refine ⟨[], rfl, fun command zero => .inr ⟨zero_code zero, fun byte first early => ?_⟩⟩
      cases first
      exact absurd early timely

theorem getCmdFromBLE_last {F : Type} (now : Nat)
    (legible : ∀ byte ∈ pending, Legible hears byte.2) :
    ∃ read, pending = read ++ (getCmdFromBLE (F := F) ⟨now, pending⟩).2.1.pending ∧
      ∀ command : LockCmd, (getCmdFromBLE (F := F) ⟨now, pending⟩).1 = command.code →
        hears command = true → command ∈ heard read := by
  cases waiting : Port.available ⟨now, pending⟩ with
  | false =>
    have received : getCmdFromBLE (F := F) ⟨now, pending⟩ = (-1, ⟨now, pending⟩, []) := by
      rw [getCmdFromBLE, waiting]
      rfl
    rw [received]
    exact ⟨[], rfl, fun command sentinel _ => absurd sentinel.symm command.code_ne_sentinel⟩
  | true =>
    obtain ⟨read, split, understood⟩ := parseInt_last now legible
    have received : getCmdFromBLE (F := F) ⟨now, pending⟩ =
        ((Port.parseInt ⟨now, pending⟩).1, (Port.parseInt ⟨now, pending⟩).2,
          [.serialWrite (Port.parseInt ⟨now, pending⟩).1]) := by
      rw [getCmdFromBLE, waiting, if_pos rfl]
    rw [received]
    refine ⟨read, split, fun command same heeded => ?_⟩
    rcases understood command same with inside | ⟨rfl, letters⟩
    · exact inside
    · cases pending with
      | nil => cases waiting
      | cons byte pending =>
        have arrived : byte.1 ≤ now := by simpa [Port.available] using waiting
        have letter := letters byte rfl (timely_of_arrived arrived)
        rcases legible _ List.mem_cons_self with ⟨command, same⟩ | ⟨_, deaf⟩
        · rw [same, Letter, digit_isDigit] at letter
          cases letter.1
        · rw [deaf] at heeded
          cases heeded

end Reading

section Iteration

variable {G F : Type} [Zero F] [BEq F] [LE F] [DecidableLE F] [OfNat F 4]

theorem loopStep_order (tiny : TinyGPS G F) (input : Surroundings F × Nat) (board : Board G F)
    {hears : LockCmd → Bool} {port : Port}
    (legible : ∀ byte ∈ port.pending, Legible hears byte.2) :
    ∃ read, port.pending = read ++ (loopStep tiny (board, port) input).1.2.pending ∧
      ((executed (loopStep tiny (board, port) input).2).filter hears).Sublist
        ((heard read).filter hears) := by
  obtain ⟨read, split, understood⟩ := getCmdFromBLE_last (F := F) port.now legible
  refine ⟨read, split, ?_⟩
  rw [loopStep_events]
  rcases iteration_executed tiny (getCmdFromBLE (F := F) port).1 input.1 board with
    ⟨command, received, done, _⟩ | ⟨_, done, _⟩
  · rw [done]
    cases heeded : hears command with
    | true =>
      rw [List.filter_cons_of_pos heeded, List.filter_nil, List.singleton_sublist]
      exact List.mem_filter.mpr ⟨understood command received heeded, heeded⟩
    | false =>
      rw [List.filter_cons_of_neg (by simp [heeded])]
      exact List.nil_sublist _
  · rw [done]
    exact List.nil_sublist _

theorem executed_loopStep (tiny : TinyGPS G F) (input : Surroundings F × Nat) (board : Board G F)
    {port : Port} (command : LockCmd)
    (received : (getCmdFromBLE (F := F) port).1 = command.code) :
    executed (loopStep tiny (board, port) input).2 = [command] := by
  rw [loopStep_events, received]
  rcases iteration_executed tiny command.code input.1 board with ⟨other, same, done, _⟩ | ⟨none, _⟩
  · rw [done, parity_injective (congrArg (fun code => code.toNat % 2) same)]
  · exact absurd rfl (none command)

end Iteration

section Ride

variable {P G F : Type}

/-- A phone and the device: the commands that the app has written, the bytes on their way to the
    device, and what the device has done. -/
structure Ride (P G F : Type) where
  central : Central P
  board : Board G F
  port : Port
  written : List LockCmd
  events : List (Event F)

inductive RideMove (P F : Type) where
  | link (event : CentralEvent P)
  | tap (command : LockCmd) (arrival : Option Nat)
  | chatter (text : List (Nat × UInt8))
  | loop (around : Surroundings F) (elapsed : Nat)
  | restart (value : ValueClass F)

def Ride.start (central : Central P) (board : Board G F) (now : Nat) : Ride P G F where
  central := central
  board := board
  port := ⟨now, []⟩
  written := []
  events := []

variable [DecidableEq P]

def transmitted (bicycle : P) (central : Central P) (arrival : Option Nat) (write : WriteValue P) :
    List (Nat × UInt8) :=
  if write.peripheral = bicycle ∧ central.links bicycle = true then
    arrival.toList.flatMap fun time => write.data.map fun c => (time, c)
  else []

variable [Zero F] [BEq F] [LE F] [DecidableLE F] [OfNat F 4]

/-- One step of the link, the user or the device, in any order. The Bluetooth module puts a text of
    its own on the port; a restarted device has lost the bytes that had arrived. -/
def Rides (tiny : TinyGPS G F) (bicycle : P) (ride : Ride P G F) :
    RideMove P F → Ride P G F → Prop
  | .link event, next =>
    ∃ central, Occurs ride.central event central ∧ next = { ride with central := central }
  | .tap command arrival, next =>
    next =
      match buttonDidTap command ride.central.serial with
      | none => ride
      | some write =>
        { ride with
          written := ride.written ++ [command]
          port := { ride.port with
            pending := ride.port.pending ++ transmitted bicycle ride.central arrival write } }
  | .chatter text, next =>
    next = { ride with port := { ride.port with pending := ride.port.pending ++ text } }
  | .loop around elapsed, next =>
    let looped := loopStep tiny (ride.board, ride.port) (around, elapsed)
    next = { ride with
      board := looped.1.1
      port := looped.1.2
      events := ride.events ++ looped.2 }
  | .restart value, next =>
    next = { ride with
      board := (powerUp tiny value).1
      port := { ride.port with
        pending := ride.port.pending.filter fun byte => ride.port.now < byte.1 }
      events := ride.events ++ (powerUp tiny value).2 }

/-- A ride as a channel of the commands of interest: sent when written, on their way as bytes,
    received when executed. -/
structure Represents (hears : LockCmd → Bool) (ride : Ride P G F)
    (channel : Channel.State LockCmd) : Prop where
  legible : ∀ byte ∈ ride.port.pending, Legible hears byte.2
  sent : channel.sent = ride.written.filter hears
  pending : channel.pending = (heard ride.port.pending).filter hears
  received : channel.received = (executed ride.events).filter hears

def Bears (hears : LockCmd → Bool) : RideMove P F → Prop
  | .chatter text => ∀ byte ∈ text, Letter byte.2 ∧ hears .open = false
  | _ => True

def Silent : RideMove P F → Prop
  | .chatter text => text = []
  | _ => True

/-- The module's own text, as `OK+CONN` or `OK+LOST`, has no digit and no sign. -/
def Wordy : RideMove P F → Prop
  | .chatter text => ∀ byte ∈ text, Letter byte.2
  | _ => True

def isClose : LockCmd → Bool
  | .close => true
  | .open => false

def tapped (moves : List (RideMove P F)) : List LockCmd :=
  moves.filterMap fun
    | .tap command _ => some command
    | _ => none

section Order

variable {tiny : TinyGPS G F} {bicycle : P} {ride next : Ride P G F} {move : RideMove P F}
  {moves : List (RideMove P F)}

omit [DecidableEq P] in
theorem written_data {serial : BluetoothSerial P} {command : LockCmd} {write : WriteValue P}
    (written : buttonDidTap command serial = some write) : write.data = [digit command] := by
  cases ready : serial.bluetoothIsReady with
  | false => cases command <;> simp [buttonDidTap, lockButtonDidTap, openButtonDidTap, ready] at written
  | true =>
    obtain ⟨other, tapped, data⟩ := buttonDidTap_data ready command
    rw [written, Option.some.injEq] at tapped
    rw [tapped]
    exact data

theorem mem_transmitted {central : Central P} {command : LockCmd} {write : WriteValue P}
    (written : buttonDidTap command central.serial = some write) (arrival : Option Nat) :
    ∀ byte ∈ transmitted bicycle central arrival write, byte.2 = digit command := by
  intro byte member
  unfold transmitted at member
  split at member
  · obtain ⟨time, _, sent⟩ := List.mem_flatMap.mp member
    rw [written_data written] at sent
    cases List.mem_singleton.mp sent
    rfl
  · cases member

theorem heard_transmitted {central : Central P} {command : LockCmd} {write : WriteValue P}
    (written : buttonDidTap command central.serial = some write) (arrival : Option Nat) :
    (heard (transmitted bicycle central arrival write)).Sublist [command] := by
  unfold transmitted
  split
  · rw [written_data written]
    cases arrival with
    | none => exact List.nil_sublist _
    | some time =>
      exact (heard_digit time command []).symm ▸ List.Sublist.refl [command]
  · exact List.nil_sublist _

theorem rides_channel {hears : LockCmd → Bool} {channel : Channel.State LockCmd}
    (bears : Bears hears move) (moved : Rides tiny bicycle ride move next)
    (represents : Represents hears ride channel) :
    ∃ after, Channel.Step channel after ∧ Represents hears next after := by
  obtain ⟨legible, sent, pending, received⟩ := represents
  cases move with
  | link event =>
    obtain ⟨central, _, rfl⟩ := moved
    exact ⟨channel, .idle, legible, sent, pending, received⟩
  | tap command arrival =>
    cases moved
    cases written : buttonDidTap command ride.central.serial with
    | none => exact ⟨channel, .idle, legible, sent, pending, received⟩
    | some write =>
      have both : ∀ byte ∈ ride.port.pending ++ transmitted bicycle ride.central arrival write,
          Legible hears byte.2 := by
        intro byte member
        rcases List.mem_append.mp member with waiting | arriving
        · exact legible byte waiting
        · exact .inl ⟨command, mem_transmitted written arrival byte arriving⟩
      have once : ((heard (transmitted bicycle ride.central arrival write)).filter hears).Sublist
          ([command].filter hears) := (heard_transmitted written arrival).filter hears
      cases heeded : hears command with
      | true =>
        rw [List.filter_cons_of_pos heeded, List.filter_nil] at once
        refine ⟨_, .send once, both, ?_, ?_, received⟩
        · dsimp only
          rw [sent, List.filter_append, List.filter_cons_of_pos heeded, List.filter_nil]
        · dsimp only
          rw [pending, heard_append, List.filter_append]
      | false =>
        have unheeded : ¬ hears command = true := by simp [heeded]
        rw [List.filter_cons_of_neg unheeded, List.filter_nil, List.sublist_nil] at once
        refine ⟨channel, .idle, both, ?_, ?_, received⟩
        · dsimp only
          rw [sent, List.filter_append, List.filter_cons_of_neg unheeded, List.filter_nil,
            List.append_nil]
        · dsimp only
          rw [pending, heard_append, List.filter_append, once, List.append_nil]
  | chatter text =>
    cases moved
    refine ⟨channel, .idle, ?_, sent, ?_, received⟩
    · intro byte member
      rcases List.mem_append.mp member with waiting | spoken
      · exact legible byte waiting
      · exact .inr (bears byte spoken)
    · dsimp only
      rw [pending, heard_append, heard_letters fun byte member => (bears byte member).1,
        List.append_nil]
  | loop around elapsed =>
    cases moved
    obtain ⟨read, split, understood⟩ :=
      loopStep_order tiny (around, elapsed) ride.board legible
    refine ⟨_, .receive ?_ understood, ?_, sent, rfl, ?_⟩
    · rw [pending, ← List.filter_append, ← heard_append, ← split]
    · intro byte member
      apply legible
      rw [split]
      exact List.mem_append_right _ member
    · dsimp only
      rw [received, executed_append, List.filter_append]
  | restart value =>
    cases moved
    have fewer : ((heard (ride.port.pending.filter fun byte => ride.port.now < byte.1)).filter
        hears).Sublist channel.pending := by
      rw [pending]
      exact (List.filter_sublist.filterMap _).filter hears
    refine ⟨_, .lose fewer, ?_, sent, rfl, ?_⟩
    · intro byte member
      exact legible byte (List.mem_filter.mp member).1
    · dsimp only
      rw [received, executed_append]
      exact congrArg _ (List.append_nil _).symm

theorem written_step (moved : Rides tiny bicycle ride move next) {earlier : List LockCmd}
    (kept : ride.written.Sublist earlier) : next.written.Sublist (earlier ++ tapped [move]) := by
  cases move with
  | link event =>
    obtain ⟨_, _, rfl⟩ := moved
    exact (List.append_nil earlier).symm ▸ kept
  | tap command arrival =>
    cases moved
    cases buttonDidTap command ride.central.serial with
    | none => exact kept.trans (List.sublist_append_left ..)
    | some write => exact kept.append (List.Sublist.refl [command])
  | chatter text =>
    cases moved
    exact (List.append_nil earlier).symm ▸ kept
  | loop around elapsed =>
    cases moved
    exact (List.append_nil earlier).symm ▸ kept
  | restart value =>
    cases moved
    exact (List.append_nil earlier).symm ▸ kept

theorem written_tapped (path : Path (Rides tiny bicycle) ride moves next) {earlier : List LockCmd}
    (kept : ride.written.Sublist earlier) : next.written.Sublist (earlier ++ tapped moves) := by
  induction path generalizing earlier with
  | nil => exact (List.append_nil earlier).symm ▸ kept
  | @cons _ _ _ move moves moved _ ih =>
    have rest := ih (written_step moved kept)
    have whole : tapped (move :: moves) = tapped [move] ++ tapped moves := by
      rw [tapped, ← List.singleton_append, List.filterMap_append]
      rfl
    rw [whole, ← List.append_assoc]
    exact rest

theorem received_in_order {hears : LockCmd → Bool} {central : Central P} {board : Board G F}
    {now : Nat} (path : Path (Rides tiny bicycle) (.start central board now) moves ride)
    (bears : ∀ move ∈ moves, Bears hears move) :
    ((executed ride.events).filter hears).Sublist (ride.written.filter hears) := by
  have ordered : ∃ channel, Represents hears ride channel ∧ Channel.Ordered channel := by
    refine path.invariant (Bears hears)
      (fun ride : Ride P G F => ∃ channel, Represents hears ride channel ∧ Channel.Ordered channel)
      ?_ bears ⟨.empty, ⟨nofun, rfl, rfl, rfl⟩, Channel.ordered_empty⟩
    intro ride move next bears moved reached
    obtain ⟨channel, represents, ordered⟩ := reached
    obtain ⟨after, step, represented⟩ := rides_channel bears moved represents
    exact ⟨after, represented, step.ordered ordered⟩
  obtain ⟨channel, represents, ordered⟩ := ordered
  rw [← represents.sent, ← represents.received]
  exact ordered.received

/-- Whatever the link does, however the radio delays or loses bytes and however the device groups
    them: the app writes only what the user tapped; over a silent module the device executes only
    commands that the app wrote, each at most once and in their order; and over one that puts its
    own words on the port, this holds of the lock commands. -/
theorem commands_in_order {central : Central P} {board : Board G F} {now : Nat}
    (path : Path (Rides tiny bicycle) (.start central board now) moves ride) :
    ride.written.Sublist (tapped moves) ∧
      ((∀ move ∈ moves, Silent move) → (executed ride.events).Sublist ride.written) ∧
      ((∀ move ∈ moves, Wordy move) →
        ((executed ride.events).filter isClose).Sublist (ride.written.filter isClose)) := by
  refine ⟨written_tapped path (List.Sublist.refl _), fun silent => ?_, fun wordy => ?_⟩
  · have bears : ∀ move ∈ moves, Bears (fun _ => true) move := by
      intro move member
      cases move with
      | chatter text =>
        have none : text = [] := silent _ member
        subst none
        exact nofun
      | _ => exact True.intro
    have ordered := received_in_order path bears
    rwa [List.filter_true, List.filter_true] at ordered
  · apply received_in_order path
    intro move member
    cases move with
    | chatter text => exact fun byte spoken => ⟨wordy _ member byte spoken, rfl⟩
    | _ => exact True.intro

end Order

end Ride

def pairedCentral : Central Unit where
  serial := paired
  links := fun _ => true
  connecting := fun _ => false
  serviceSearches := []
  characteristicSearches := []

def mergedRide : Ride Unit (GPSValue Int) Int :=
  let looped := loopStep meridianGPS (unpowered, ⟨0, bytes [(0, .open), (200, .close)]⟩)
    (onMeridian 10, 5000)
  { Ride.start pairedCentral looped.1.1 0 with
    port := looped.1.2
    written := [.open, .close]
    events := looped.2 }

/-- The module says `OK+CONN`, in which the device finds no number, before the user locks. -/
def connected : List (Nat × UInt8) :=
  [(0, 79), (0, 75), (0, 43), (0, 67), (0, 79), (0, 78), (0, 78)]

def spokenRide : Ride Unit (GPSValue Int) Int :=
  let opened := loopStep meridianGPS (unpowered, ⟨0, connected⟩) (onMeridian 10, 5000)
  let port : Port := { opened.1.2 with pending := opened.1.2.pending ++ bytes [(5000, .close)] }
  let closed := loopStep meridianGPS (opened.1.1, port) (onMeridian 10, 5000)
  { Ride.start pairedCentral closed.1.1 0 with
    port := closed.1.2
    written := [.close]
    events := opened.2 ++ closed.2 }

theorem commands_in_order_merged :
    (executed mergedRide.events).Sublist mergedRide.written ∧
      mergedRide.written.Sublist [.open, .close] ∧
      executed spokenRide.events = [.open, .close] ∧
      ((executed spokenRide.events).filter isClose).Sublist [.close] := by
  have merged : Path (Rides meridianGPS ()) (.start pairedCentral unpowered 0)
      [.tap .open (some 0), .tap .close (some 200), .loop (onMeridian 10) 5000] mergedRide :=
    .cons rfl (.cons rfl (.cons rfl .nil))
  have spoken : Path (Rides meridianGPS ()) (.start pairedCentral unpowered 0)
      [.chatter connected, .loop (onMeridian 10) 5000, .tap .close (some 5000),
        .loop (onMeridian 10) 5000] spokenRide :=
    .cons rfl (.cons rfl (.cons rfl (.cons rfl .nil)))
  obtain ⟨tapped, ordered, _⟩ := commands_in_order merged
  obtain ⟨_, _, closes⟩ := commands_in_order spoken
  refine ⟨ordered ?_, tapped, ?_, closes ?_⟩
  · rintro _ (_ | ⟨_, _ | ⟨_, _ | ⟨_, _ | _⟩⟩⟩) <;> exact True.intro
  · rw [spokenRide, executed_append, executed_loopStep _ _ _ .open (by decide),
      executed_loopStep _ _ _ .close (by decide)]
    rfl
  · rintro _ (_ | ⟨_, _ | ⟨_, _ | ⟨_, _ | ⟨_, _ | _⟩⟩⟩⟩)
    · exact (by decide : ∀ byte ∈ connected, Letter byte.2)
    all_goals exact True.intro

end RockYou.System

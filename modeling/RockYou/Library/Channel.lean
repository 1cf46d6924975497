import Mathlib.Data.List.Basic

/-! A channel whose messages may be lost on their way, and whose receiver takes them in groups and
understands some of each group. -/

namespace Channel

variable {α : Type*}

structure State (α : Type*) where
  sent : List α
  pending : List α
  received : List α

def State.empty : State α where
  sent := []
  pending := []
  received := []

inductive Step : State α → State α → Prop where
  | idle {state : State α} : Step state state
  | send {state : State α} {message : α} {arriving : List α}
      (most : arriving.Sublist [message]) :
      Step state { state with
        sent := state.sent ++ [message]
        pending := state.pending ++ arriving }
  | lose {state : State α} {rest : List α} (less : rest.Sublist state.pending) :
      Step state { state with pending := rest }
  | receive {state : State α} {read rest understood : List α}
      (split : state.pending = read ++ rest) (fewer : understood.Sublist read) :
      Step state { state with
        pending := rest
        received := state.received ++ understood }

/-- What was received and what is on its way come, in order, from what was sent. -/
def Ordered (state : State α) : Prop := (state.received ++ state.pending).Sublist state.sent

theorem ordered_empty : Ordered (State.empty : State α) := List.Sublist.refl []

theorem Step.ordered {state next : State α} (step : Step state next) (ordered : Ordered state) :
    Ordered next := by
  unfold Ordered at *
  cases step with
  | idle => exact ordered
  | send most =>
    rw [← List.append_assoc]
    exact ordered.append most
  | lose less => exact ((List.Sublist.refl _).append less).trans ordered
  | receive split fewer =>
    rw [split] at ordered
    rw [List.append_assoc]
    exact ((List.Sublist.refl _).append (fewer.append (List.Sublist.refl _))).trans ordered

theorem Ordered.received {state : State α} (ordered : Ordered state) :
    state.received.Sublist state.sent := (List.sublist_append_left ..).trans ordered

end Channel

import Pager.Fault

namespace Pager

/-- Where emitted values go: a sink takes a value or refuses it with a fault, and what it keeps is
its state. -/
structure Sink (State Value : Type) where
  emit : State → Value → State × Option Fault

namespace Sink

variable {Value : Type}

/-- Keeps every value, in order. -/
def collect : Sink (List Value) Value where
  emit kept value := (kept ++ [value], none)

/-- A collector that counts its calls and refuses the one of the given number. -/
structure Refusing (Value : Type) where
  calls : Nat
  kept : List Value

def refuseAt (number : Option Nat) (fault : Fault) : Sink (Refusing Value) Value where
  emit state value :=
    let calls := state.calls + 1
    if number = some calls then ({ state with calls }, some fault)
    else (⟨calls, state.kept ++ [value]⟩, none)

/-- A channel whose receiver is there or was dropped; it holds what was sent and not yet
received. -/
structure Channel (Value : Type) where
  dropped : Bool
  sent : List Value

def channel : Sink (Channel Value) Value where
  emit state value :=
    if state.dropped then (state, some (.output "output receiver was dropped"))
    else ({ state with sent := state.sent ++ [value] }, none)

end Sink

end Pager

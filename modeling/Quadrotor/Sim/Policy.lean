/-!
# Control policies

A `Policy` gives the control vector at a time and a state. A constant policy ignores both; an
affine policy adds to each offset a time gain times the time and a row of state gains times the
state.
-/

namespace Quadrotor

/-- A control law: the control vector at time `t` and state `x`. -/
structure Policy where
  control : Float → List Float → List Float

/-- The gains of an affine control law. -/
structure AffineLaw where
  /-- The control at time zero and the zero state; its length is the control's. -/
  offset : List Float
  /-- The gain of each control component on time, where given. -/
  timeGain : List Float := []
  /-- The gains of each control component on the state components, where given. -/
  stateGain : List (List Float) := []

namespace AffineLaw

/-- Component `i` of the control: its offset, plus its time gain times `t` where there is one,
plus, left to right, each state gain of its row times the state component of that index, as far
as both exist. -/
def component (law : AffineLaw) (t : Float) (x : List Float) (i : Nat) (offset : Float) : Float :=
  let withTime := match law.timeGain[i]? with
    | some g => offset + g * t
    | none => offset
  ((law.stateGain.getD i []).zip x).foldl (fun acc p => acc + p.1 * p.2) withTime

/-- The control vector of the law at time `t` and state `x`. -/
def control (law : AffineLaw) (t : Float) (x : List Float) : List Float :=
  (List.range law.offset.length).zipWith (fun i o => law.component t x i o) law.offset

end AffineLaw

namespace Policy

/-- The policy that always gives `u`. -/
def constant (u : List Float) : Policy := ⟨fun _ _ => u⟩

/-- The policy of an affine law. -/
def affine (law : AffineLaw) : Policy := ⟨law.control⟩

end Policy

end Quadrotor

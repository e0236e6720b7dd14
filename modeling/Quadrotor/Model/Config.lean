import Quadrotor.Document.Decode
/-!
# Parameter sets of the vehicle models

The lateral model (two states: lateral velocity and roll angle; three controls: two rotor thrusts
and a roll rate) and the planar model (four states: horizontal and vertical velocity, pitch
angle and pitch rate; two controls: two rotor thrusts) each have a parameter set with a default
for every field. A parameter set is read from a document field by field, a missing field keeping
its default, and written back as a record of all its fields.

Nothing is checked here: `Model.make` checks a parameter set when it builds a model from it.
-/

namespace Quadrotor

/-- The parameters of the lateral model. -/
structure LateralConfig where
  /-- Range of the first rotor's thrust. -/
  t1Range : Float × Float := (0.0, 0.14)
  /-- Range of the second rotor's thrust. -/
  t2Range : Float × Float := (0.0, 0.14)
  /-- Range of the commanded roll rate. -/
  wpRange : Float × Float := (0.0, 6.283185307179586)
  mass : Float := 0.027
  /-- Linear drag coefficient of the lateral velocity. -/
  drag : Float := 7.93e-12

/-- The parameters of the planar model. -/
structure PlanarConfig where
  t1Range : Float × Float := (0.0, 0.103)
  t2Range : Float × Float := (0.0, 0.103)
  mass : Float := 0.027
  /-- Linear drag coefficient of both velocities. -/
  transDrag : Float := 9.17e-7
  /-- Rotational drag coefficient of the pitch rate. -/
  rotDrag : Float := 10.31e-7
  /-- Arm length from the centre to a rotor. -/
  length : Float := 0.039
  /-- Moment of inertia about the pitch axis. -/
  inertiaYY : Float := 1.6e-5
  gravity : Float := 9.81

/-- A parameter set of either model. -/
inductive Config where
  | lateral (c : LateralConfig)
  | planar (c : PlanarConfig)

namespace Document

/-- A pair of doubles as a list of two. -/
def ofPair (p : Float × Float) : Document := .list [.real p.1, .real p.2]

end Document

namespace LateralConfig

/-- The fields of the lateral parameter set, in their order. -/
def fields : List (Decode.Field LateralConfig) :=
  [ ⟨"t1_range", fun s d c => (Decode.pair s d).map fun p => { c with t1Range := p }⟩,
    ⟨"t2_range", fun s d c => (Decode.pair s d).map fun p => { c with t2Range := p }⟩,
    ⟨"wp_range", fun s d c => (Decode.pair s d).map fun p => { c with wpRange := p }⟩,
    ⟨"mass", fun s d c => (Decode.real s d).map fun x => { c with mass := x }⟩,
    ⟨"drag", fun s d c => (Decode.real s d).map fun x => { c with drag := x }⟩ ]

/-- Reads a lateral parameter set, with defaults for the fields not given; `spelled` says whether
texts spelling non-finite doubles are read in fields given by name. -/
def decode (spelled : Bool) (d : Document) : Except DecodeError LateralConfig :=
  Decode.fields "ReducedLateralConfig" fields {} spelled d

/-- The lateral parameter set as a record of all its fields. -/
def toDocument (c : LateralConfig) : Document :=
  .record [("t1_range", .ofPair c.t1Range), ("t2_range", .ofPair c.t2Range),
    ("wp_range", .ofPair c.wpRange), ("mass", .real c.mass), ("drag", .real c.drag)]

end LateralConfig

namespace PlanarConfig

/-- The fields of the planar parameter set, in their order. -/
def fields : List (Decode.Field PlanarConfig) :=
  [ ⟨"t1_range", fun s d c => (Decode.pair s d).map fun p => { c with t1Range := p }⟩,
    ⟨"t2_range", fun s d c => (Decode.pair s d).map fun p => { c with t2Range := p }⟩,
    ⟨"mass", fun s d c => (Decode.real s d).map fun x => { c with mass := x }⟩,
    ⟨"trans_drag", fun s d c => (Decode.real s d).map fun x => { c with transDrag := x }⟩,
    ⟨"rot_drag", fun s d c => (Decode.real s d).map fun x => { c with rotDrag := x }⟩,
    ⟨"length", fun s d c => (Decode.real s d).map fun x => { c with length := x }⟩,
    ⟨"inertia_yy", fun s d c => (Decode.real s d).map fun x => { c with inertiaYY := x }⟩,
    ⟨"gravity", fun s d c => (Decode.real s d).map fun x => { c with gravity := x }⟩ ]

/-- Reads a planar parameter set, with defaults for the fields not given; `spelled` says whether
texts spelling non-finite doubles are read in fields given by name. -/
def decode (spelled : Bool) (d : Document) : Except DecodeError PlanarConfig :=
  Decode.fields "FullPlanarConfig" fields {} spelled d

/-- The planar parameter set as a record of all its fields. -/
def toDocument (c : PlanarConfig) : Document :=
  .record [("t1_range", .ofPair c.t1Range), ("t2_range", .ofPair c.t2Range),
    ("mass", .real c.mass), ("trans_drag", .real c.transDrag), ("rot_drag", .real c.rotDrag),
    ("length", .real c.length), ("inertia_yy", .real c.inertiaYY), ("gravity", .real c.gravity)]

end PlanarConfig

namespace Config

/-- The number of state components of the model a parameter set is for. -/
def stateDim : Config → Nat
  | .lateral _ => 2
  | .planar _ => 4

/-- The parameter set as a record of all its fields. -/
def toDocument : Config → Document
  | .lateral c => c.toDocument
  | .planar c => c.toDocument

end Config

end Quadrotor

import AgvDispatch.Fleet.Basic
/-!
# Runs of traffic control

`TrafficControl` is what keeps vehicles apart together with what it reads: the network, which never
changes, and the registry, to which anyone may write. A run is any sequence of registry writes and
traffic operations (`TrafficEvent`); none of them depends on what the others have done, so that
footprints may be out of date or missing.

`TrafficControl.invariant_run` is the rule for what each event keeps.
-/

namespace AgvDispatch

/-- Traffic control over a registry and a network. -/
structure TrafficControl (α : Type) [Scalar α] where
  registry : Registry α
  network : Network α
  traffic : Traffic α

/-- A write to the registry or an operation on the traffic state. -/
inductive TrafficEvent (α : Type) where
  /-- A vehicle is registered, or its record is replaced. -/
  | upsert (v : Vehicle α)
  /-- The record of a vehicle is changed in place, if there is one. -/
  | modify (id : String) (change : Vehicle α → Vehicle α)
  /-- A vehicle is forgotten. -/
  | erase (id : String)
  /-- A remaining route is reserved. -/
  | reserve (id : String) (route : Route) (buffer : α)
  /-- A footprint is moved. -/
  | track (id : String) (position : Point α) (radius : α)
  /-- The reservation and the footprint of a vehicle are dropped. -/
  | release (id : String)

namespace TrafficControl

variable {α : Type} [Scalar α]

/-- Nothing reserved and no footprints, over a floor. -/
def start (floor : FloorSettings α) (registry : Registry α) (network : Network α) :
    TrafficControl α where
  registry
  network
  traffic := Traffic.ofIndex floor.index

/-- Traffic control after an event. -/
def step (c : TrafficControl α) : TrafficEvent α → TrafficControl α
  | .upsert v => { c with registry := c.registry.upsert v }
  | .modify id change => { c with registry := c.registry.modify id change }
  | .erase id => { c with registry := c.registry.erase id }
  | .reserve id route buffer =>
    { c with traffic := (c.traffic.reserve c.network id route buffer).2 }
  | .track id position radius => { c with traffic := c.traffic.track id position radius }
  | .release id => { c with traffic := c.traffic.release id }

/-- Traffic control after a sequence of events. -/
def run (c : TrafficControl α) (events : List (TrafficEvent α)) : TrafficControl α :=
  events.foldl step c

/-- What every event keeps holds after every run. -/
theorem invariant_run {I : TrafficControl α → Prop}
    (hstep : ∀ c event, I c → I (c.step event)) {c : TrafficControl α} (hstart : I c)
    (events : List (TrafficEvent α)) : I (c.run events) := by
  unfold run
  induction events generalizing c with
  | nil => exact hstart
  | cons event later ih => exact ih (hstep c event hstart)

end TrafficControl

end AgvDispatch

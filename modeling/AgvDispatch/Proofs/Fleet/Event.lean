import AgvDispatch.Fleet.Planning
/-!
# Runs of a fleet

What happens to a fleet is a sequence of **events**: the operations that it offers and the steps of
the workers that hand its commands over. `Fleet.step` is the fleet after an event, where an
operation that fails leaves it as it was, and `Fleet.run` is the fleet after a sequence of events.

A condition on events may depend on the fleet that they happen to. `Fleet.Along` says that it is met
all along a run, and `Fleet.Along.invariant` that what each event keeps holds in the end.
-/

namespace AgvDispatch

/-- What may happen to a fleet. -/
inductive FleetEvent (α : Type) where
  /-- An order is given to a vehicle. -/
  | assign (order : TransportOrder)
  /-- A vehicle reports. -/
  | report (r : VehicleReport α)
  /-- A vehicle is planned along a candidate route. -/
  | plan (vehicleId : String) (candidate : Route)
  /-- A vehicle is planned along its expected route. -/
  | planRemaining (vehicleId : String)
  /-- A vehicle is to stop driving. -/
  | pause (vehicleId : String)
  /-- A vehicle is to get ready to drive on. -/
  | resume (vehicleId : String)
  /-- The sub-task of a vehicle is given up. -/
  | cancel (vehicleId : String) (reason : CancelReason)
  /-- The sub-task of a vehicle is completed. -/
  | finish (vehicleId : String)
  /-- A vehicle goes offline. -/
  | takeOffline (vehicleId : String)
  /-- A worker takes a step. -/
  | deliver (vehicleId : String) (worker : Nat)

namespace Fleet

variable {α : Type} [Scalar α]

/-- The fleet after an event. -/
def step (f : Fleet α) : FleetEvent α → Fleet α
  | .assign order => (f.assign order).2
  | .report r => (f.report r).2
  | .plan id candidate => (f.plan id candidate).2
  | .planRemaining id => (f.planRemaining id).2
  | .pause id => ((f.pause id).toOption).getD f
  | .resume id => ((f.resume id).toOption).getD f
  | .cancel id reason => ((f.cancel id reason).toOption.map Prod.snd).getD f
  | .finish id => ((f.finish id).toOption.map Prod.snd).getD f
  | .takeOffline id => f.takeOffline id
  | .deliver id worker => f.deliver id worker

/-- The fleet after a sequence of events. -/
def run (f : Fleet α) (events : List (FleetEvent α)) : Fleet α :=
  events.foldl step f

/-- What every event keeps holds after every run. -/
theorem invariant_run {I : Fleet α → Prop} (hstep : ∀ f event, I f → I (f.step event))
    {f : Fleet α} (hstart : I f) (events : List (FleetEvent α)) : I (f.run events) := by
  unfold run
  induction events generalizing f with
  | nil => exact hstart
  | cons event later ih => exact ih (hstep f event hstart)

/-- Replaces the record at the head of a queue. -/
def edit (f : Fleet α) (id : String) (change : SubTask α → SubTask α) : Fleet α :=
  { f with backlog := f.backlog.modifyHead id change }

/-- Lays down the route that the head of a queue is expected to take. -/
def expect (f : Fleet α) (id : String) (route : Route) : Fleet α :=
  { f with backlog := f.backlog.modifyHead id fun task => { task with expected := route } }

/-- Whether every event of a run meets a condition in the fleet that it happens to. -/
def Along (allowed : Fleet α → FleetEvent α → Prop) : Fleet α → List (FleetEvent α) → Prop
  | _, [] => True
  | f, event :: later => allowed f event ∧ Along allowed (f.step event) later

/-- **What every allowed event keeps holds after every allowed run.** -/
theorem Along.invariant {allowed : Fleet α → FleetEvent α → Prop} {I : Fleet α → Prop}
    (hstep : ∀ f event, I f → allowed f event → I (f.step event)) {f : Fleet α}
    {events : List (FleetEvent α)} (h : Along allowed f events) (hstart : I f) :
    I (f.run events) := by
  induction events generalizing f with
  | nil => exact hstart
  | cons event later ih => exact ih h.2 (hstep f event hstart h.1)

end Fleet

end AgvDispatch

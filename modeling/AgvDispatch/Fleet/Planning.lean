import AgvDispatch.Fleet.Basic
/-!
# Planning

A vehicle drives what has been planned for it. A plan is made from a candidate route: the longest
part of it that is safe right now is committed to the sub-task, reserved, and sent to the vehicle.
Where no part is safe, the plan is deferred and the sub-task marked as blocked.
-/

namespace AgvDispatch

/-- What came of a plan. -/
inductive PlanOutcome where
  /-- This segment was committed. -/
  | committed (segment : Route)
  /-- Nothing could be committed. -/
  | deferred
  /-- The vehicle has no sub-task. -/
  | noTask
  deriving DecidableEq, Repr, Inhabited

variable {α : Type} [Scalar α]

namespace SubTask

/-- A sub-task for which a candidate route is being planned. -/
def propose (t : SubTask α) (candidate : Route) : SubTask α :=
  { t with
    expected := if t.expected.isEmpty then candidate else t.expected
    candidate
    mark := .planning }

/-- A sub-task whose plan was deferred. -/
def defer (t : SubTask α) : SubTask α :=
  { t with blocked := true, mark := .unplanned }

/-- Enters the stage of driving if the present stage may be followed by it. -/
def startRunning (t : SubTask α) : SubTask α :=
  if t.stage != .run && t.stage.mayBecome .run then t.setStage .run else t

/-- A sub-task to which a segment of some length has been committed. -/
def commitPlan (t : SubTask α) (segment : Route) (length : α) : SubTask α :=
  let t := t.commit segment
  let t := { t with
    blocked := false
    planOrigin := segment.head?
    planDestination := segment.getLast?
    lastPathCode := t.pathCode
    pathCode := some segment.fingerprint
    expectedCost := t.expectedCost + length }
  t.startRunning.setMark .planned

end SubTask

namespace Fleet

/-- The longest part of a candidate route that a vehicle can be sent along now. A part that merely
repeats the end of what is committed counts as none. -/
def plannable (f : Fleet α) (vehicleId : String) (task : SubTask α) (candidate : Route) : Route :=
  let segment := f.traffic.safePart f.registry f.network task.mapId vehicleId candidate
    f.settings.traffic.safetyBuffer
  if segment.length = 1 && task.runningEnd == segment.head? then [] else segment

/-- Commits as much of a candidate route as is safe. -/
def plan (f : Fleet α) (vehicleId : String) (candidate : Route) : PlanOutcome × Fleet α :=
  match f.backlog.head? vehicleId with
  | none => (.noTask, f)
  | some task =>
    if !task.isLive then (.noTask, f)
    else if !task.stage.needsPlan || candidate.isEmpty then (.deferred, f)
    else
      let segment := f.plannable vehicleId task candidate
      let proposed := task.propose candidate
      if segment.isEmpty then
        (.deferred, { f with backlog := f.backlog.modifyHead vehicleId fun _ => proposed.defer })
      else
        let planned := proposed.commitPlan segment (f.network.routeLength segment)
        let (_, traffic) := f.traffic.reserve f.network vehicleId planned.effectiveRoute
          f.settings.traffic.bufferRadius
        let f := { f with
          backlog := f.backlog.modifyHead vehicleId fun _ => planned
          traffic }
        (.committed segment, f.emit vehicleId (.move planned.id segment))

/-- Plans the part of the expected route that has not been committed. -/
def planRemaining (f : Fleet α) (vehicleId : String) : PlanOutcome × Fleet α :=
  match f.backlog.head? vehicleId with
  | none => (.noTask, f)
  | some task =>
    let pending := task.pendingRoute
    if pending.length < 2 && !task.running.isEmpty then (.deferred, f)
    else f.plan vehicleId pending

end Fleet

end AgvDispatch

import AgvDispatch.Fault
import AgvDispatch.Scalar.Basic
import AgvDispatch.Task.Order
/-!
# Sub-tasks

A **sub-task** is the share of a transport order that one vehicle executes. It keeps four routes:

* the *expected* route, which is intended as a whole;
* the *running* route, which has been committed to the vehicle so far;
* the *candidate* route of a plan that is being made;
* the *traveled* route, which lies behind the vehicle.

`SubTask.effectiveRoute` is the part of the running route that still lies ahead, beginning with the
waypoint the vehicle stands on, and `SubTask.pendingRoute` is the part of the expected route that
has yet to be committed. `SubTask.setStage` is the only way to change the stage; it withdraws the
plan mark.
-/

namespace AgvDispatch

/-- What a sub-task has its vehicle do. -/
inductive SubTaskKind where
  /-- Drive. -/
  | move
  /-- Take goods on board. -/
  | load
  /-- Hand goods over. -/
  | unload
  /-- Charge the battery. -/
  | charge
  /-- Go and park. -/
  | park
  deriving DecidableEq, Repr, Inhabited

/-- The name of a kind of sub-task in records. -/
def SubTaskKind.name : SubTaskKind → String
  | move => "move"
  | load => "load"
  | unload => "unload"
  | charge => "charge"
  | park => "park"

/-- Why a sub-task was cancelled. -/
inductive CancelReason where
  /-- A person cancelled it. -/
  | operator
  /-- Its vehicle went offline. -/
  | vehicleOffline
  /-- Whoever placed the order withdrew it. -/
  | client
  deriving DecidableEq, Repr, Inhabited

/-- The name of a cancel reason in records. -/
def CancelReason.name : CancelReason → String
  | operator => "operator"
  | vehicleOffline => "vehicle_offline"
  | client => "upstream"

/-- The share of a transport order that is bound to one vehicle. -/
structure SubTask (α : Type) where
  /-- The vehicle that executes it. -/
  vehicleId : String
  /-- The id of the sub-task. -/
  id : String
  /-- The code of the order. -/
  orderCode : String
  /-- The group of the order. -/
  group : Option String
  /-- What the vehicle does. -/
  kind : SubTaskKind
  /-- The number of the sub-task. -/
  number : Nat
  /-- Whether it is the last one of its order. -/
  isFinal : Bool
  /-- The map it is executed on. -/
  mapId : Int
  /-- Where the goods are. -/
  origin : Waypoint
  /-- Where the goods go. -/
  destination : Waypoint
  /-- The action at the destination. -/
  actionCode : Int
  /-- Whether the action has begun. -/
  actionStarted : Bool
  /-- The number of the action. -/
  actionNumber : Nat
  /-- What the action is told. -/
  actionParameter : Option String
  /-- The route that is intended as a whole. -/
  expected : Route
  /-- The route committed to the vehicle. -/
  running : Route
  /-- The route of a plan that is being made. -/
  candidate : Route
  /-- The waypoints that lie behind the vehicle. -/
  traveled : Route
  /-- Where the sub-task is in its life. -/
  stage : Stage
  /-- The stage before this one. -/
  previousStage : Option Stage
  /-- Whether the present stage has been planned. -/
  mark : PlanMark
  /-- Where the last committed segment begins. -/
  planOrigin : Option Waypoint
  /-- Where the last committed segment ends. -/
  planDestination : Option Waypoint
  /-- The fingerprint of the last committed segment. -/
  pathCode : Option String
  /-- The fingerprint of the segment before it. -/
  lastPathCode : Option String
  /-- Why the sub-task was cancelled. -/
  cancelReason : Option CancelReason
  /-- The length of all committed segments. -/
  expectedCost : α
  /-- The length that was driven. -/
  realizedCost : α
  /-- The waypoint after the one the vehicle stands on. -/
  expectedNext : Option Waypoint
  /-- Whether the last plan was blocked by other vehicles. -/
  blocked : Bool
  deriving BEq, Repr, Inhabited

namespace SubTask

/-- The id of a sub-task: the code of its order and its number. -/
def idOf (orderCode : String) (number : Nat) : String :=
  orderCode ++ "-" ++ toString number

variable {α : Type}

/-- The sub-task of an order for a vehicle. -/
def ofOrder [Scalar α] (vehicleId : String) (order : TransportOrder) (number : Nat) :
    SubTask α where
  vehicleId
  number
  id := idOf order.code number
  orderCode := order.code
  group := order.group
  kind := .move
  isFinal := true
  mapId := order.mapId
  origin := order.origin
  destination := order.destination
  actionCode := order.actionCode
  actionStarted := false
  actionNumber := 0
  actionParameter := order.actionParameter
  expected := []
  running := []
  candidate := []
  traveled := []
  stage := .new
  previousStage := none
  mark := .unplanned
  planOrigin := none
  planDestination := none
  pathCode := none
  lastPathCode := none
  cancelReason := none
  expectedCost := 0
  realizedCost := 0
  expectedNext := none
  blocked := false

/-- Changes the plan mark. -/
def setMark (t : SubTask α) (mark : PlanMark) : SubTask α :=
  { t with mark }

/-- Enters a stage, whatever the present one is. The plan mark is withdrawn. -/
def setStage (t : SubTask α) (stage : Stage) : SubTask α :=
  { t with stage, previousStage := some t.stage, mark := .unplanned }

/-- Enters a stage if the present one may be followed by it. -/
def advance (t : SubTask α) (stage : Stage) : Except Fault (SubTask α) :=
  if t.stage.mayBecome stage then .ok (t.setStage stage)
  else .error (.stageChange t.stage.text stage.text)

/-- A route continued by a segment. The first waypoint of the segment is dropped if the route ends
on it. -/
def joinRoutes (route segment : Route) : Route :=
  match segment with
  | [] => route
  | first :: rest => route ++ if route.getLast? = some first then rest else segment

/-- Appends a committed segment to the running route. -/
def commit (t : SubTask α) (segment : Route) : SubTask α :=
  { t with running := joinRoutes t.running segment, candidate := [] }

/-- Appends to what lies behind the vehicle. -/
def travel (t : SubTask α) (passed : Route) : SubTask α :=
  { t with traveled := t.traveled ++ passed }

/-- What lies ahead of the vehicle: the running route without as many waypoints as lie behind. -/
def effectiveRoute (t : SubTask α) : Route :=
  t.running.drop t.traveled.length

/-- The end of the running route. -/
def runningEnd (t : SubTask α) : Option Waypoint :=
  t.running.getLast?

/-- The expected route from the end of the running route on: all of it while nothing is committed,
and nothing once the end is off the expected route. -/
def pendingRoute (t : SubTask α) : Route :=
  match t.runningEnd with
  | none => t.expected
  | some last => t.expected.dropWhile (· != last)

/-- How many steps of the expected route lie between a waypoint and the first of some others on
that route; `none` if it or all of them are off the route. -/
def stepsBetween (t : SubTask α) (others : List Waypoint) (here : Waypoint) : Option Nat := do
  let i ← t.expected.idxOf? here
  let j ← (others.filterMap fun w => t.expected.idxOf? w).min?
  some (if i ≤ j then j - i else i - j)

/-- Whether the sub-task is neither done nor given up. -/
def isLive (t : SubTask α) : Bool :=
  !t.stage.isTerminal

/-- Records that the vehicle stands on a waypoint. If it lies ahead, what comes before it is now
behind; otherwise nothing changes. -/
def reach (t : SubTask α) (here : Waypoint) : SubTask α :=
  let ahead := t.effectiveRoute
  match ahead.idxOf? here with
  | none | some 0 => t
  | some i => { t.travel (ahead.take i) with expectedNext := ahead[i + 1]? }

end SubTask

end AgvDispatch

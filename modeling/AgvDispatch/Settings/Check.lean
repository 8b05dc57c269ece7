import AgvDispatch.Allocation.OriginTable
import AgvDispatch.Decimal.Shortest
import AgvDispatch.Fault
import AgvDispatch.Scalar.Double
import AgvDispatch.Settings.Basic
/-!
# The check of settings

Settings that can be read may still break rules. `Settings.problems` lists every rule that is
broken; settings without problems are valid.
-/

namespace AgvDispatch

/-- A rule that settings break. -/
inductive SettingsProblem (α : Type) where
  /-- The index has no cells. -/
  | noCells
  /-- The floor has no extent. -/
  | flatFloor (width height : α)
  /-- The buffer of a corridor is negative. -/
  | negativeBuffer
  /-- The safety buffer is negative. -/
  | negativeSafety
  /-- The lowest battery exceeds a hundred per cent. -/
  | excessiveBattery
  /-- An origin key is malformed. -/
  | malformedOrigin (key : String)
  deriving Repr, BEq

/-- The wording of a problem. -/
def SettingsProblem.message : SettingsProblem Float → String
  | noCells => "spatial.grid_size must be at least 1"
  | flatFloor width height =>
    "spatial extent must be positive, got " ++ Decimal.plain width ++ "x" ++ Decimal.plain height
  | negativeBuffer => "traffic.buffer_radius must not be negative"
  | negativeSafety => "traffic.safety_buffer must not be negative"
  | excessiveBattery => "distribution.lowest_work_battery must be within 0..=100"
  | malformedOrigin key => "distribution.origin_specify key '" ++ key ++ "' is not '<map>-<point>'"

namespace Settings

/-- The problem, if a rule is broken. -/
def problemIf {α : Type} (broken : Bool) (problem : SettingsProblem α) :
    List (SettingsProblem α) :=
  if broken then [problem] else []

/-- Every rule that settings break, in the order of the rules and, for origin keys, of the keys. -/
def problems {α : Type} [Scalar α] (s : Settings α) : List (SettingsProblem α) :=
  problemIf (decide (s.floor.gridSize < 1)) .noCells
    ++ problemIf (decide (s.floor.width ≤ 0) || decide (s.floor.height ≤ 0))
      (.flatFloor s.floor.width s.floor.height)
    ++ problemIf (decide (s.traffic.bufferRadius < 0)) .negativeBuffer
    ++ problemIf (decide (s.traffic.safetyBuffer < 0)) .negativeSafety
    ++ problemIf (decide (100 < s.allocation.lowestBattery)) .excessiveBattery
    ++ (s.allocation.originVehicles.keys.filter
      fun key => (Waypoint.ofOriginKey? key).isNone).map .malformedOrigin

/-- The settings, provided that they break no rule. -/
def checked (s : Settings Float) : Except Fault (Settings Float) :=
  match s.problems with
  | [] => .ok s
  | problems => .error (.settingsInvalid ("; ".intercalate (problems.map SettingsProblem.message)))

end Settings

end AgvDispatch

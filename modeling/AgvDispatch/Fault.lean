/-!
# Faults

Everything that an operation can fail with. A fault names its cause; `Fault.message` words it.
-/

namespace AgvDispatch

/-- Why an operation failed. -/
inductive Fault where
  /-- The settings could not be read. -/
  | settingsUnreadable (detail : String)
  /-- The settings were read but break a rule. -/
  | settingsInvalid (detail : String)
  /-- A record could not be encoded or decoded. -/
  | recordMalformed (detail : String)
  /-- A sub-task may not move from one stage to the other. -/
  | stageChange (source target : String)
  /-- The vehicle has no sub-task. -/
  | noActiveTask (vehicleId : String)
  /-- The vehicle is not registered. -/
  | unknownVehicle (vehicleId : String)
  /-- A command did not reach its vehicle. -/
  | deliveryFailed (vehicleId reason : String)
  /-- There is nothing that could run queued work. -/
  | dispatcherUnavailable (detail : String)
  /-- An argument is out of range. -/
  | invalidArgument (detail : String)
  /-- Reading or writing failed. -/
  | inputOutput (detail : String)
  /-- Something that should hold does not. -/
  | internal (detail : String)
  /-- A failure of another kind, in its own words. -/
  | other (detail : String)
  deriving DecidableEq, Repr

namespace Fault

/-- The wording of a fault. -/
def message : Fault → String
  | settingsUnreadable detail => "Configuration error: " ++ detail
  | settingsInvalid detail => "Invalid configuration: " ++ detail
  | recordMalformed detail => "JSON serialization error: " ++ detail
  | stageChange source target => "Invalid state transition: from " ++ source ++ " to " ++ target
  | noActiveTask vehicleId => "No active sub-task for vehicle " ++ vehicleId
  | unknownVehicle vehicleId => "Unknown vehicle: " ++ vehicleId
  | deliveryFailed vehicleId reason => "Command delivery to " ++ vehicleId ++ " failed: " ++ reason
  | dispatcherUnavailable detail => "Dispatcher unavailable: " ++ detail
  | invalidArgument detail => "Validation failed: " ++ detail
  | inputOutput detail => "IO error: " ++ detail
  | internal detail => "Internal error: " ++ detail
  | other detail => detail

/-- Whether a fault means that a vehicle could not be reached. Only such a fault takes the vehicle
offline. -/
def isDeliveryFailure : Fault → Bool
  | deliveryFailed .. | inputOutput _ | other _ => true
  | _ => false

end Fault

end AgvDispatch

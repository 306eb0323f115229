import MediaMonitor.Text.Integer
import MediaMonitor.Text.Quoted

/-!
# Errors

What can go wrong below the monitor, in the transport to its backend, and in the monitor itself.
Each error is a cause; `message` is its wording.
-/

namespace MediaMonitor

/-- An error of the transport. -/
inductive BridgeError where
  | notAvailable (reason : String)
  | operationFailed (reason : String)
  | io (reason : String)
  deriving DecidableEq, Repr, Inhabited

namespace BridgeError

/-- The name of the kind of an error. -/
def kind : BridgeError → String
  | .notAvailable _ => "NotAvailable"
  | .operationFailed _ => "OperationFailed"
  | .io _ => "Io"

/-- The wording of an error. -/
def message : BridgeError → String
  | .notAvailable reason => "Bridge capability not available: " ++ reason
  | .operationFailed reason => "Bridge operation failed: " ++ reason
  | .io reason => "IO error: " ++ reason

end BridgeError

/-- An error of a maintenance operation. -/
inductive MaintenanceError where
  | validation (reason : String)
  | invalidSyncKey (text : String)
  | api (status : UInt16) (reason : String)
  | decode (reason : String)
  | allSyncStartsFailed (ruleId : Int64) (failures : List String)
  | cancelled
  | bridge (cause : BridgeError)
  deriving DecidableEq, Repr, Inhabited

namespace MaintenanceError

/-- The name of the kind of an error. -/
def kind : MaintenanceError → String
  | .validation _ => "Validation"
  | .invalidSyncKey _ => "InvalidSyncKey"
  | .api _ _ => "Api"
  | .decode _ => "Decode"
  | .allSyncStartsFailed _ _ => "AllSyncStartsFailed"
  | .cancelled => "Cancelled"
  | .bridge _ => "Bridge"

/-- The wording of an error. -/
def message : MaintenanceError → String
  | .validation reason => "Validation failed: " ++ reason
  | .invalidSyncKey text => "Invalid sync key: " ++ Text.quote text
  | .api status reason => "API error (status " ++ Text.ofNat status.toNat ++ "): " ++ reason
  | .decode reason => "Failed to decode response: " ++ reason
  | .allSyncStartsFailed ruleId failures =>
      "No library sync could be started for rule " ++ Text.ofInt ruleId.toInt ++ ": " ++
        "; ".intercalate failures
  | .cancelled => "Operation cancelled"
  | .bridge cause => cause.message

/-- The backend says that the job already runs. -/
def isConflict : MaintenanceError → Bool
  | .api status _ => status = 409
  | _ => false

end MaintenanceError

/-- An error of the settings. -/
inductive SettingsError where
  | config (reason : String)
  | invalidEnv (name value : String)
  | capabilityMissing (capability reason : String)
  deriving DecidableEq, Repr, Inhabited

namespace SettingsError

/-- The name of the kind of an error. -/
def kind : SettingsError → String
  | .config _ => "Config"
  | .invalidEnv _ _ => "InvalidEnv"
  | .capabilityMissing _ _ => "CapabilityMissing"

/-- The wording of an error. -/
def message : SettingsError → String
  | .config reason => "Configuration error: " ++ reason
  | .invalidEnv name value =>
      "Invalid value for environment variable " ++ name ++ ": " ++ Text.quote value
  | .capabilityMissing capability reason =>
      "Capability missing: " ++ capability ++ " - " ++ reason

end SettingsError

/-- An error of the service as a whole. -/
inductive ServiceError where
  | initializationFailed (reason : String)
  | settings (cause : SettingsError)
  | maintenance (cause : MaintenanceError)
  deriving DecidableEq, Repr, Inhabited

namespace ServiceError

/-- The name of the kind of an error, with the part it comes from. -/
def kind : ServiceError → String
  | .initializationFailed _ => "InitializationFailed"
  | .settings cause => "Runtime." ++ cause.kind
  | .maintenance cause => "Maintenance." ++ cause.kind

/-- The wording of an error. -/
def message : ServiceError → String
  | .initializationFailed reason => "Core initialization failed: " ++ reason
  | .settings cause => "Runtime error: " ++ cause.message
  | .maintenance cause => "Maintenance error: " ++ cause.message

/-- The operation was cancelled or superseded rather than failed. -/
def isCancelled (e : ServiceError) : Bool := e = .maintenance .cancelled

end ServiceError

end MediaMonitor

/-
The backend-neutral error contract, as far as the modelled functions use it: the
semantic kind callers branch on, the displayed message and the recovery hint that a
kind has by default. Native codes never influence control flow and are left out.
-/

import Mathlib.Init

namespace CameraRs

inductive CameraErrorKind
  | invalidArgument
  | backendNotCompiled
  | unsupportedTarget
  | backendOptionMismatch
  | backendFailure
  | multipleBackendsFailed
  | deviceNotFound
  | deviceBusy
  | deviceOpenFailed
  | deviceDisconnected
  | ambiguousDevice
  | permissionRequired
  | permissionDenied
  | permissionManagedExternally
  | invalidState
  | streamStopped
  | streamFailure
  | timeout
  | bufferExhausted
  | invalidFrame
  | unsupportedFormat
  | controlNotSupported
  | controlNotReadable
  | controlFailure
  | io
  | workerFailure
  | internal
deriving DecidableEq, Repr

inductive RecoveryHint
  | none
  | retry
  | requestPermission
  | reenumerateDevice
  | changeConfiguration
  | enableBackend
  | dropFrame
  | reduceResourceUsage
deriving DecidableEq, Repr

def defaultRecoveryHint : CameraErrorKind → RecoveryHint
  | .permissionRequired | .permissionDenied | .permissionManagedExternally => .requestPermission
  | .deviceNotFound | .deviceDisconnected => .reenumerateDevice
  | .deviceBusy | .deviceOpenFailed | .backendFailure | .streamFailure | .timeout | .io
  | .workerFailure => .retry
  | .invalidArgument | .unsupportedFormat | .controlNotSupported | .controlNotReadable =>
      .changeConfiguration
  | .backendNotCompiled | .unsupportedTarget => .enableBackend
  | .invalidFrame => .dropFrame
  | .bufferExhausted => .reduceResourceUsage
  | .backendOptionMismatch | .multipleBackendsFailed | .ambiguousDevice | .invalidState
  | .streamStopped | .controlFailure | .internal => .none

structure CameraError where
  kind : CameraErrorKind
  message : String
deriving DecidableEq, Repr

abbrev CameraResult (α : Type) := Except CameraError α

namespace CameraError

def invalidConfig (message : String) : CameraError :=
  ⟨.invalidArgument, "Invalid configuration: " ++ message⟩

def invalidState (message : String) : CameraError :=
  ⟨.invalidState, "Invalid state: " ++ message⟩

def streamStopped : CameraError :=
  ⟨.streamStopped, "Stream stopped"⟩

def deviceNotFound (message : String) : CameraError :=
  ⟨.deviceNotFound, "Device not found: " ++ message⟩

def ambiguousDevice (message : String) : CameraError :=
  ⟨.ambiguousDevice, "Device identity is ambiguous: " ++ message⟩

def disconnected (message : String) : CameraError :=
  ⟨.deviceDisconnected, "Device disconnected: " ++ message⟩

def invalidFrame (message : String) : CameraError :=
  ⟨.invalidFrame, "Invalid frame: " ++ message⟩

def unsupportedFormat (message : String) : CameraError :=
  ⟨.unsupportedFormat, "Unsupported format: " ++ message⟩

def backendOptionMismatch (optionBackend selectedBackend : String) : CameraError :=
  ⟨.backendOptionMismatch,
    "Backend option for " ++ optionBackend ++ " cannot be used with " ++ selectedBackend⟩

/-- `stage` is the debug rendering of the `OperationStage`. -/
def timeout (stage : String) : CameraError :=
  ⟨.timeout, "Operation timed out during " ++ stage⟩

def bufferExhausted : CameraError :=
  ⟨.bufferExhausted, "Frame buffer exhausted"⟩

def deviceOpenFailed (message : String) : CameraError :=
  ⟨.deviceOpenFailed, "Failed to open device: " ++ message⟩

def streamError (message : String) : CameraError :=
  ⟨.streamFailure, "Stream error: " ++ message⟩

end CameraError

end CameraRs

import CameraRs.Lib.Machine
import CameraRs.Format
import CameraRs.Contract
import CameraRs.Android.Output
import CameraRs.Session.Exclusive
import CameraRs.Session.Successor
import CameraRs.Session.Terminal
import CameraRs.Session.Frozen
import CameraRs.Frame.Bounded
import CameraRs.Frame.Retained
import CameraRs.Frame.Epoch
import CameraRs.Frame.Metrics
import CameraRs.Frame.Accounting
import CameraRs.Frame.Keys
import CameraRs.Frame.Sink
import CameraRs.Frame.Drain
import CameraRs.Frame.Flags
import CameraRs.Frame.Published
import CameraRs.Conversion.Agreement
import CameraRs.V4l2.Formats
import CameraRs.Session.RecoveryRun
import CameraRs.Session.Controls
import CameraRs.Android.Handle
import CameraRs.Android.Lifecycle
import CameraRs.Negotiation.Addressed
import CameraRs.Session.Startup
import CameraRs.Negotiation.Plan
import CameraRs.MediaFoundation.OneRead
import CameraRs.Camera2.Bridge
import CameraRs.Camera2.Disconnect
import CameraRs.V4l2.Ownership
import CameraRs.Frame.Deadlock
import CameraRs.MediaFoundation.Agreement
import CameraRs.Camera2.Agreement
import CameraRs.WellFormed
import CameraRs.Conversion.Path
import CameraRs.Android.Retry
import CameraRs.Lib.Simd
import CameraRs.Conversion.Packed422
import CameraRs.Conversion.Avx2Rows
import CameraRs.Conversion.Blocked
import CameraRs.Session.Receivers
import CameraRs.MediaFoundation.Reopen
import CameraRs.Limiter
import CameraRs.V4l2.Enumeration
import CameraRs.Fallback
import CameraRs.Frame.Rate
import CameraRs.Frame.Slots
import CameraRs.Frame.Malformed
import CameraRs.Camera2.Chroma
import CameraRs.Frame.Watching
import CameraRs.FrameSize
import CameraRs.Uvc.Intervals
import CameraRs.Uvc.Start
import CameraRs.Frame.Ledger
import CameraRs.Uvc.Handoff
import CameraRs.Uvc.Conservation
import CameraRs.Frame.Awaiting
import CameraRs.Camera2.Rates
import CameraRs.AvFoundation.Formats
import CameraRs.Negotiation.Enumerators
import CameraRs.Negotiation.Selection
import CameraRs.Conversion.Trimming
import CameraRs.FrameRate
import CameraRs.Frame.Quantiles
import CameraRs.Builder
import CameraRs.DeviceWatch
import CameraRs.Negotiation.Capabilities
import CameraRs.Conversion.WordSize
import CameraRs.Uvc.Narrowing
import CameraRs.Uvc.Controls
import CameraRs.Conversion.NeonRows
import CameraRs.Conversion.Converter8Bit
import CameraRs.Uvc.Delivery
import CameraRs.Lib.Owners
import CameraRs.Uvc.Resources
import CameraRs.Uvc.Ownership
import CameraRs.AvFoundation.Agreement
import CameraRs.V4l2.Lifecycle
import CameraRs.V4l2.ControlRuns
import CameraRs.MediaFoundation.MediaTypes
import CameraRs.MediaFoundation.Guard
import CameraRs.Frame.ErrorLog
import CameraRs.Camera2.ControlRuns
import CameraRs.MediaFoundation.Controls

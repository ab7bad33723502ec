import RtpSync.Gst.Basic

/-!
# Synchronizer state

The private data of a `KmsRtpSynchronizer` (`struct _KmsRtpSynchronizerPrivate`)
without its mutexes and stats file, the errors the public calls report, and the
state `kms_rtp_synchronizer_new` creates.
-/

set_option autoImplicit false

namespace RtpSync

open Gst

/-- The mutable fields of `struct _KmsRtpSynchronizerPrivate`. Zero marks an
unset `ssrc`, `pt` and `clock_rate`; `GST_CLOCK_TIME_NONE` marks an unset time. -/
structure KmsRtpSynchronizer where
  feededSorted : Bool
  ssrc : UInt32
  pt : GInt32
  clockRate : GInt32
  /-- Base time, initialized from the first RTCP Sender Report. -/
  baseInitiated : Bool
  baseNtpTime : GstClockTime
  baseSyncTime : GstClockTime
  /-- Base time used for interpolation while the first RTCP SR arrives. -/
  baseInterpolateInitiated : Bool
  baseInterpolateExtTs : GstClockTime
  baseInterpolatePts : GstClockTime
  /-- Extended timestamp: robust against input wraparound. -/
  rtpExtTs : GstClockTime
  lastRtcpExtTs : GstClockTime
  lastRtcpNtpTime : GstClockTime
  fsLastRtpExtTs : GstClockTime
  fsLastPts : GstClockTime
deriving DecidableEq, Repr

/-- `KMS_RTP_SYNC_ERROR` codes. -/
inductive KmsRtpSyncError where
  | invalidData
  | unexpectedError
deriving DecidableEq, Repr

/-- The cause of each `g_set_error_literal` call, with the values its message prints. -/
inductive SyncError where
  | clockRateNotAllowed
  | onlyOnePt
  | rtcpNotMapped
  | invalidSsrc (ssrc expected : UInt32)
  | unknownPt (pt : UInt8) (expected : GInt32)
  | invalidClockRate (clockRate : GInt32)
  | unsortedBuffer (ssrc : UInt32) (seq : UInt16) (ts : UInt32) (extTs : UInt64)
  | rtpNotMapped
deriving DecidableEq, Repr

namespace SyncError

/-- The error code each call site passes to `g_set_error_literal`. -/
def code : SyncError → KmsRtpSyncError
  | rtcpNotMapped | rtpNotMapped => .unexpectedError
  | clockRateNotAllowed | onlyOnePt | invalidSsrc .. | unknownPt .. | invalidClockRate ..
  | unsortedBuffer .. => .invalidData

/-- The message text; `%u` prints the unsigned reading and `%d` the signed one. -/
def message : SyncError → String
  | clockRateNotAllowed => "clock-rate <= 0 no allowed."
  | onlyOnePt => "Only one PT allowed."
  | rtcpNotMapped => "Buffer cannot be mapped as RTCP"
  | invalidSsrc ssrc expected =>
      "Invalid SSRC (" ++ toString ssrc.toNat ++ "), not matching with " ++
        toString expected.toNat
  | unknownPt pt expected =>
      "Unknown PT: " ++ toString pt.toNat ++ ", expected: " ++ toString expected.toNat
  | invalidClockRate clockRate => "Invalid clock rate: " ++ toString clockRate.toInt
  | unsortedBuffer ssrc seq ts extTs =>
      "Received an unsorted RTP buffer when expecting sorted (ssrc: " ++ toString ssrc.toNat ++
        ", seq: " ++ toString seq.toNat ++ ", ts: " ++ toString ts.toNat ++ ", ext_ts: " ++
        toString extTs.toNat ++ "), moving to unsorted mode"
  | rtpNotMapped => "Buffer cannot be mapped as RTP"

end SyncError

namespace KmsRtpSynchronizer

/-- `kms_rtp_synchronizer_new`: the zero-initialized private data with the times
`kms_rtp_synchronizer_init` sets to `GST_CLOCK_TIME_NONE`. -/
def new (feededSorted : Bool) : KmsRtpSynchronizer where
  feededSorted := feededSorted
  ssrc := 0
  pt := 0
  clockRate := 0
  baseInitiated := false
  baseNtpTime := gstClockTimeNone
  baseSyncTime := gstClockTimeNone
  baseInterpolateInitiated := false
  baseInterpolateExtTs := gstClockTimeNone
  baseInterpolatePts := gstClockTimeNone
  rtpExtTs := gstClockTimeNone
  lastRtcpExtTs := gstClockTimeNone
  lastRtcpNtpTime := gstClockTimeNone
  fsLastRtpExtTs := gstClockTimeNone
  fsLastPts := gstClockTimeNone

end KmsRtpSynchronizer

end RtpSync

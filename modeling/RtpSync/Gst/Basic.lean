import Mathlib.Data.String.Basic
import Mathlib.Algebra.Group.Int

/-!
# GStreamer boundary of the RTP synchronizer

The GLib and GStreamer values that cross into `kmsrtpsynchronizer.c`; a buffer
that does not map is `none`.
-/

set_option autoImplicit false

namespace RtpSync.Gst

/-- `GstClockTime`: unsigned 64-bit nanoseconds. -/
abbrev GstClockTime := UInt64

/-- GLib's `gint32`, a two's-complement word read through `BitVec.toInt`. -/
abbrev GInt32 := BitVec 32

/-- `GST_CLOCK_TIME_NONE`, the all-ones value that marks an unset time. -/
def gstClockTimeNone : GstClockTime := 0xFFFFFFFFFFFFFFFF

/-- `G_MAXUINT64`. -/
def gMaxUint64 : UInt64 := 0xFFFFFFFFFFFFFFFF

/-- `GST_SECOND` in nanoseconds. -/
def gstSecond : GstClockTime := 1000000000

/-- `GST_CLOCK_TIME_IS_VALID`. -/
def gstClockTimeIsValid (time : GstClockTime) : Bool := time != gstClockTimeNone

@[simp] theorem gstClockTimeNone_toNat : gstClockTimeNone.toNat = 2 ^ 64 - 1 := rfl

@[simp] theorem gMaxUint64_toNat : gMaxUint64.toNat = 2 ^ 64 - 1 := rfl

theorem gMaxUint64_eq_gstClockTimeNone : gMaxUint64 = gstClockTimeNone := rfl

@[simp] theorem gstClockTimeIsValid_iff (time : GstClockTime) :
    gstClockTimeIsValid time = true ↔ time ≠ gstClockTimeNone := by
  simp [gstClockTimeIsValid]

theorem toNat_le_max (time : GstClockTime) : time.toNat ≤ 2 ^ 64 - 1 := by
  have := time.toNat_lt
  omega

theorem lt_iff_toNat_lt {a b : UInt64} : a < b ↔ a.toNat < b.toNat := Iff.rfl

theorem le_iff_toNat_le {a b : UInt64} : a ≤ b ↔ a.toNat ≤ b.toNat := Iff.rfl

/-- The room left above `pts` before `G_MAXUINT64`. -/
theorem gMaxUint64_sub_toNat (pts : UInt64) : (gMaxUint64 - pts).toNat = 2 ^ 64 - 1 - pts.toNat :=
  UInt64.toNat_sub_of_le _ _ (toNat_le_max pts)

/-- `gst_util_uint64_scale`: `val * num / denom` rounded down, computed without
intermediate overflow; `G_MAXUINT64` when the quotient does not fit or `denom`
is zero. -/
def gstUtilUint64Scale (val num denom : UInt64) : UInt64 :=
  if denom = 0 then gMaxUint64
  else UInt64.ofNat (min (val.toNat * num.toNat / denom.toNat) gMaxUint64.toNat)

/-- `gst_util_uint64_scale_int`: as `gstUtilUint64Scale` for a `gint` numerator
and denominator; a negative numerator or a non-positive denominator fails the
precondition and yields `G_MAXUINT64`. -/
def gstUtilUint64ScaleInt (val : UInt64) (num denom : GInt32) : UInt64 :=
  if denom.toInt ≤ 0 ∨ num.toInt < 0 then gMaxUint64
  else UInt64.ofNat (min (val.toNat * num.toInt.toNat / denom.toInt.toNat) gMaxUint64.toNat)

theorem toNat_ofNat_min (n : Nat) :
    (UInt64.ofNat (min n gMaxUint64.toNat)).toNat = min n (2 ^ 64 - 1) := by
  show (min n (2 ^ 64 - 1)) % 2 ^ 64 = min n (2 ^ 64 - 1)
  exact Nat.mod_eq_of_lt (by omega)

theorem gstUtilUint64Scale_toNat (val num denom : UInt64) (nonzero : denom ≠ 0) :
    (gstUtilUint64Scale val num denom).toNat =
      min (val.toNat * num.toNat / denom.toNat) (2 ^ 64 - 1) := by
  simp only [gstUtilUint64Scale, nonzero, if_false, toNat_ofNat_min]

/-- `GST_SECOND` passed as the `gint` numerator of `gst_util_uint64_scale_int`. -/
@[simp] theorem gstSecond_toGInt32 : (BitVec.ofNat 32 gstSecond.toNat).toInt = 1000000000 := by
  decide

theorem gstUtilUint64ScaleInt_toNat (val : UInt64) {num denom : GInt32}
    (nonneg : 0 ≤ num.toInt) (positive : 0 < denom.toInt) :
    (gstUtilUint64ScaleInt val num denom).toNat =
      min (val.toNat * num.toInt.toNat / denom.toInt.toNat) (2 ^ 64 - 1) := by
  have accepted : ¬ (denom.toInt ≤ 0 ∨ num.toInt < 0) := by omega
  simp only [gstUtilUint64ScaleInt, accepted, if_false, toNat_ofNat_min]

/-- Modelled from the spec: `gst_rtp_buffer_ext_timestamp` belongs to
GStreamer's RTP library, not to this repository; §4.1 of the spec describes
it. An unset counter (`-1`, i.e. `GST_CLOCK_TIME_NONE`) takes the zero-extended
timestamp; otherwise the signed 32-bit difference between the new timestamp and
the counter's low 32 bits is added to the counter modulo 2^64. The result is
stored through the pointer and returned, so one value models both. -/
def gstRtpBufferExtTimestamp (exttimestamp : UInt64) (timestamp : UInt32) : UInt64 :=
  if exttimestamp = gstClockTimeNone then timestamp.toUInt64
  else
    let diff := timestamp - exttimestamp.toUInt32
    if diff < 0x80000000 then exttimestamp + diff.toUInt64
    else exttimestamp + diff.toUInt64 - 0x100000000

/-- The RTP header fields the synchronizer reads from a mapped `GstRTPBuffer`. -/
structure RtpHeader where
  ssrc : UInt32
  seq : UInt16
  timestamp : UInt32
  payloadType : UInt8
deriving DecidableEq, Repr

/-- An RTP `GstBuffer`: its PTS and, when `gst_rtp_buffer_map` succeeds, its header. -/
structure RtpBuffer where
  pts : GstClockTime
  header : Option RtpHeader
deriving DecidableEq, Repr

/-- `GstRTCPType`. -/
inductive GstRtcpType where
  | invalid | sr | rr | sdes | bye | app | rtpfb | psfb | xr
deriving DecidableEq, Repr

/-- One packet of a mapped RTCP buffer, with the sender info that
`gst_rtcp_packet_sr_get_sender_info` reads when it is a Sender Report. -/
structure GstRtcpPacket where
  type : GstRtcpType
  ssrc : UInt32
  ntpTime : UInt64
  rtpTime : UInt32
deriving DecidableEq, Repr

/-- An RTCP `GstBuffer`: its DTS and, when `gst_rtcp_buffer_map` succeeds, its
packets in order. -/
structure RtcpBuffer where
  dts : GstClockTime
  packets : Option (List GstRtcpPacket)
deriving DecidableEq, Repr

end RtpSync.Gst

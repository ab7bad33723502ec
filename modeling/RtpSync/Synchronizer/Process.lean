import RtpSync.Synchronizer.State

/-!
# Synchronizer operations

`set_pt_clock_rate`, the RTCP path and the RTP path of `kmsrtpsynchronizer.c`,
split where the C function has a named step. Logging and the stats row are not
modelled.
-/

set_option autoImplicit false

namespace RtpSync.KmsRtpSynchronizer

open Gst

/-- `kms_rtp_synchronizer_set_pt_clock_rate`. A failed call writes nothing. -/
def setPtClockRate (self : KmsRtpSynchronizer) (pt clockRate : GInt32) :
    Except SyncError KmsRtpSynchronizer :=
  if clockRate.toInt ≤ 0 then .error .clockRateNotAllowed
  else if self.clockRate ≠ 0 then .error .onlyOnePt
  else .ok { self with pt, clockRate }

/-- `kms_rtp_synchronizer_process_rtcp_packet`, with `current_time` the RTCP
buffer's DTS. Only a Sender Report changes the state. -/
def processRtcpPacket (self : KmsRtpSynchronizer) (packet : GstRtcpPacket)
    (currentTime : GstClockTime) : KmsRtpSynchronizer :=
  if packet.type ≠ .sr then self
  else
    let ntpTime := gstUtilUint64Scale packet.ntpTime gstSecond 0x100000000
    let self :=
      if self.baseInitiated then self
      else { self with baseInitiated := true, baseNtpTime := ntpTime, baseSyncTime := currentTime }
    let lastRtcpExtTs := gstRtpBufferExtTimestamp self.rtpExtTs packet.rtpTime
    { self with rtpExtTs := lastRtcpExtTs, lastRtcpExtTs, lastRtcpNtpTime := ntpTime }

/-- `kms_rtp_synchronizer_process_rtcp_buffer`: only the first packet is looked
at, and an empty buffer is a warning, not an error. -/
def processRtcpBuffer (self : KmsRtpSynchronizer) (buffer : RtcpBuffer) :
    Except SyncError KmsRtpSynchronizer :=
  match buffer.packets with
  | none => .error .rtcpNotMapped
  | some [] => .ok self
  | some (packet :: _) => .ok (self.processRtcpPacket packet buffer.dts)

/-- `kms_rtp_synchronizer_rtp_diff_full`: moves `pts` by the media time between
the tracker's extended timestamp and `baseExtTs`. `wrappedDown` and `wrappedUp`
say that `pts` already left the 64-bit range below or above; the result
saturates at 0 and `G_MAXUINT64`. -/
def rtpDiffFull (self : KmsRtpSynchronizer) (pts : GstClockTime) (clockRate : GInt32)
    (baseExtTs : UInt64) (wrappedDown wrappedUp : Bool) : GstClockTime :=
  if self.rtpExtTs > baseExtTs then
    let diffRtpTime := gstUtilUint64ScaleInt (self.rtpExtTs - baseExtTs)
      (BitVec.ofNat 32 gstSecond.toNat) clockRate
    if wrappedUp then gMaxUint64
    else if wrappedDown ∧ diffRtpTime < gMaxUint64 - pts then 0
    else if !wrappedDown ∧ diffRtpTime > gMaxUint64 - pts then gMaxUint64
    else pts + diffRtpTime
  else if self.rtpExtTs < baseExtTs then
    let diffRtpTime := gstUtilUint64ScaleInt (baseExtTs - self.rtpExtTs)
      (BitVec.ofNat 32 gstSecond.toNat) clockRate
    if wrappedDown then 0
    else if wrappedUp ∧ diffRtpTime < pts then gMaxUint64
    else if !wrappedUp ∧ diffRtpTime > pts then 0
    else pts - diffRtpTime
  else if wrappedDown then 0
  else if wrappedUp then gMaxUint64
  else pts

/-- `kms_rtp_synchronizer_rtp_diff`: `rtp_diff_full` with both wrap flags clear. -/
def rtpDiff (self : KmsRtpSynchronizer) (pts : GstClockTime) (clockRate : GInt32)
    (baseExtTs : UInt64) : GstClockTime :=
  self.rtpDiffFull pts clockRate baseExtTs false false

/-- The buffer PTS after the NTP step of the synchronized regime, with the wrap
flags handed to `rtp_diff_full`. -/
structure NtpAdjusted where
  pts : GstClockTime
  wrappedDown : Bool
  wrappedUp : Bool
deriving DecidableEq, Repr

/-- Lines 514-528: `base_sync_time` moved by the NTP time between the base SR
and the latest SR. `GST_CLOCK_DIFF` yields a `gint64` that the comparison and
the `+=` / `-=` convert back to `guint64`, so all arithmetic is on `guint64`. -/
def ntpAdjust (self : KmsRtpSynchronizer) : NtpAdjusted :=
  let pts := self.baseSyncTime
  if self.lastRtcpNtpTime > self.baseNtpTime then
    let ntpTimeDiff := self.lastRtcpNtpTime - self.baseNtpTime
    ⟨pts + ntpTimeDiff, false, ntpTimeDiff > gMaxUint64 - pts⟩
  else if self.lastRtcpNtpTime < self.baseNtpTime then
    let ntpTimeDiff := self.baseNtpTime - self.lastRtcpNtpTime
    ⟨pts - ntpTimeDiff, pts < ntpTimeDiff, false⟩
  else ⟨pts, false, false⟩

/-- Lines 513-533: the synchronized-regime PTS. -/
def syncPts (self : KmsRtpSynchronizer) : GstClockTime :=
  let adjusted := self.ntpAdjust
  self.rtpDiffFull adjusted.pts self.clockRate self.lastRtcpExtTs adjusted.wrappedDown
    adjusted.wrappedUp

/-- Lines 496-534: the regime computation. Before any SR the first packet
becomes the interpolation anchor and keeps its PTS; later packets interpolate
from that anchor. After an SR the PTS is `syncPts`. -/
def computePts (self : KmsRtpSynchronizer) (pts rtpExtTs : GstClockTime) :
    KmsRtpSynchronizer × GstClockTime :=
  if self.baseInitiated then (self, self.syncPts)
  else if self.baseInterpolateInitiated then
    (self, self.rtpDiff self.baseInterpolatePts self.clockRate self.baseInterpolateExtTs)
  else
    let anchored := { self with
      baseInterpolateExtTs := rtpExtTs
      baseInterpolatePts := pts
      baseInterpolateInitiated := true }
    (anchored, pts)

/-- Lines 536-561: in sorted mode, clamp the PTS to the last emitted one and
record this packet as the last. -/
def sortedPostFix (self : KmsRtpSynchronizer) (pts rtpExtTs : GstClockTime) :
    KmsRtpSynchronizer × GstClockTime :=
  if self.feededSorted then
    let ptsFixed :=
      if gstClockTimeIsValid self.fsLastPts ∧ pts < self.fsLastPts then self.fsLastPts else pts
    ({ self with fsLastRtpExtTs := rtpExtTs, fsLastPts := ptsFixed }, ptsFixed)
  else (self, pts)

/-- Lines 496-561: regime computation followed by the sorted-mode post-fix. -/
def assignPts (self : KmsRtpSynchronizer) (pts rtpExtTs : GstClockTime) :
    KmsRtpSynchronizer × GstClockTime :=
  let computed := self.computePts pts rtpExtTs
  computed.1.sortedPostFix computed.2 rtpExtTs

/-- The three ways out of the sorted-mode pre-check (lines 471-494). -/
inductive SortedPreCheck where
  | proceed
  | regressed
  | duplicate
deriving DecidableEq, Repr

/-- Lines 471-494: a timestamp below the last one breaks the sorted contract; an
equal one repeats the last packet's PTS. -/
def sortedPreCheck (self : KmsRtpSynchronizer) (rtpExtTs : GstClockTime) : SortedPreCheck :=
  if self.feededSorted then
    if gstClockTimeIsValid self.fsLastRtpExtTs ∧ rtpExtTs < self.fsLastRtpExtTs then .regressed
    else if rtpExtTs = self.fsLastRtpExtTs then .duplicate
    else .proceed
  else .proceed

/-- What `process_rtp_buffer_mapped` hands back: the GError it set (it returns
`FALSE` exactly when it sets one), the buffer's PTS, and the synchronizer. -/
structure RtpOutcome where
  error : Option SyncError
  pts : GstClockTime
  self : KmsRtpSynchronizer
deriving DecidableEq, Repr

/-- Lines 465-561, reached once the header checks pass: extend the timestamp,
run the sorted-mode pre-check, and assign the PTS. -/
def processRtpAccepted (self : KmsRtpSynchronizer) (pts : GstClockTime) (header : RtpHeader) :
    RtpOutcome :=
  let rtpExtTs := gstRtpBufferExtTimestamp self.rtpExtTs header.timestamp
  let self := { self with rtpExtTs }
  match self.sortedPreCheck rtpExtTs with
  | .duplicate =>
      ⟨none, if gstClockTimeIsValid self.fsLastPts then self.fsLastPts else pts, self⟩
  | .regressed =>
      let assigned := { self with feededSorted := false }.assignPts pts rtpExtTs
      ⟨some (.unsortedBuffer header.ssrc header.seq header.timestamp rtpExtTs), assigned.2,
        assigned.1⟩
  | .proceed =>
      let assigned := self.assignPts pts rtpExtTs
      ⟨none, assigned.2, assigned.1⟩

/-- Lines 427-429: the first packet's SSRC is learned; 0 marks it unset. -/
def latchSsrc (self : KmsRtpSynchronizer) (ssrc : UInt32) : KmsRtpSynchronizer :=
  if self.ssrc = 0 then { self with ssrc } else self

/-- Lines 444-463: the payload type must be the configured one and a positive
clock rate must be configured. -/
def processRtpChecked (self : KmsRtpSynchronizer) (pts : GstClockTime) (header : RtpHeader) :
    RtpOutcome :=
  if (header.payloadType.toNat : Int) ≠ self.pt.toInt then
    ⟨some (.unknownPt header.payloadType self.pt), pts, self⟩
  else if self.clockRate.toInt ≤ 0 then
    ⟨some (.invalidClockRate self.clockRate), pts, self⟩
  else self.processRtpAccepted pts header

/-- `kms_rtp_synchronizer_process_rtp_buffer_mapped`. -/
def processRtpBufferMapped (self : KmsRtpSynchronizer) (pts : GstClockTime)
    (header : RtpHeader) : RtpOutcome :=
  if self.ssrc ≠ 0 ∧ header.ssrc ≠ self.ssrc then
    ⟨some (.invalidSsrc header.ssrc self.ssrc), pts, self⟩
  else (self.latchSsrc header.ssrc).processRtpChecked pts header

/-- `kms_rtp_synchronizer_process_rtp_buffer_writable`. -/
def processRtpBufferWritable (self : KmsRtpSynchronizer) (buffer : RtpBuffer) : RtpOutcome :=
  match buffer.header with
  | none => ⟨some .rtpNotMapped, buffer.pts, self⟩
  | some header => self.processRtpBufferMapped buffer.pts header

end RtpSync.KmsRtpSynchronizer

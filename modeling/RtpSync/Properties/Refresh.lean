import RtpSync.Properties.Anchors
import RtpSync.Properties.Reordering
import RtpSync.Properties.Saturation

/-!
# A fresh Sender Report on the clock line

An SR on the clock line of the latest one moves a synchronized PTS only by the
rounding of two truncated divisions, at most one nanosecond (lines 285-288 and
513-534).
-/

set_option autoImplicit false

namespace RtpSync

open Gst KmsRtpSynchronizer

/-- `quotient` is `value / divisor` rounded toward zero: the remainder has the
sign of `value` and is smaller than the divisor. -/
def TruncatedQuotient (value quotient divisor : Int) : Prop :=
  (0 ≤ value → 0 ≤ value - quotient * divisor ∧ value - quotient * divisor < divisor) ∧
    (value ≤ 0 → -divisor < value - quotient * divisor ∧ value - quotient * divisor ≤ 0)

theorem TruncatedQuotient.near {value quotient divisor : Int} (truncated : TruncatedQuotient value quotient divisor) :
    -divisor < value - quotient * divisor ∧ value - quotient * divisor < divisor := by
  unfold TruncatedQuotient at truncated
  omega

theorem scaledOffset_rounding (e base : Nat) {clockRate : Nat} (positive : 0 < clockRate) :
    TruncatedQuotient (((e : Int) - base) * 10 ^ 9) (scaledOffset e base clockRate) clockRate := by
  unfold TruncatedQuotient scaledOffset
  split_ifs with later
  · have split := Nat.div_add_mod' ((e - base) * 10 ^ 9) clockRate
    have remainder := Nat.mod_lt ((e - base) * 10 ^ 9) positive
    generalize (e - base) * 10 ^ 9 / clockRate = quotient at split ⊢
    generalize (e - base) * 10 ^ 9 % clockRate = rest at split remainder
    omega
  · have split := Nat.div_add_mod' ((base - e) * 10 ^ 9) clockRate
    have remainder := Nat.mod_lt ((base - e) * 10 ^ 9) positive
    generalize (base - e) * 10 ^ 9 / clockRate = quotient at split ⊢
    generalize (base - e) * 10 ^ 9 % clockRate = rest at split remainder
    rw [Int.neg_mul]
    omega

theorem quotient_bound {value quotient divisor bound : Int} (positive : 0 < divisor)
    (rounding : -divisor < value - quotient * divisor ∧ value - quotient * divisor < divisor)
    (bounded : -(bound * divisor) ≤ value ∧ value ≤ bound * divisor) :
    -bound ≤ quotient ∧ quotient ≤ bound := by
  have below : (-bound - 1) * divisor < quotient * divisor := by
    rw [Int.sub_mul, Int.neg_mul, Int.one_mul]
    omega
  have above : quotient * divisor < (bound + 1) * divisor := by
    rw [Int.add_mul, Int.one_mul]
    omega
  have := Int.lt_of_mul_lt_mul_right below positive.le
  have := Int.lt_of_mul_lt_mul_right above positive.le
  omega

/-- The arithmetic of a refresh: `shift` is `ahead·10^9 / c` rounded toward
zero, so the packet's offsets from the old SR and from the new one differ by
`shift` up to one. -/
theorem refresh_offsets {c shift ahead behind direct refreshed : Int} (positive : 0 < c)
    (line : TruncatedQuotient (ahead * 10 ^ 9) shift c)
    (shiftBound : -(2 ^ 32 * 10 ^ 9) < shift ∧ shift < 2 ^ 32 * 10 ^ 9)
    (behindBound : -2 ^ 31 < behind ∧ behind < 2 ^ 31)
    (directRounding : TruncatedQuotient ((ahead + behind) * 10 ^ 9) direct c)
    (refreshedRounding : TruncatedQuotient (behind * 10 ^ 9) refreshed c) :
    (-(2 ^ 64 - 1) ≤ direct ∧ direct ≤ 2 ^ 64 - 1) ∧
      (-(2 ^ 64 - 1) ≤ refreshed ∧ refreshed ≤ 2 ^ 64 - 1) ∧
      -1 ≤ shift + refreshed - direct ∧ shift + refreshed - direct ≤ 1 := by
  have shiftedBelow := Int.mul_le_mul_of_nonneg_right shiftBound.1.le positive.le
  have shiftedAbove := Int.mul_le_mul_of_nonneg_right shiftBound.2.le positive.le
  rw [Int.neg_mul] at shiftedBelow
  have near := line.near
  have directBound := quotient_bound positive directRounding.near
    (show -((2 ^ 32 * 10 ^ 9 + 2 ^ 31 * 10 ^ 9 + 1) * c) ≤ _ ∧ _ ≤ (2 ^ 32 * 10 ^ 9 + 2 ^ 31 * 10 ^ 9 + 1) * c by
      omega)
  have refreshedBound := quotient_bound positive refreshedRounding.near
    (show -(2 ^ 31 * 10 ^ 9 * c) ≤ _ ∧ _ ≤ 2 ^ 31 * 10 ^ 9 * c by omega)
  have product : (shift + refreshed - direct) * c = shift * c + refreshed * c - direct * c := by
    rw [Int.sub_mul, Int.add_mul]
  unfold TruncatedQuotient at line directRounding refreshedRounding
  have upper : (shift + refreshed - direct) * c < 2 * c := by rw [product]; omega
  have lower : -2 * c < (shift + refreshed - direct) * c := by rw [product]; omega
  have := Int.lt_of_mul_lt_mul_right upper positive.le
  have := Int.lt_of_mul_lt_mul_right lower positive.le
  omega

theorem Gst.GstRtcpPacket.ntpNanoseconds_lt (packet : GstRtcpPacket) :
    packet.ntpNanoseconds.toNat < 2 ^ 32 * 10 ^ 9 := by
  have bounded := packet.ntpTime.toNat_lt
  have second : gstSecond.toNat = 10 ^ 9 := rfl
  have word : (0x100000000 : UInt64).toNat = 2 ^ 32 := rfl
  have quotient : packet.ntpTime.toNat * 10 ^ 9 / 2 ^ 32 < 2 ^ 32 * 10 ^ 9 :=
    Nat.div_lt_of_lt_mul (by omega)
  rw [GstRtcpPacket.ntpNanoseconds, gstUtilUint64Scale_toNat _ _ _ (by decide), second, word]
  omega

theorem SyncCall.senderReport_ntpTime_lt {call : SyncCall} {self : KmsRtpSynchronizer} {report : SenderReport}
    (reported : call.senderReport self = some report) : report.ntpTime.toNat < 2 ^ 32 * 10 ^ 9 := by
  cases call with
  | processRtcpBuffer buffer =>
      obtain ⟨packet, -, rfl⟩ := Option.map_eq_some'.mp reported
      exact packet.ntpNanoseconds_lt
  | setPtClockRate | processRtpBuffer => cases reported

/-- In every reachable state with a base anchor, the latest SR's NTP time is a
converted one. -/
theorem Reachable.lastRtcpNtpTime_lt {self : KmsRtpSynchronizer} (reachable : Reachable self)
    (initiated : self.baseInitiated = true) : self.lastRtcpNtpTime.toNat < 2 ^ 32 * 10 ^ 9 := by
  induction reachable with
  | new => cases initiated
  | call call previous ih =>
      rename_i self
      have step := exec_anchors self call
      rcases reported : call.senderReport self with _ | report <;> rw [reported] at step
      · have kept := congrArg Anchors.lastRtcpNtpTime step
        have stillInitiated := congrArg Anchors.baseInitiated step
        simp only [anchors] at kept stillInitiated
        rw [kept]
        exact ih (stillInitiated ▸ initiated)
      · have last := congrArg Anchors.lastRtcpNtpTime step
        simp only [anchors] at last
        rw [last, (Anchors.record_last _ _).1]
        exact SyncCall.senderReport_ntpTime_lt reported

theorem saturatedOffset_eq_scaledOffset {e base clockRate : Nat}
    (fits : -(2 ^ 64 - 1) ≤ scaledOffset e base clockRate ∧ scaledOffset e base clockRate ≤ 2 ^ 64 - 1) :
    saturatedOffset e base clockRate = scaledOffset e base clockRate := by
  unfold saturatedOffset scaledOffset at *
  split_ifs at * <;> rw [Nat.min_eq_left (by omega)]

/-- The synchronized-regime PTS over the integers, before any saturation or
clamping: `base_sync_time`, plus the NTP time from the base SR to the latest
SR, plus the exact media offset from the latest SR, rounded toward zero. -/
def KmsRtpSynchronizer.unclampedSyncPts (self : KmsRtpSynchronizer) : Int :=
  self.baseSyncTime.toNat + ((self.lastRtcpNtpTime.toNat : Int) - self.baseNtpTime.toNat) +
    scaledOffset self.rtpExtTs.toNat self.lastRtcpExtTs.toNat self.clockRate.toInt.toNat

theorem syncPts_toNat_of_unclamped (self : KmsRtpSynchronizer) (rate : 0 < self.clockRate.toInt)
    (fits : -(2 ^ 64 - 1) ≤ scaledOffset self.rtpExtTs.toNat self.lastRtcpExtTs.toNat self.clockRate.toInt.toNat ∧
      scaledOffset self.rtpExtTs.toNat self.lastRtcpExtTs.toNat self.clockRate.toInt.toNat ≤ 2 ^ 64 - 1)
    (inRange : 0 ≤ self.unclampedSyncPts ∧ self.unclampedSyncPts ≤ 2 ^ 64 - 1) :
    (self.syncPts.toNat : Int) = self.unclampedSyncPts := by
  obtain ⟨exclusive, value⟩ := ntpAdjust_flaggedValue self
  unfold syncPts
  rw [rtpDiffFull_toNat _ _ _ exclusive rate, value, saturatedOffset_eq_scaledOffset fits]
  unfold unclampedSyncPts at inRange ⊢
  simp only [clampClockTime]
  split_ifs <;> omega

section Synced

variable (self : KmsRtpSynchronizer) (unsorted : self.feededSorted = false)
  (initiated : self.baseInitiated = true) (pts : GstClockTime) {header : RtpHeader}
  (accepted : self.AcceptsHeader header)
include unsorted initiated accepted

theorem processRtpBufferMapped_of_synced :
    (self.processRtpBufferMapped pts header).pts = (self.processRtpBufferMapped pts header).self.syncPts ∧
      (self.processRtpBufferMapped pts header).self.session = self.session ∧
      (self.processRtpBufferMapped pts header).self.rtpExtTs =
        gstRtpBufferExtTimestamp self.rtpExtTs header.timestamp := by
  have latched := latchSsrc_session self header.ssrc
  have latchedInitiated : (self.latchSsrc header.ssrc).baseInitiated = true :=
    (congrArg Session.baseInitiated latched).trans initiated
  rw [processRtpBufferMapped_of_accepts _ _ _ accepted, processRtpAccepted_of_unsorted _ _ _
    (by rw [latchSsrc_feededSorted]; exact unsorted) (.inl latchedInitiated)]
  refine ⟨?_, latched, by rw [latchSsrc_rtpExtTs]⟩
  simp only [computePts, latchedInitiated, if_true]

/-- With its media offset within 64 bits and no clamping, the synchronized PTS
of an accepted packet is `base_sync_time`, plus the NTP time from the base SR to
the latest one, plus the packet's media offset from the latest SR. -/
theorem processRtpBufferMapped_pts_of_synced
    (fits : -(2 ^ 64 - 1) ≤ scaledOffset (gstRtpBufferExtTimestamp self.rtpExtTs header.timestamp).toNat
        self.lastRtcpExtTs.toNat self.clockRate.toInt.toNat ∧
      scaledOffset (gstRtpBufferExtTimestamp self.rtpExtTs header.timestamp).toNat
        self.lastRtcpExtTs.toNat self.clockRate.toInt.toNat ≤ 2 ^ 64 - 1)
    (inRange : 0 ≤ (self.processRtpBufferMapped pts header).self.unclampedSyncPts ∧
      (self.processRtpBufferMapped pts header).self.unclampedSyncPts ≤ 2 ^ 64 - 1) :
    ((self.processRtpBufferMapped pts header).pts.toNat : Int) =
      self.baseSyncTime.toNat + ((self.lastRtcpNtpTime.toNat : Int) - self.baseNtpTime.toNat) +
        scaledOffset (gstRtpBufferExtTimestamp self.rtpExtTs header.timestamp).toNat
          self.lastRtcpExtTs.toNat self.clockRate.toInt.toNat := by
  obtain ⟨synced, session, tracker⟩ := processRtpBufferMapped_of_synced self unsorted initiated pts accepted
  simp only [KmsRtpSynchronizer.session, Session.mk.injEq] at session
  obtain ⟨-, rate, -, baseNtp, baseSync, lastExt, lastNtp⟩ := session
  rw [synced, syncPts_toNat_of_unclamped _ (by rw [rate]; exact accepted.2.2)
    (by rw [tracker, lastExt, rate]; exact fits) inRange, unclampedSyncPts, tracker, lastExt, rate, baseNtp,
    baseSync, lastNtp]

end Synced

/-- Unsorted, in the synchronized regime, from any reachable state whose tracker
is away from the ends of its range: an SR on the clock line of the latest one
(its NTP advance is its media advance in ns, rounded toward zero), with its RTP
time and the packet's timestamp strictly within `2^30` ticks of the tracker's
low bits, moves the PTS of an accepted packet by at most one nanosecond,
provided neither PTS is clamped. -/
theorem sender_report_on_clock_line_moves_pts_at_most_one (self : KmsRtpSynchronizer)
    (reachable : Reachable self) (initiated : self.baseInitiated = true)
    (unsorted : self.feededSorted = false)
    (low : 2 ^ 31 ≤ self.rtpExtTs.toNat) (high : self.rtpExtTs.toNat < 2 ^ 64 - 2 ^ 32)
    {report : RtcpBuffer} {packet : GstRtcpPacket} (isReport : report.senderReport? = some packet)
    (pts : GstClockTime) {header : RtpHeader} (accepted : self.AcceptsHeader header)
    (reportNear : -2 ^ 30 < signed32 (packet.rtpTime - self.rtpExtTs.toUInt32) ∧
      signed32 (packet.rtpTime - self.rtpExtTs.toUInt32) < 2 ^ 30)
    (packetNear : -2 ^ 30 < signed32 (header.timestamp - self.rtpExtTs.toUInt32) ∧
      signed32 (header.timestamp - self.rtpExtTs.toUInt32) < 2 ^ 30)
    (onLine : (packet.ntpNanoseconds.toNat : Int) - self.lastRtcpNtpTime.toNat =
      scaledOffset (gstRtpBufferExtTimestamp self.rtpExtTs packet.rtpTime).toNat self.lastRtcpExtTs.toNat
        self.clockRate.toInt.toNat)
    (directInRange : 0 ≤ (self.processRtpBufferMapped pts header).self.unclampedSyncPts ∧
      (self.processRtpBufferMapped pts header).self.unclampedSyncPts ≤ 2 ^ 64 - 1)
    (refreshedInRange :
      0 ≤ (((SyncCall.processRtcpBuffer report).exec self).self.processRtpBufferMapped pts header
        ).self.unclampedSyncPts ∧
      (((SyncCall.processRtcpBuffer report).exec self).self.processRtpBufferMapped pts header).self.unclampedSyncPts ≤
        2 ^ 64 - 1) :
    (((SyncCall.processRtcpBuffer report).exec self).self.processRtpBufferMapped pts header).pts.toNat ≤
        (self.processRtpBufferMapped pts header).pts.toNat + 1 ∧
      (self.processRtpBufferMapped pts header).pts.toNat ≤
        (((SyncCall.processRtcpBuffer report).exec self).self.processRtpBufferMapped pts header).pts.toNat + 1 := by
  have refreshedState : ((SyncCall.processRtcpBuffer report).exec self).self =
      { self with
        rtpExtTs := gstRtpBufferExtTimestamp self.rtpExtTs packet.rtpTime
        lastRtcpExtTs := gstRtpBufferExtTimestamp self.rtpExtTs packet.rtpTime
        lastRtcpNtpTime := packet.ntpNanoseconds } := by
    rw [SyncCall.exec_processRtcpBuffer_self, isReport]
    simp only [initiated, if_true]
  rw [refreshedState] at refreshedInRange ⊢
  have rate : 0 < self.clockRate.toInt := accepted.2.2
  have positive : 0 < self.clockRate.toInt.toNat := by omega
  have clockRate : ((self.clockRate.toInt.toNat : Nat) : Int) = self.clockRate.toInt := Int.toNat_of_nonneg rate.le
  have closeReport := close_gstRtpBufferExtTimestamp low high reportNear
  have closePacket := close_gstRtpBufferExtTimestamp low high packetNear
  have sameLift := gstRtpBufferExtTimestamp_of_close low high closeReport packetNear
  have shiftBound := packet.ntpNanoseconds_lt
  have lastBound := reachable.lastRtcpNtpTime_lt initiated
  generalize gstRtpBufferExtTimestamp self.rtpExtTs packet.rtpTime = anchor at *
  have directRounding := scaledOffset_rounding (gstRtpBufferExtTimestamp self.rtpExtTs header.timestamp).toNat
    self.lastRtcpExtTs.toNat positive
  have refreshedRounding := scaledOffset_rounding (gstRtpBufferExtTimestamp self.rtpExtTs header.timestamp).toNat
    anchor.toNat positive
  unfold Close at closeReport closePacket
  rw [clockRate, show ((gstRtpBufferExtTimestamp self.rtpExtTs header.timestamp).toNat : Int) -
      self.lastRtcpExtTs.toNat = (anchor.toNat - self.lastRtcpExtTs.toNat) +
        ((gstRtpBufferExtTimestamp self.rtpExtTs header.timestamp).toNat - anchor.toNat) by omega] at directRounding
  have line := scaledOffset_rounding anchor.toNat self.lastRtcpExtTs.toNat positive
  rw [← onLine, clockRate] at line
  rw [clockRate] at refreshedRounding
  obtain ⟨directFits, refreshedFits, shifted⟩ := refresh_offsets rate line (by omega) (by omega)
    directRounding refreshedRounding
  have direct := processRtpBufferMapped_pts_of_synced self unsorted initiated pts accepted directFits directInRange
  have refreshed := processRtpBufferMapped_pts_of_synced
    { self with rtpExtTs := anchor, lastRtcpExtTs := anchor, lastRtcpNtpTime := packet.ntpNanoseconds }
    unsorted initiated pts accepted (by dsimp only; rw [sameLift]; exact refreshedFits) refreshedInRange
  dsimp only at refreshed
  rw [sameLift] at refreshed
  omega

/-- The bound is reached: an SR 128 ticks below the tracker, on the clock line,
and a packet 28 ticks below it, whose offset from the old SR rounds up toward
zero and whose offset from the new SR rounds down. -/
theorem sender_report_on_clock_line_rounding_step :
    let self := (KmsRtpSynchronizer.new false).run [.setPtClockRate 96 65536,
      .processRtcpBuffer ⟨100000000000000, some [⟨.sr, 7, 85899345920000, 0xC0000000⟩]⟩]
    let report : RtcpBuffer := ⟨0, some [⟨.sr, 7, 85899337531392, 0xBFFFFF80⟩]⟩
    let header : RtpHeader := ⟨7, 1, 0xBFFFFFE4, 96⟩
    (((SyncCall.processRtcpBuffer report).exec self).self.processRtpBufferMapped 0 header).pts.toNat + 1 =
      (self.processRtpBufferMapped 0 header).pts.toNat ∧
    (((SyncCall.processRtcpBuffer report).exec self).self.processRtpBufferMapped 0 header).pts.toNat ≤
        (self.processRtpBufferMapped 0 header).pts.toNat + 1 ∧
      (self.processRtpBufferMapped 0 header).pts.toNat ≤
        (((SyncCall.processRtcpBuffer report).exec self).self.processRtpBufferMapped 0 header).pts.toNat + 1 :=
  ⟨by decide, sender_report_on_clock_line_moves_pts_at_most_one _ ((Reachable.new false).run _) (by decide)
    (by decide) (by decide) (by decide) (by rfl) 0 (by decide) (by decide) (by decide) (by decide) (by decide)
    (by decide)⟩

/-- At the inclusive edge of the window, an SR `2^30` ticks below the tracker's
low bits and a packet `2^30` ticks above them are `2^31` apart: after the SR the
packet is lifted `2^32` ticks lower, and its PTS drops by 65536 s. -/
theorem sender_report_at_window_edge_moves_pts :
    let self := (KmsRtpSynchronizer.new false).run [.setPtClockRate 96 65536,
      .processRtcpBuffer ⟨100000000000000, some [⟨.sr, 7, 85899345920000, 0xC0000000⟩]⟩]
    let packet : GstRtcpPacket := ⟨.sr, 7, 15530601742336, 0x80000000⟩
    let report : RtcpBuffer := ⟨0, some [packet]⟩
    let header : RtpHeader := ⟨7, 1, 0, 96⟩
    let refreshed := ((SyncCall.processRtcpBuffer report).exec self).self
    self.baseInitiated = true ∧ self.feededSorted = false ∧
      2 ^ 31 ≤ self.rtpExtTs.toNat ∧ self.rtpExtTs.toNat < 2 ^ 64 - 2 ^ 32 ∧
      report.senderReport? = some packet ∧ self.AcceptsHeader header ∧
      signed32 (packet.rtpTime - self.rtpExtTs.toUInt32) = -2 ^ 30 ∧
      signed32 (header.timestamp - self.rtpExtTs.toUInt32) = 2 ^ 30 ∧
      ((packet.ntpNanoseconds.toNat : Int) - self.lastRtcpNtpTime.toNat) * self.clockRate.toInt =
        (((gstRtpBufferExtTimestamp self.rtpExtTs packet.rtpTime).toNat : Int) - self.lastRtcpExtTs.toNat) * 10 ^ 9 ∧
      (0 ≤ (self.processRtpBufferMapped 0 header).self.unclampedSyncPts ∧
        (self.processRtpBufferMapped 0 header).self.unclampedSyncPts ≤ 2 ^ 64 - 1) ∧
      (0 ≤ (refreshed.processRtpBufferMapped 0 header).self.unclampedSyncPts ∧
        (refreshed.processRtpBufferMapped 0 header).self.unclampedSyncPts ≤ 2 ^ 64 - 1) ∧
      (refreshed.processRtpBufferMapped 0 header).pts.toNat + 65536 * 10 ^ 9 =
        (self.processRtpBufferMapped 0 header).pts.toNat := by
  decide

end RtpSync

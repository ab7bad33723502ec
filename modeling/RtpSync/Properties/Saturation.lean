import RtpSync.Synchronizer.Frame

/-!
# Saturating PTS arithmetic

`rtp_diff_full` read over the integers: exact, then clamped to
`[0, G_MAXUINT64]`, except at `-1` and `2^64`, where the strict comparisons of
lines 340 and 361 let the result wrap.
-/

set_option autoImplicit false

namespace RtpSync

open Gst

/-- An integer brought into `GstClockTime`'s range `[0, 2^64 - 1]`. -/
def clampClockTime (value : Int) : Nat := min value.toNat (2 ^ 64 - 1)

/-- `|e - base|` media ticks in nanoseconds at `clockRate`, rounded down, with
the sign of `e - base`. -/
def scaledOffset (e base clockRate : Nat) : Int :=
  if base < e then ((e - base) * 10 ^ 9 / clockRate : Nat)
  else -(((base - e) * 10 ^ 9 / clockRate : Nat) : Int)

/-- `scaledOffset` with the magnitude cut at `G_MAXUINT64`, as
`gst_util_uint64_scale_int` returns it. -/
def saturatedOffset (e base clockRate : Nat) : Int :=
  if base < e then (min ((e - base) * 10 ^ 9 / clockRate) (2 ^ 64 - 1) : Nat)
  else -((min ((base - e) * 10 ^ 9 / clockRate) (2 ^ 64 - 1) : Nat) : Int)

/-- The integer a flagged PTS stands for. -/
def flaggedValue (pts : GstClockTime) (wrappedDown wrappedUp : Bool) : Int :=
  if wrappedDown then pts.toNat - 2 ^ 64 else if wrappedUp then pts.toNat + 2 ^ 64 else pts.toNat

theorem forward_move_toNat (pts diff : GstClockTime) (wrappedDown wrappedUp : Bool)
    (exclusive : ¬ (wrappedDown = true ∧ wrappedUp = true)) :
    (if wrappedUp then gMaxUint64
      else if wrappedDown ∧ diff < gMaxUint64 - pts then 0
      else if !wrappedDown ∧ diff > gMaxUint64 - pts then gMaxUint64
      else pts + diff).toNat =
      if flaggedValue pts wrappedDown wrappedUp + diff.toNat = -1 then 2 ^ 64 - 1
      else clampClockTime (flaggedValue pts wrappedDown wrappedUp + diff.toNat) := by
  have bounded := pts.toNat_lt
  have small := diff.toNat_lt
  have room := gMaxUint64_sub_toNat pts
  unfold flaggedValue clampClockTime
  cases wrappedDown <;> cases wrappedUp <;>
    simp only [Bool.false_eq_true, true_and, false_and, and_true, and_false, Bool.not_false,
      Bool.not_true, if_true, if_false, not_true_eq_false] at exclusive ⊢ <;>
    split_ifs <;>
    simp only [lt_iff_toNat_lt, gt_iff_lt, UInt64.toNat_add, UInt64.size, gMaxUint64_toNat,
      UInt64.toNat_zero] at * <;>
    omega

theorem backward_move_toNat (pts diff : GstClockTime) (wrappedDown wrappedUp : Bool)
    (exclusive : ¬ (wrappedDown = true ∧ wrappedUp = true)) :
    (if wrappedDown then 0
      else if wrappedUp ∧ diff < pts then gMaxUint64
      else if !wrappedUp ∧ diff > pts then 0
      else pts - diff).toNat =
      if flaggedValue pts wrappedDown wrappedUp - diff.toNat = 2 ^ 64 then 0
      else clampClockTime (flaggedValue pts wrappedDown wrappedUp - diff.toNat) := by
  have bounded := pts.toNat_lt
  have small := diff.toNat_lt
  unfold flaggedValue clampClockTime
  cases wrappedDown <;> cases wrappedUp <;>
    simp only [Bool.false_eq_true, true_and, false_and, and_true, and_false, Bool.not_false,
      Bool.not_true, if_true, if_false, not_true_eq_false] at exclusive ⊢ <;>
    split_ifs <;>
    simp only [lt_iff_toNat_lt, gt_iff_lt, UInt64.toNat_sub, UInt64.size, gMaxUint64_toNat,
      UInt64.toNat_zero] at * <;>
    omega

theorem equal_move_toNat (pts : GstClockTime) (wrappedDown wrappedUp : Bool)
    (exclusive : ¬ (wrappedDown = true ∧ wrappedUp = true)) :
    (if wrappedDown then 0 else if wrappedUp then gMaxUint64 else pts).toNat =
      clampClockTime (flaggedValue pts wrappedDown wrappedUp) := by
  have bounded := pts.toNat_lt
  unfold flaggedValue clampClockTime
  cases wrappedDown <;> cases wrappedUp <;>
    simp only [Bool.false_eq_true, if_true, if_false, UInt64.toNat_zero, gMaxUint64_toNat] at exclusive ⊢ <;>
    omega

theorem scaled_diff_toNat {later earlier : UInt64} (before : earlier < later) {clockRate : GInt32}
    (rate : 0 < clockRate.toInt) :
    (gstUtilUint64ScaleInt (later - earlier) (BitVec.ofNat 32 gstSecond.toNat) clockRate).toNat =
      min ((later.toNat - earlier.toNat) * 10 ^ 9 / clockRate.toInt.toNat) (2 ^ 64 - 1) := by
  rw [gstUtilUint64ScaleInt_toNat _ (by simp) rate,
    UInt64.toNat_sub_of_le _ _ (Nat.le_of_lt before)]
  rfl

theorem rtpDiffFull_toNat (self : KmsRtpSynchronizer) (pts : GstClockTime) {clockRate : GInt32}
    (baseExtTs : UInt64) {wrappedDown wrappedUp : Bool}
    (exclusive : ¬ (wrappedDown = true ∧ wrappedUp = true)) (rate : 0 < clockRate.toInt) :
    (self.rtpDiffFull pts clockRate baseExtTs wrappedDown wrappedUp).toNat =
      let target := flaggedValue pts wrappedDown wrappedUp +
        saturatedOffset self.rtpExtTs.toNat baseExtTs.toNat clockRate.toInt.toNat
      if baseExtTs < self.rtpExtTs ∧ target = -1 then 2 ^ 64 - 1
      else if self.rtpExtTs < baseExtTs ∧ target = 2 ^ 64 then 0
      else clampClockTime target := by
  unfold KmsRtpSynchronizer.rtpDiffFull saturatedOffset
  by_cases forward : baseExtTs < self.rtpExtTs
  · have backward : ¬ self.rtpExtTs < baseExtTs := by
      rw [lt_iff_toNat_lt] at forward ⊢
      omega
    rw [if_pos forward, forward_move_toNat _ _ _ _ exclusive, scaled_diff_toNat forward rate]
    simp only [forward, backward, true_and, false_and, if_true, if_false, lt_iff_toNat_lt.mp forward]
  · by_cases backward : self.rtpExtTs < baseExtTs
    · rw [if_neg forward, if_pos backward, backward_move_toNat _ _ _ _ exclusive,
        scaled_diff_toNat backward rate]
      simp only [forward, backward, false_and, true_and, if_false,
        show ¬ baseExtTs.toNat < self.rtpExtTs.toNat from forward, Int.sub_eq_add_neg]
    · have same : self.rtpExtTs.toNat = baseExtTs.toNat := by
        rw [lt_iff_toNat_lt] at forward backward
        omega
      rw [if_neg forward, if_neg backward, equal_move_toNat _ _ _ exclusive]
      simp [forward, backward, same]

theorem ntpAdjust_flaggedValue (self : KmsRtpSynchronizer) :
    ¬ (self.ntpAdjust.wrappedDown = true ∧ self.ntpAdjust.wrappedUp = true) ∧
      flaggedValue self.ntpAdjust.pts self.ntpAdjust.wrappedDown self.ntpAdjust.wrappedUp =
        self.baseSyncTime.toNat + ((self.lastRtcpNtpTime.toNat : Int) - self.baseNtpTime.toNat) := by
  have sync := self.baseSyncTime.toNat_lt
  have last := self.lastRtcpNtpTime.toNat_lt
  have base := self.baseNtpTime.toNat_lt
  have room := gMaxUint64_sub_toNat self.baseSyncTime
  unfold KmsRtpSynchronizer.ntpAdjust
  by_cases later : self.baseNtpTime < self.lastRtcpNtpTime
  · have diff := UInt64.toNat_sub_of_le _ _ (Nat.le_of_lt later)
    have sum := UInt64.toNat_add self.baseSyncTime (self.lastRtcpNtpTime - self.baseNtpTime)
    simp only [UInt64.size] at sum
    simp only [gt_iff_lt, later, if_true, flaggedValue, Bool.false_eq_true, false_and,
      not_false_eq_true, true_and, if_false, decide_eq_true_eq]
    rw [lt_iff_toNat_lt] at later
    split_ifs with wrapped <;> rw [lt_iff_toNat_lt] at * <;> omega
  · by_cases earlier : self.lastRtcpNtpTime < self.baseNtpTime
    · have diff := UInt64.toNat_sub_of_le _ _ (Nat.le_of_lt earlier)
      have difference := UInt64.toNat_sub self.baseSyncTime (self.baseNtpTime - self.lastRtcpNtpTime)
      simp only [UInt64.size] at difference
      simp only [gt_iff_lt, later, earlier, if_true, if_false, flaggedValue, Bool.false_eq_true,
        and_false, not_false_eq_true, true_and, decide_eq_true_eq]
      rw [lt_iff_toNat_lt] at earlier
      split_ifs with wrapped <;> rw [lt_iff_toNat_lt] at * <;> omega
    · rw [lt_iff_toNat_lt] at later earlier
      simp only [gt_iff_lt, lt_iff_toNat_lt, later, earlier, if_false, flaggedValue,
        Bool.false_eq_true, and_false, not_false_eq_true, true_and]
      omega

/-- The synchronized-regime PTS over the integers: `base_sync_time` plus the NTP
offset plus the saturated media offset from the latest SR, clamped, except
that `-1` after a forward move comes out as `G_MAXUINT64` and `2^64` after a
backward move as `0`. -/
theorem syncPts_toNat (self : KmsRtpSynchronizer) (rate : 0 < self.clockRate.toInt) :
    let target : Int := self.baseSyncTime.toNat +
      ((self.lastRtcpNtpTime.toNat : Int) - self.baseNtpTime.toNat) +
      saturatedOffset self.rtpExtTs.toNat self.lastRtcpExtTs.toNat self.clockRate.toInt.toNat
    self.syncPts.toNat =
      if self.lastRtcpExtTs < self.rtpExtTs ∧ target = -1 then 2 ^ 64 - 1
      else if self.rtpExtTs < self.lastRtcpExtTs ∧ target = 2 ^ 64 then 0
      else clampClockTime target := by
  obtain ⟨exclusive, value⟩ := ntpAdjust_flaggedValue self
  unfold KmsRtpSynchronizer.syncPts
  rw [rtpDiffFull_toNat _ _ _ exclusive rate, value]

theorem syncPts_toNat_after_two_reports :
    let self := (KmsRtpSynchronizer.new false).run [.setPtClockRate 96 90000,
      .processRtcpBuffer ⟨1000, some [⟨.sr, 7, 0x100000000, 0⟩]⟩,
      .processRtcpBuffer ⟨2000, some [⟨.sr, 7, 0x200000000, 90000⟩]⟩,
      .processRtpBuffer ⟨0, some ⟨7, 0, 180000, 96⟩⟩]
    0 < self.clockRate.toInt ∧
    let target : Int := self.baseSyncTime.toNat +
      ((self.lastRtcpNtpTime.toNat : Int) - self.baseNtpTime.toNat) +
      saturatedOffset self.rtpExtTs.toNat self.lastRtcpExtTs.toNat self.clockRate.toInt.toNat
    self.syncPts.toNat =
      if self.lastRtcpExtTs < self.rtpExtTs ∧ target = -1 then 2 ^ 64 - 1
      else if self.rtpExtTs < self.lastRtcpExtTs ∧ target = 2 ^ 64 then 0
      else clampClockTime target :=
  ⟨by decide, syncPts_toNat _ (by decide)⟩

/-- At `V = -1` the synchronized regime emits `G_MAXUINT64`: base SR at 1 s with
sync time 0, latest SR 2 ns earlier, and a packet one tick after the latest SR
at a 10^9 Hz clock. The exact value is `0 - 2 + 1`. -/
theorem syncPts_wraps_at_minus_one :
    ∃ outcome, outcome = ((KmsRtpSynchronizer.new false).run [.setPtClockRate 96 1000000000,
        .processRtcpBuffer ⟨0, some [⟨.sr, 1, 0x100000000, 100⟩]⟩,
        .processRtcpBuffer ⟨0, some [⟨.sr, 1, 0xFFFFFFF8, 100⟩]⟩]).processRtpBufferMapped 0 ⟨7, 0, 101, 96⟩ ∧
      outcome.pts = gMaxUint64 ∧
      clampClockTime (outcome.self.baseSyncTime.toNat +
        ((outcome.self.lastRtcpNtpTime.toNat : Int) - outcome.self.baseNtpTime.toNat) +
        scaledOffset outcome.self.rtpExtTs.toNat outcome.self.lastRtcpExtTs.toNat
          outcome.self.clockRate.toInt.toNat) = 0 :=
  ⟨_, rfl, by decide⟩

theorem saturatedOffset_nonneg {e base : Nat} (later : base < e) (clockRate : Nat) :
    0 ≤ saturatedOffset e base clockRate := by
  simp only [saturatedOffset, later, if_true]
  exact Int.ofNat_zero_le _

theorem saturatedOffset_nonpos {e base : Nat} (notLater : ¬ base < e) (clockRate : Nat) :
    saturatedOffset e base clockRate ≤ 0 := by
  simp only [saturatedOffset, notLater, if_false]
  exact Int.neg_nonpos_of_nonneg (Int.ofNat_zero_le _)

theorem clamp_saturatedOffset {value : Nat} (bounded : value ≤ 2 ^ 64 - 1) (e base clockRate : Nat) :
    clampClockTime (value + saturatedOffset e base clockRate) =
      clampClockTime (value + scaledOffset e base clockRate) := by
  unfold clampClockTime saturatedOffset scaledOffset
  split_ifs
  · rcases le_total ((e - base) * 10 ^ 9 / clockRate) (2 ^ 64 - 1) with fits | saturates
    · rw [min_eq_left fits]
    · rw [min_eq_right saturates]; omega
  · rcases le_total ((base - e) * 10 ^ 9 / clockRate) (2 ^ 64 - 1) with fits | saturates
    · rw [min_eq_left fits]
    · rw [min_eq_right saturates]; omega

theorem KmsRtpSynchronizer.rtpDiffFull_toNat_of_unflagged (self : KmsRtpSynchronizer) (pts : GstClockTime)
    {clockRate : GInt32} (baseExtTs : UInt64) (rate : 0 < clockRate.toInt) :
    (self.rtpDiffFull pts clockRate baseExtTs false false).toNat =
      clampClockTime (pts.toNat + saturatedOffset self.rtpExtTs.toNat baseExtTs.toNat clockRate.toInt.toNat) := by
  have bounded := toNat_le_max pts
  rw [rtpDiffFull_toNat _ _ _ (by simp) rate]
  simp only [flaggedValue, Bool.false_eq_true, if_false]
  rw [if_neg, if_neg]
  · rintro ⟨backward, reached⟩
    have : saturatedOffset self.rtpExtTs.toNat baseExtTs.toNat clockRate.toInt.toNat ≤ 0 :=
      saturatedOffset_nonpos (by rw [lt_iff_toNat_lt] at backward; omega) _
    omega
  · rintro ⟨forward, reached⟩
    have := saturatedOffset_nonneg (lt_iff_toNat_lt.mp forward) clockRate.toInt.toNat
    omega

theorem KmsRtpSynchronizer.rtpDiff_toNat (self : KmsRtpSynchronizer) (pts : GstClockTime) {clockRate : GInt32}
    (baseExtTs : UInt64) (rate : 0 < clockRate.toInt) :
    (self.rtpDiff pts clockRate baseExtTs).toNat =
      clampClockTime (pts.toNat + scaledOffset self.rtpExtTs.toNat baseExtTs.toNat clockRate.toInt.toNat) := by
  rw [rtpDiff, rtpDiffFull_toNat_of_unflagged _ _ _ rate, clamp_saturatedOffset (toNat_le_max pts)]

/-- The interpolation regime (lines 508-512) is exact: the anchor PTS moved by
the signed media time since the anchor, clamped to `[0, G_MAXUINT64]`. -/
theorem interpolatedPts_eq_clamp (self : KmsRtpSynchronizer) (pts rtpExtTs : GstClockTime)
    (unsynchronized : self.baseInitiated = false) (anchored : self.baseInterpolateInitiated = true)
    (rate : 0 < self.clockRate.toInt) :
    (self.computePts pts rtpExtTs).2.toNat =
      clampClockTime (self.baseInterpolatePts.toNat +
        scaledOffset self.rtpExtTs.toNat self.baseInterpolateExtTs.toNat self.clockRate.toInt.toNat) := by
  simp only [KmsRtpSynchronizer.computePts, unsynchronized, anchored, Bool.false_eq_true, if_true, if_false]
  exact self.rtpDiff_toNat _ _ rate

theorem interpolatedPts_eq_clamp_after_first_packet :
    let self := (KmsRtpSynchronizer.new false).run [.setPtClockRate 96 90000,
      .processRtpBuffer ⟨1000000000, some ⟨7, 0, 90000, 96⟩⟩,
      .processRtpBuffer ⟨0, some ⟨7, 1, 45000, 96⟩⟩]
    (self.baseInitiated = false ∧ self.baseInterpolateInitiated = true ∧ 0 < self.clockRate.toInt) ∧
    (self.computePts 0 self.rtpExtTs).2.toNat =
      clampClockTime (self.baseInterpolatePts.toNat +
        scaledOffset self.rtpExtTs.toNat self.baseInterpolateExtTs.toNat self.clockRate.toInt.toNat) :=
  ⟨by decide, interpolatedPts_eq_clamp _ 0 _ (by decide) (by decide) (by decide)⟩

open KmsRtpSynchronizer in
/-- End to end: unsorted, an accepted packet in the interpolation regime is
given that value at its own extended timestamp, which lines 467-469 compute. -/
theorem processRtpBufferMapped_pts_of_interpolated (self : KmsRtpSynchronizer) (pts : GstClockTime)
    {header : RtpHeader} (unsorted : self.feededSorted = false) (unsynchronized : self.baseInitiated = false)
    (anchored : self.baseInterpolateInitiated = true) (accepted : self.AcceptsHeader header) :
    (self.processRtpBufferMapped pts header).pts.toNat =
      clampClockTime (self.baseInterpolatePts.toNat + scaledOffset
        (gstRtpBufferExtTimestamp self.rtpExtTs header.timestamp).toNat self.baseInterpolateExtTs.toNat
        self.clockRate.toInt.toNat) := by
  have latched := latchSsrc_session self header.ssrc
  have latchedAnchor := latchSsrc_interpolation self header.ssrc
  simp only [session, interpolation, Session.mk.injEq, Interpolation.mk.injEq] at latched latchedAnchor
  rw [processRtpBufferMapped_of_accepts _ _ _ accepted,
    processRtpAccepted_of_unsorted _ _ _
      (by rw [latchSsrc_feededSorted]; exact unsorted) (.inr (latchedAnchor.1.trans anchored))]
  simp only [computePts, latched.2.2.1, latchedAnchor.1, unsynchronized, anchored, Bool.false_eq_true,
    if_true, if_false, latchSsrc_rtpExtTs]
  rw [rtpDiff_toNat _ _ _ (by rw [latched.2.1]; exact accepted.2.2), latched.2.1, latchedAnchor.2.1,
    latchedAnchor.2.2]

end RtpSync

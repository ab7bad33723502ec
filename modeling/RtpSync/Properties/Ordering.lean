import RtpSync.Properties.Saturation
import RtpSync.Properties.SortedMode

/-!
# PTS order between Sender Reports

Unsorted and between SRs, every accepted packet's PTS is one monotone function
of its extended timestamp (`ptsAt`), whatever the arrival order, provided the
NTP-adjusted base of the synchronized regime is in range.
-/

set_option autoImplicit false

namespace RtpSync

open Gst

theorem clampClockTime_mono {value value' : Int} (le : value ≤ value') :
    clampClockTime value ≤ clampClockTime value' :=
  min_le_min_right _ (Int.toNat_le_toNat le)

theorem saturatedOffset_mono {e e' : Nat} (le : e ≤ e') (base clockRate : Nat) :
    saturatedOffset e base clockRate ≤ saturatedOffset e' base clockRate := by
  unfold saturatedOffset
  split_ifs with later later'
  · have scaled : (e - base) * 10 ^ 9 / clockRate ≤ (e' - base) * 10 ^ 9 / clockRate :=
      Nat.div_le_div_right (Nat.mul_le_mul_right _ (Nat.sub_le_sub_right le base))
    exact Int.ofNat_le.mpr (min_le_min_right _ scaled)
  · omega
  · exact le_trans (Int.neg_nonpos_of_nonneg (Int.ofNat_zero_le _)) (Int.ofNat_zero_le _)
  · have scaled : (base - e') * 10 ^ 9 / clockRate ≤ (base - e) * 10 ^ 9 / clockRate :=
      Nat.div_le_div_right (Nat.mul_le_mul_right _ (Nat.sub_le_sub_left le base))
    exact Int.neg_le_neg (Int.ofNat_le.mpr (min_le_min_right _ scaled))

namespace KmsRtpSynchronizer

theorem rtpDiffFull_mono (self : KmsRtpSynchronizer) (pts : GstClockTime) {clockRate : GInt32}
    (baseExtTs : UInt64) (rate : 0 < clockRate.toInt) {e e' : GstClockTime} (le : e ≤ e') :
    { self with rtpExtTs := e }.rtpDiffFull pts clockRate baseExtTs false false ≤
      { self with rtpExtTs := e' }.rtpDiffFull pts clockRate baseExtTs false false := by
  rw [le_iff_toNat_le, rtpDiffFull_toNat_of_unflagged _ _ _ rate, rtpDiffFull_toNat_of_unflagged _ _ _ rate]
  exact clampClockTime_mono (Int.add_le_add_left (saturatedOffset_mono (le_iff_toNat_le.mp le) _ _) _)

/-- `base_sync_time` moved by the NTP time from the base SR to the latest SR,
over the integers: the value lines 514-528 hand to `rtp_diff_full`. -/
def ntpBase (self : KmsRtpSynchronizer) : Int :=
  self.baseSyncTime.toNat + ((self.lastRtcpNtpTime.toNat : Int) - self.baseNtpTime.toNat)

theorem ntpBase_congr (self : KmsRtpSynchronizer) {other : KmsRtpSynchronizer}
    (session : self.session = other.session) : self.ntpBase = other.ntpBase := by
  obtain ⟨-, -, -, baseNtp, baseSync, -, lastNtp⟩ := Session.mk.inj session
  simp only [ntpBase, baseNtp, baseSync, lastNtp]

theorem inRange_congr (self : KmsRtpSynchronizer) {other : KmsRtpSynchronizer}
    (session : self.session = other.session) :
    (self.baseInitiated = true → 0 ≤ self.ntpBase ∧ self.ntpBase ≤ 2 ^ 64 - 1) ↔
      (other.baseInitiated = true → 0 ≤ other.ntpBase ∧ other.ntpBase ≤ 2 ^ 64 - 1) := by
  rw [show self.baseInitiated = other.baseInitiated from congrArg Session.baseInitiated session,
    ntpBase_congr self session]

theorem ntpAdjust_unflagged (self : KmsRtpSynchronizer)
    (inRange : 0 ≤ self.ntpBase ∧ self.ntpBase ≤ 2 ^ 64 - 1) :
    self.ntpAdjust.wrappedDown = false ∧ self.ntpAdjust.wrappedUp = false := by
  obtain ⟨exclusive, value⟩ := ntpAdjust_flaggedValue self
  have bounded := self.ntpAdjust.pts.toNat_lt
  unfold flaggedValue at value
  unfold ntpBase at inRange
  revert exclusive value
  cases self.ntpAdjust.wrappedDown <;> cases self.ntpAdjust.wrappedUp <;> simp <;> omega

/-- The PTS the regime computation of lines 496-534 gives a packet whose
extended timestamp is `rtpExtTs`, with the anchors of `self`. -/
def ptsAt (self : KmsRtpSynchronizer) (rtpExtTs : GstClockTime) : GstClockTime :=
  ({ self with rtpExtTs }.computePts 0 rtpExtTs).2

theorem ptsAt_eq (self : KmsRtpSynchronizer) (rtpExtTs : GstClockTime) :
    self.ptsAt rtpExtTs =
      if self.baseInitiated then { self with rtpExtTs }.syncPts
      else if self.baseInterpolateInitiated then
        { self with rtpExtTs }.rtpDiff self.baseInterpolatePts self.clockRate self.baseInterpolateExtTs
      else 0 := by
  unfold ptsAt computePts; split_ifs <;> rfl

/-- The monotonicity every order result rests on. -/
theorem ptsAt_mono (self : KmsRtpSynchronizer) (anchored : self.baseInitiated ∨ self.baseInterpolateInitiated)
    (rate : 0 < self.clockRate.toInt)
    (inRange : self.baseInitiated = true → 0 ≤ self.ntpBase ∧ self.ntpBase ≤ 2 ^ 64 - 1)
    {e e' : GstClockTime} (le : e ≤ e') : self.ptsAt e ≤ self.ptsAt e' := by
  rw [ptsAt_eq, ptsAt_eq]
  by_cases initiated : self.baseInitiated = true
  · obtain ⟨down, up⟩ := ntpAdjust_unflagged self (inRange initiated)
    rw [if_pos initiated, if_pos initiated]
    show { self with rtpExtTs := e }.rtpDiffFull self.ntpAdjust.pts self.clockRate self.lastRtcpExtTs
        self.ntpAdjust.wrappedDown self.ntpAdjust.wrappedUp ≤
      { self with rtpExtTs := e' }.rtpDiffFull self.ntpAdjust.pts self.clockRate self.lastRtcpExtTs
        self.ntpAdjust.wrappedDown self.ntpAdjust.wrappedUp
    rw [down, up]
    exact rtpDiffFull_mono self _ _ rate le
  · rw [if_neg initiated, if_neg initiated, if_pos (anchored.resolve_left initiated),
      if_pos (anchored.resolve_left initiated)]
    exact rtpDiffFull_mono self _ _ rate le

theorem syncPts_congr {self other : KmsRtpSynchronizer} (session : self.session = other.session)
    (tracker : self.rtpExtTs = other.rtpExtTs) : self.syncPts = other.syncPts := by
  obtain ⟨-, clockRate, -, baseNtp, baseSync, lastExt, lastNtp⟩ := Session.mk.inj session
  simp only [syncPts, ntpAdjust, rtpDiffFull_congr tracker, clockRate, baseNtp, baseSync, lastExt, lastNtp]

theorem ptsAt_congr {self other : KmsRtpSynchronizer} (session : self.session = other.session)
    (interpolation : self.interpolation = other.interpolation) : self.ptsAt = other.ptsAt := by
  obtain ⟨-, clockRate, initiated, -⟩ := Session.mk.inj session
  obtain ⟨interpolating, anchorExt, anchorPts⟩ := Interpolation.mk.inj interpolation
  funext rtpExtTs
  rw [ptsAt_eq, ptsAt_eq, @syncPts_congr { self with rtpExtTs } { other with rtpExtTs } session rfl,
    rtpDiff, rtpDiff, @rtpDiffFull_congr { self with rtpExtTs } { other with rtpExtTs } rfl, initiated,
    interpolating, anchorExt, anchorPts, clockRate]

theorem computePts_snd_eq_ptsAt (self : KmsRtpSynchronizer) (pts : GstClockTime)
    (anchored : self.baseInitiated ∨ self.baseInterpolateInitiated) :
    (self.computePts pts self.rtpExtTs).2 = self.ptsAt self.rtpExtTs :=
  congrArg Prod.snd (computePts_of_anchored self pts 0 _ anchored)

theorem processRtpAccepted_pts_of_anchored (self : KmsRtpSynchronizer) (pts : GstClockTime)
    (header : RtpHeader) (unsorted : self.feededSorted = false)
    (anchored : self.baseInitiated ∨ self.baseInterpolateInitiated) :
    (self.processRtpAccepted pts header).error = none ∧
      (self.processRtpAccepted pts header).pts =
        self.ptsAt (self.processRtpAccepted pts header).self.rtpExtTs ∧
      (self.processRtpAccepted pts header).self.feededSorted = false ∧
      (self.processRtpAccepted pts header).self.session = self.session ∧
      (self.processRtpAccepted pts header).self.interpolation = self.interpolation := by
  rw [processRtpAccepted_of_unsorted _ _ _ unsorted anchored]
  refine ⟨rfl, ?_, unsorted, rfl, rfl⟩
  have tracked := computePts_snd_eq_ptsAt
    { self with rtpExtTs := gstRtpBufferExtTimestamp self.rtpExtTs header.timestamp } pts anchored
  exact tracked.trans (congrFun (ptsAt_congr rfl rfl) _)

theorem processRtpAccepted_of_unanchored (self : KmsRtpSynchronizer) (pts : GstClockTime)
    (header : RtpHeader) (unsorted : self.feededSorted = false)
    (unsynchronized : self.baseInitiated = false) (uninterpolated : self.baseInterpolateInitiated = false) :
    self.processRtpAccepted pts header =
      ⟨none, pts, { self with
        rtpExtTs := gstRtpBufferExtTimestamp self.rtpExtTs header.timestamp
        baseInterpolateExtTs := gstRtpBufferExtTimestamp self.rtpExtTs header.timestamp
        baseInterpolatePts := pts
        baseInterpolateInitiated := true }⟩ := by
  simp [processRtpAccepted, sortedPreCheck, assignPts, computePts, sortedPostFix, unsorted, unsynchronized,
    uninterpolated]

theorem ptsAt_anchor (self : KmsRtpSynchronizer) (unsynchronized : self.baseInitiated = false)
    (rtpExtTs pts : GstClockTime) :
    ({ self with
      rtpExtTs := rtpExtTs
      baseInterpolateExtTs := rtpExtTs
      baseInterpolatePts := pts
      baseInterpolateInitiated := true } : KmsRtpSynchronizer).ptsAt rtpExtTs = pts := by
  simp [ptsAt_eq, unsynchronized, rtpDiff, rtpDiffFull]

end KmsRtpSynchronizer

open KmsRtpSynchronizer

theorem exec_rtp_of_anchored (self : KmsRtpSynchronizer) (unsorted : self.feededSorted = false)
    (anchored : self.baseInitiated ∨ self.baseInterpolateInitiated) (buffer : RtpBuffer) :
    ((SyncCall.processRtpBuffer buffer).exec self).self.feededSorted = false ∧
      ((SyncCall.processRtpBuffer buffer).exec self).self.session = self.session ∧
      ((SyncCall.processRtpBuffer buffer).exec self).self.interpolation = self.interpolation ∧
      (((SyncCall.processRtpBuffer buffer).exec self).error = none →
        0 < self.clockRate.toInt ∧ ((SyncCall.processRtpBuffer buffer).exec self).pts =
          some (self.ptsAt ((SyncCall.processRtpBuffer buffer).exec self).self.rtpExtTs)) := by
  rcases mapped : buffer.header with _ | header
  · simp [SyncCall.exec, processRtpBufferWritable, mapped, CallOutcome.ofRtp, unsorted]
  by_cases accepted : self.AcceptsHeader header
  · obtain ⟨ok, pts, unsorted', session, interpolation⟩ :=
      processRtpAccepted_pts_of_anchored (self.latchSsrc header.ssrc) buffer.pts header
        (by rw [latchSsrc_feededSorted]; exact unsorted) (by unfold latchSsrc; split <;> exact anchored)
    rw [latchSsrc_session] at session
    rw [latchSsrc_interpolation] at interpolation
    rw [SyncCall.exec_processRtpBuffer_of_accepts self mapped accepted]
    refine ⟨unsorted', session, interpolation, fun _ => ⟨accepted.2.2, ?_⟩⟩
    rw [CallOutcome.ofRtp, pts, ptsAt_congr (latchSsrc_session ..) (latchSsrc_interpolation ..)]
  · obtain ⟨error, -, rejection⟩ := SyncCall.exec_processRtpBuffer_of_rejects self mapped accepted
    simp [rejection, unsorted]

/-- Over a run of RTP calls from an unsorted, anchored instance, every accepted
packet gets `ptsAt` of its extended timestamp, with the anchors of the start. -/
theorem trace_pts_of_anchored (self : KmsRtpSynchronizer) (unsorted : self.feededSorted = false)
    (anchored : self.baseInitiated ∨ self.baseInterpolateInitiated) (packets : List RtpBuffer) :
    ∀ outcome ∈ self.trace (packets.map .processRtpBuffer), outcome.error = none →
      0 < self.clockRate.toInt ∧ outcome.pts = some (self.ptsAt outcome.self.rtpExtTs) := by
  induction packets generalizing self with
  | nil => simp
  | cons buffer packets ih =>
      obtain ⟨unsorted', session, interpolation, first⟩ := exec_rtp_of_anchored self unsorted anchored buffer
      have initiated : ((SyncCall.processRtpBuffer buffer).exec self).self.baseInitiated = self.baseInitiated :=
        congrArg Session.baseInitiated session
      have interpolating : ((SyncCall.processRtpBuffer buffer).exec self).self.baseInterpolateInitiated =
          self.baseInterpolateInitiated := congrArg Interpolation.baseInterpolateInitiated interpolation
      have rest := ih _ unsorted' (by rwa [initiated, interpolating])
      rw [ptsAt_congr session interpolation,
        show ((SyncCall.processRtpBuffer buffer).exec self).self.clockRate = self.clockRate from
          congrArg Session.clockRate session] at rest
      simp only [List.map_cons, trace_cons, List.mem_cons, forall_eq_or_imp]
      exact ⟨first, rest⟩

theorem exec_rtp_of_unanchored (self : KmsRtpSynchronizer) (unsorted : self.feededSorted = false)
    (unsynchronized : self.baseInitiated = false) (uninterpolated : self.baseInterpolateInitiated = false)
    (buffer : RtpBuffer) :
    (((SyncCall.processRtpBuffer buffer).exec self).error ≠ none ∧
        ((SyncCall.processRtpBuffer buffer).exec self).self.feededSorted = false ∧
        ((SyncCall.processRtpBuffer buffer).exec self).self.baseInitiated = false ∧
        ((SyncCall.processRtpBuffer buffer).exec self).self.baseInterpolateInitiated = false) ∨
      (((SyncCall.processRtpBuffer buffer).exec self).self.feededSorted = false ∧
        ((SyncCall.processRtpBuffer buffer).exec self).self.baseInitiated = false ∧
        ((SyncCall.processRtpBuffer buffer).exec self).self.baseInterpolateInitiated = true ∧
        0 < ((SyncCall.processRtpBuffer buffer).exec self).self.clockRate.toInt ∧
        ((SyncCall.processRtpBuffer buffer).exec self).pts =
          some (((SyncCall.processRtpBuffer buffer).exec self).self.ptsAt
            ((SyncCall.processRtpBuffer buffer).exec self).self.rtpExtTs)) := by
  rcases mapped : buffer.header with _ | header
  · left
    simp [SyncCall.exec, processRtpBufferWritable, mapped, CallOutcome.ofRtp, unsorted, unsynchronized,
      uninterpolated]
  have latched := latchSsrc_session self header.ssrc
  have latchedInitiated : (self.latchSsrc header.ssrc).baseInitiated = false :=
    (congrArg Session.baseInitiated latched).trans unsynchronized
  have latchedInterpolating : (self.latchSsrc header.ssrc).baseInterpolateInitiated = false :=
    (congrArg Interpolation.baseInterpolateInitiated (latchSsrc_interpolation ..)).trans uninterpolated
  by_cases accepted : self.AcceptsHeader header
  · right
    have latchedRate : (self.latchSsrc header.ssrc).clockRate = self.clockRate := congrArg Session.clockRate latched
    rw [SyncCall.exec_processRtpBuffer_of_accepts self mapped accepted,
      processRtpAccepted_of_unanchored _ _ _ (by rw [latchSsrc_feededSorted]; exact unsorted) latchedInitiated
        latchedInterpolating, CallOutcome.ofRtp]
    exact ⟨by simpa using unsorted, latchedInitiated, rfl, by rw [latchedRate]; exact accepted.2.2,
      congrArg some (ptsAt_anchor _ latchedInitiated _ _).symm⟩
  · left
    obtain ⟨error, -, rejection⟩ := SyncCall.exec_processRtpBuffer_of_rejects self mapped accepted
    rw [rejection]
    exact ⟨nofun, by simpa using unsorted, latchedInitiated, latchedInterpolating⟩

theorem exists_ptsOf_of_anchored (self : KmsRtpSynchronizer) (unsorted : self.feededSorted = false)
    (anchored : self.baseInitiated ∨ self.baseInterpolateInitiated)
    (inRange : self.baseInitiated = true → 0 ≤ self.ntpBase ∧ self.ntpBase ≤ 2 ^ 64 - 1)
    (packets : List RtpBuffer) :
    ∃ ptsOf : GstClockTime → GstClockTime, (∀ e e', e ≤ e' → ptsOf e ≤ ptsOf e') ∧
      ∀ outcome ∈ self.trace (packets.map .processRtpBuffer), outcome.error = none →
        outcome.pts = some (ptsOf outcome.self.rtpExtTs) := by
  have traced := trace_pts_of_anchored self unsorted anchored packets
  by_cases rate : 0 < self.clockRate.toInt
  · exact ⟨self.ptsAt, fun _ _ => ptsAt_mono self anchored rate inRange,
      fun outcome mem ok => (traced outcome mem ok).2⟩
  · exact ⟨fun _ => 0, fun _ _ _ => Nat.le_refl _, fun outcome mem ok => absurd (traced outcome mem ok).1 rate⟩

/-- In unsorted mode, over any run of RTP packets with no RTCP in between, and
with the NTP-adjusted base in range if an SR has been received, the accepted
packets get their PTS from one nondecreasing function of their extended
timestamps. -/
theorem pts_follow_extTs_between_reports (self : KmsRtpSynchronizer) (unsorted : self.feededSorted = false)
    (inRange : self.baseInitiated = true → 0 ≤ self.ntpBase ∧ self.ntpBase ≤ 2 ^ 64 - 1)
    (packets : List RtpBuffer) :
    ∃ ptsOf : GstClockTime → GstClockTime, (∀ e e', e ≤ e' → ptsOf e ≤ ptsOf e') ∧
      ∀ outcome ∈ self.trace (packets.map .processRtpBuffer), outcome.error = none →
        outcome.pts = some (ptsOf outcome.self.rtpExtTs) := by
  induction packets generalizing self with
  | nil => exact ⟨fun _ => 0, fun _ _ _ => Nat.le_refl _, by simp⟩
  | cons buffer packets ih =>
      by_cases anchored : self.baseInitiated ∨ self.baseInterpolateInitiated
      · exact exists_ptsOf_of_anchored self unsorted anchored inRange _
      obtain ⟨unsynchronized, uninterpolated⟩ :
          self.baseInitiated = false ∧ self.baseInterpolateInitiated = false := by simpa using anchored
      simp only [List.map_cons, trace_cons, List.mem_cons, forall_eq_or_imp]
      rcases exec_rtp_of_unanchored self unsorted unsynchronized uninterpolated buffer with
        ⟨failed, unsorted', unsynchronized', -⟩ | ⟨unsorted', unsynchronized', interpolating, rate, first⟩
      · obtain ⟨ptsOf, mono, rest⟩ := ih _ unsorted' (by simp [unsynchronized'])
        exact ⟨ptsOf, mono, fun ok => absurd ok failed, rest⟩
      · have traced := trace_pts_of_anchored _ unsorted' (.inr interpolating) packets
        exact ⟨_, fun _ _ => ptsAt_mono _ (.inr interpolating) rate (by simp [unsynchronized']),
          fun _ => first, fun outcome mem ok => (traced outcome mem ok).2⟩

/-- After one Sender Report, three packets in disorder, one from another SSRC. -/
theorem pts_follow_extTs_after_sender_report :
    let self := (KmsRtpSynchronizer.new false).run [.setPtClockRate 96 90000,
      .processRtcpBuffer ⟨1000000000, some [⟨.sr, 7, 0x100000000, 90000⟩]⟩]
    let packets : List RtpBuffer :=
      [⟨0, some ⟨7, 2, 270000, 96⟩⟩, ⟨0, some ⟨7, 1, 180000, 96⟩⟩, ⟨0, some ⟨8, 3, 0, 96⟩⟩]
    (self.feededSorted = false ∧ (self.baseInitiated = true → 0 ≤ self.ntpBase ∧ self.ntpBase ≤ 2 ^ 64 - 1)) ∧
    ∃ ptsOf : GstClockTime → GstClockTime, (∀ e e', e ≤ e' → ptsOf e ≤ ptsOf e') ∧
      ∀ outcome ∈ self.trace (packets.map .processRtpBuffer), outcome.error = none →
        outcome.pts = some (ptsOf outcome.self.rtpExtTs) :=
  ⟨by decide, pts_follow_extTs_between_reports _ (by decide) (by decide) _⟩

end RtpSync

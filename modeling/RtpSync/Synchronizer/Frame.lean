import RtpSync.Synchronizer.Run

/-!
# What each call reads and writes

One spec lemma per operation, over three views of the state: the session, the
interpolation anchor, and the stream fields the RTP path writes.
-/

set_option autoImplicit false

namespace RtpSync

open Gst

namespace KmsRtpSynchronizer

/-- The configuration and the SR anchors. -/
structure Session where
  pt : GInt32
  clockRate : GInt32
  baseInitiated : Bool
  baseNtpTime : GstClockTime
  baseSyncTime : GstClockTime
  lastRtcpExtTs : GstClockTime
  lastRtcpNtpTime : GstClockTime
deriving DecidableEq, Repr

/-- The interpolation anchor. -/
structure Interpolation where
  baseInterpolateInitiated : Bool
  baseInterpolateExtTs : GstClockTime
  baseInterpolatePts : GstClockTime
deriving DecidableEq, Repr

/-- The learned SSRC, the sorted-mode flag and the tracker. -/
structure Stream where
  ssrc : UInt32
  feededSorted : Bool
  rtpExtTs : GstClockTime
deriving DecidableEq, Repr

def session (self : KmsRtpSynchronizer) : Session :=
  ⟨self.pt, self.clockRate, self.baseInitiated, self.baseNtpTime, self.baseSyncTime,
    self.lastRtcpExtTs, self.lastRtcpNtpTime⟩

def interpolation (self : KmsRtpSynchronizer) : Interpolation :=
  ⟨self.baseInterpolateInitiated, self.baseInterpolateExtTs, self.baseInterpolatePts⟩

def stream (self : KmsRtpSynchronizer) : Stream :=
  ⟨self.ssrc, self.feededSorted, self.rtpExtTs⟩

/-- The header checks of lines 427-463 pass: no SSRC is learned yet or it is
this one, the payload type is the configured one, and a positive clock rate is
configured. -/
def AcceptsHeader (self : KmsRtpSynchronizer) (header : RtpHeader) : Prop :=
  (self.ssrc = 0 ∨ header.ssrc = self.ssrc) ∧ (header.payloadType.toNat : Int) = self.pt.toInt ∧
    0 < self.clockRate.toInt

instance (self : KmsRtpSynchronizer) (header : RtpHeader) : Decidable (self.AcceptsHeader header) :=
  inferInstanceAs (Decidable (_ ∧ _ ∧ _))

variable (self : KmsRtpSynchronizer) (pts rtpExtTs : GstClockTime) (header : RtpHeader)

@[simp] theorem latchSsrc_session (ssrc : UInt32) : (self.latchSsrc ssrc).session = self.session := by
  unfold latchSsrc; split <;> rfl

@[simp] theorem latchSsrc_interpolation (ssrc : UInt32) :
    (self.latchSsrc ssrc).interpolation = self.interpolation := by
  unfold latchSsrc; split <;> rfl

@[simp] theorem latchSsrc_rtpExtTs (ssrc : UInt32) : (self.latchSsrc ssrc).rtpExtTs = self.rtpExtTs := by
  unfold latchSsrc; split <;> rfl

@[simp] theorem latchSsrc_feededSorted (ssrc : UInt32) :
    (self.latchSsrc ssrc).feededSorted = self.feededSorted := by
  unfold latchSsrc; split <;> rfl

@[simp] theorem latchSsrc_fsLastRtpExtTs (ssrc : UInt32) :
    (self.latchSsrc ssrc).fsLastRtpExtTs = self.fsLastRtpExtTs := by
  unfold latchSsrc; split <;> rfl

@[simp] theorem latchSsrc_fsLastPts (ssrc : UInt32) : (self.latchSsrc ssrc).fsLastPts = self.fsLastPts := by
  unfold latchSsrc; split <;> rfl

theorem latchSsrc_demote (ssrc : UInt32) :
    { self with feededSorted := false }.latchSsrc ssrc = { self.latchSsrc ssrc with feededSorted := false } := by
  unfold latchSsrc; split <;> rfl

/-- A packet that carries the learned SSRC leaves the latch as it is. -/
theorem latchSsrc_of_eq {ssrc : UInt32} (learned : ssrc = self.ssrc) : self.latchSsrc ssrc = self := by
  subst learned; unfold latchSsrc; split <;> rfl

/-- Lines 496-534 write only the interpolation anchor. -/
@[simp] theorem computePts_session : (self.computePts pts rtpExtTs).1.session = self.session := by
  unfold computePts; split <;> (try split) <;> rfl

@[simp] theorem computePts_stream : (self.computePts pts rtpExtTs).1.stream = self.stream := by
  unfold computePts; split <;> (try split) <;> rfl

theorem computePts_fsLastPts : (self.computePts pts rtpExtTs).1.fsLastPts = self.fsLastPts := by
  unfold computePts; split_ifs <;> rfl

theorem computePts_interpolation (anchored : self.baseInitiated ∨ self.baseInterpolateInitiated) :
    (self.computePts pts rtpExtTs).1.interpolation = self.interpolation := by
  unfold computePts; split <;> (try split) <;> first | rfl | simp_all

/-- The regime computation hands back the arrival PTS or a value of
`rtp_diff_full` taken with the configured clock rate. -/
theorem computePts_snd_cases :
    (self.computePts pts rtpExtTs).2 = pts ∨ ∃ base baseExtTs wrappedDown wrappedUp,
      (self.computePts pts rtpExtTs).2 = self.rtpDiffFull base self.clockRate baseExtTs wrappedDown wrappedUp := by
  unfold computePts syncPts rtpDiff
  split_ifs
  · exact .inr ⟨_, _, _, _, rfl⟩
  · exact .inr ⟨_, _, _, _, rfl⟩
  · exact .inl rfl

/-- With an anchor set, the regime computation writes nothing. -/
theorem computePts_fst_of_anchored (anchored : self.baseInitiated ∨ self.baseInterpolateInitiated) :
    (self.computePts pts rtpExtTs).1 = self := by
  unfold computePts; split_ifs <;> first | rfl | simp_all

/-- Lines 536-561 write only the sorted-mode record. -/
@[simp] theorem sortedPostFix_session : (self.sortedPostFix pts rtpExtTs).1.session = self.session := by
  unfold sortedPostFix; split <;> rfl

@[simp] theorem sortedPostFix_stream : (self.sortedPostFix pts rtpExtTs).1.stream = self.stream := by
  unfold sortedPostFix; split <;> rfl

@[simp] theorem sortedPostFix_interpolation :
    (self.sortedPostFix pts rtpExtTs).1.interpolation = self.interpolation := by
  unfold sortedPostFix; split <;> rfl

@[simp] theorem assignPts_session : (self.assignPts pts rtpExtTs).1.session = self.session := by
  simp [assignPts]

@[simp] theorem assignPts_stream : (self.assignPts pts rtpExtTs).1.stream = self.stream := by
  simp [assignPts]

@[simp] theorem assignPts_feededSorted :
    (self.assignPts pts rtpExtTs).1.feededSorted = self.feededSorted :=
  congrArg Stream.feededSorted (assignPts_stream ..)

theorem assignPts_interpolation (anchored : self.baseInitiated ∨ self.baseInterpolateInitiated) :
    (self.assignPts pts rtpExtTs).1.interpolation = self.interpolation := by
  simp [assignPts, computePts_interpolation _ _ _ anchored]

/-- In sorted mode the packet becomes the last one recorded. -/
theorem assignPts_fsLastRtpExtTs :
    (self.assignPts pts rtpExtTs).1.fsLastRtpExtTs =
      if self.feededSorted then rtpExtTs else self.fsLastRtpExtTs := by
  have sorted : (self.computePts pts rtpExtTs).1.feededSorted = self.feededSorted :=
    congrArg Stream.feededSorted (computePts_stream ..)
  have kept : (self.computePts pts rtpExtTs).1.fsLastRtpExtTs = self.fsLastRtpExtTs := by
    unfold computePts; split_ifs <;> rfl
  unfold assignPts sortedPostFix
  dsimp only
  rw [sorted]
  split_ifs <;> first | rfl | exact kept

/-- In sorted mode the emitted PTS becomes the record; otherwise the record is
kept. -/
theorem assignPts_fsLastPts :
    (self.assignPts pts rtpExtTs).1.fsLastPts =
      if self.feededSorted then (self.assignPts pts rtpExtTs).2 else self.fsLastPts := by
  have sorted : (self.computePts pts rtpExtTs).1.feededSorted = self.feededSorted :=
    congrArg Stream.feededSorted (computePts_stream ..)
  unfold assignPts sortedPostFix
  dsimp only
  rw [sorted]
  split_ifs <;> first | rfl | exact computePts_fsLastPts ..

/-- The sorted-mode clamp emits the computed PTS or the record. -/
theorem assignPts_snd_cases :
    (self.assignPts pts rtpExtTs).2 = pts ∨ (self.assignPts pts rtpExtTs).2 = self.fsLastPts ∨
      ∃ base baseExtTs wrappedDown wrappedUp,
        (self.assignPts pts rtpExtTs).2 = self.rtpDiffFull base self.clockRate baseExtTs wrappedDown wrappedUp := by
  have clamped : (self.assignPts pts rtpExtTs).2 = (self.computePts pts rtpExtTs).2 ∨
      (self.assignPts pts rtpExtTs).2 = self.fsLastPts := by
    rw [← computePts_fsLastPts self pts rtpExtTs]
    unfold assignPts sortedPostFix
    dsimp only
    split_ifs <;> simp
  rcases clamped with computed | clamped
  · rw [computed]
    exact (computePts_snd_cases self pts rtpExtTs).imp_right .inr
  · exact .inr (.inl clamped)

/-- The clamp of lines 545-549 never emits below a valid record. -/
theorem fsLastPts_le_assignPts (sorted : self.feededSorted = true)
    (valid : self.fsLastPts ≠ gstClockTimeNone) : self.fsLastPts ≤ (self.assignPts pts rtpExtTs).2 := by
  have sorted' : (self.computePts pts rtpExtTs).1.feededSorted = true :=
    (congrArg Stream.feededSorted (computePts_stream ..)).trans sorted
  unfold assignPts sortedPostFix
  simp only [sorted', if_true, computePts_fsLastPts, gstClockTimeIsValid_iff, valid, ne_eq,
    not_false_eq_true, true_and]
  rw [le_iff_toNat_le]
  split_ifs with below <;> rw [lt_iff_toNat_lt] at below; omega

/-- Outside sorted mode the pre-check always proceeds. -/
theorem sortedPreCheck_sorted {rtpExtTs : GstClockTime} (settled : self.sortedPreCheck rtpExtTs ≠ .proceed) :
    self.feededSorted = true := by
  unfold sortedPreCheck at settled
  by_contra unsorted
  rw [if_neg unsorted] at settled
  exact settled rfl

/-- Lines 465-561 write the tracker, the sorted-mode fields and, before any
anchor, the interpolation anchor; never the session. -/
@[simp] theorem processRtpAccepted_session :
    (self.processRtpAccepted pts header).self.session = self.session := by
  dsimp only [processRtpAccepted]
  split <;> simp <;> rfl

theorem processRtpAccepted_stream :
    (self.processRtpAccepted pts header).self.ssrc = self.ssrc ∧
      (self.processRtpAccepted pts header).self.rtpExtTs =
        gstRtpBufferExtTimestamp self.rtpExtTs header.timestamp := by
  dsimp only [processRtpAccepted]
  split
  · exact ⟨rfl, rfl⟩
  all_goals
    exact ⟨congrArg Stream.ssrc (assignPts_stream _ _ _),
      congrArg Stream.rtpExtTs (assignPts_stream _ _ _)⟩

/-- Once an anchor exists, the interpolation anchor is left alone. -/
theorem processRtpAccepted_interpolation (anchored : self.baseInitiated ∨ self.baseInterpolateInitiated) :
    (self.processRtpAccepted pts header).self.interpolation = self.interpolation := by
  dsimp only [processRtpAccepted]
  split
  · rfl
  all_goals exact assignPts_interpolation _ _ _ anchored

/-- The record of the last sorted packet is kept or set to this packet's
extended timestamp. -/
theorem processRtpAccepted_fsLastRtpExtTs :
    (self.processRtpAccepted pts header).self.fsLastRtpExtTs = self.fsLastRtpExtTs ∨
      (self.processRtpAccepted pts header).self.fsLastRtpExtTs =
        gstRtpBufferExtTimestamp self.rtpExtTs header.timestamp := by
  dsimp only [processRtpAccepted]
  split
  · exact .inl rfl
  all_goals rw [assignPts_fsLastRtpExtTs]; split_ifs <;> simp

/-- Past the header checks, with a valid record: a packet that arrives in sorted
mode and completes without error is emitted at or above the record and becomes
it; every other packet keeps the record. -/
theorem processRtpAccepted_fsLastPts (valid : self.fsLastPts ≠ gstClockTimeNone) :
    let outcome := self.processRtpAccepted pts header
    if self.feededSorted ∧ outcome.error = none then
      self.fsLastPts ≤ outcome.pts ∧ outcome.self.fsLastPts = outcome.pts
    else outcome.self.fsLastPts = self.fsLastPts := by
  dsimp only [processRtpAccepted]
  split
  · rename_i duplicate
    have sorted := sortedPreCheck_sorted _ (ne_of_eq_of_ne duplicate nofun)
    dsimp only at sorted
    simp [sorted, valid]
  · simp [assignPts_fsLastPts]
  · rw [assignPts_fsLastPts]
    by_cases sorted : self.feededSorted = true
    · rw [if_pos ⟨sorted, rfl⟩, if_pos sorted]
      exact ⟨fsLastPts_le_assignPts
        { self with rtpExtTs := gstRtpBufferExtTimestamp self.rtpExtTs header.timestamp } _ _ sorted valid, rfl⟩
    · rw [if_neg fun both => sorted both.1, if_neg sorted]

/-- Unsorted and anchored, an accepted packet only moves the tracker; its PTS
is the regime's value at the new extended timestamp. -/
theorem processRtpAccepted_of_unsorted (unsorted : self.feededSorted = false)
    (anchored : self.baseInitiated ∨ self.baseInterpolateInitiated) :
    let tracked := { self with rtpExtTs := gstRtpBufferExtTimestamp self.rtpExtTs header.timestamp }
    self.processRtpAccepted pts header =
      ⟨none, (tracked.computePts pts tracked.rtpExtTs).2, tracked⟩ := by
  intro tracked
  have proceed : tracked.sortedPreCheck tracked.rtpExtTs = .proceed := by
    simp [sortedPreCheck, tracked, unsorted]
  have kept := computePts_fst_of_anchored tracked pts tracked.rtpExtTs anchored
  dsimp only [processRtpAccepted]
  rw [proceed]
  dsimp only [assignPts]
  rw [kept]
  simp [sortedPostFix, tracked, unsorted]

/-- In sorted mode, an accepted packet demotes the instance and reports
`INVALID_DATA` exactly when its extended timestamp falls below the last
recorded one. -/
theorem processRtpAccepted_demotes_iff (sorted : self.feededSorted = true) :
    let outcome := self.processRtpAccepted pts header
    (outcome.error.map SyncError.code = some .invalidData ∧ outcome.self.feededSorted = false) ↔
      self.fsLastRtpExtTs ≠ gstClockTimeNone ∧
        gstRtpBufferExtTimestamp self.rtpExtTs header.timestamp < self.fsLastRtpExtTs := by
  have precheck : { self with rtpExtTs := gstRtpBufferExtTimestamp self.rtpExtTs header.timestamp }.sortedPreCheck
      (gstRtpBufferExtTimestamp self.rtpExtTs header.timestamp) =
      if self.fsLastRtpExtTs ≠ gstClockTimeNone ∧
          gstRtpBufferExtTimestamp self.rtpExtTs header.timestamp < self.fsLastRtpExtTs then .regressed
      else if gstRtpBufferExtTimestamp self.rtpExtTs header.timestamp = self.fsLastRtpExtTs then .duplicate
      else .proceed := by
    simp [sortedPreCheck, sorted]
  dsimp only [processRtpAccepted]
  rw [precheck]
  by_cases regressed : self.fsLastRtpExtTs ≠ gstClockTimeNone ∧
      gstRtpBufferExtTimestamp self.rtpExtTs header.timestamp < self.fsLastRtpExtTs
  · rw [if_pos regressed]
    exact iff_of_true ⟨rfl, congrArg Stream.feededSorted (assignPts_stream ..)⟩ regressed
  · rw [if_neg regressed]
    refine iff_of_false ?_ regressed
    split_ifs <;> simp

/-- A regression is reported, and the packet is then processed exactly as an
unsorted instance processes it, without error (lines 471-487). -/
theorem processRtpAccepted_of_regressed (sorted : self.feededSorted = true)
    (regressed : self.fsLastRtpExtTs ≠ gstClockTimeNone ∧
      gstRtpBufferExtTimestamp self.rtpExtTs header.timestamp < self.fsLastRtpExtTs) :
    self.processRtpAccepted pts header =
      ⟨some (.unsortedBuffer header.ssrc header.seq header.timestamp
          (gstRtpBufferExtTimestamp self.rtpExtTs header.timestamp)),
        ({ self with feededSorted := false }.processRtpAccepted pts header).pts,
        ({ self with feededSorted := false }.processRtpAccepted pts header).self⟩ ∧
      ({ self with feededSorted := false }.processRtpAccepted pts header).error = none := by
  have precheck : { self with rtpExtTs := gstRtpBufferExtTimestamp self.rtpExtTs header.timestamp }.sortedPreCheck
      (gstRtpBufferExtTimestamp self.rtpExtTs header.timestamp) = .regressed := by
    simp [sortedPreCheck, sorted, regressed]
  dsimp only [processRtpAccepted]
  rw [precheck]
  exact ⟨rfl, rfl⟩

/-- The only error past the header checks is the sorted-mode regression. -/
theorem processRtpAccepted_error :
    (self.processRtpAccepted pts header).error = none ∨
      ∃ rtpExtTs, (self.processRtpAccepted pts header).error =
        some (.unsortedBuffer header.ssrc header.seq header.timestamp rtpExtTs) := by
  dsimp only [processRtpAccepted]
  split
  · exact .inl rfl
  · exact .inr ⟨_, rfl⟩
  · exact .inl rfl

theorem rtpDiffFull_congr {self other : KmsRtpSynchronizer} (tracker : self.rtpExtTs = other.rtpExtTs)
    (pts : GstClockTime) (clockRate : GInt32) (baseExtTs : UInt64) (wrappedDown wrappedUp : Bool) :
    self.rtpDiffFull pts clockRate baseExtTs wrappedDown wrappedUp =
      other.rtpDiffFull pts clockRate baseExtTs wrappedDown wrappedUp := by
  simp only [rtpDiffFull, tracker]

/-- Past the header checks a packet is emitted at its arrival PTS, at the
record, or at a value of `rtp_diff_full` taken from the tracker it leaves with
the configured clock rate. -/
theorem processRtpAccepted_pts_cases :
    let outcome := self.processRtpAccepted pts header
    outcome.pts = pts ∨ outcome.pts = self.fsLastPts ∨ ∃ base baseExtTs wrappedDown wrappedUp,
      outcome.pts = outcome.self.rtpDiffFull base self.clockRate baseExtTs wrappedDown wrappedUp := by
  dsimp only [processRtpAccepted]
  split
  · split_ifs
    · exact .inr (.inl rfl)
    · exact .inl rfl
  all_goals
    rcases assignPts_snd_cases .. with arrival | record | ⟨base, baseExtTs, wrappedDown, wrappedUp, computed⟩
    · exact .inl arrival
    · exact .inr (.inl record)
    · exact .inr (.inr ⟨base, baseExtTs, wrappedDown, wrappedUp,
        computed.trans (rtpDiffFull_congr (congrArg Stream.rtpExtTs (assignPts_stream ..)).symm ..)⟩)

theorem processRtpBufferMapped_of_accepts (accepted : self.AcceptsHeader header) :
    self.processRtpBufferMapped pts header = (self.latchSsrc header.ssrc).processRtpAccepted pts header := by
  obtain ⟨learned, payload, rate⟩ := accepted
  have checked : (self.latchSsrc header.ssrc).processRtpChecked pts header =
      (self.latchSsrc header.ssrc).processRtpAccepted pts header := by
    have pt : (self.latchSsrc header.ssrc).pt = self.pt := congrArg Session.pt (latchSsrc_session ..)
    have clockRate : (self.latchSsrc header.ssrc).clockRate = self.clockRate :=
      congrArg Session.clockRate (latchSsrc_session ..)
    simp only [processRtpChecked, pt, clockRate, payload, ne_eq, not_true_eq_false, if_false,
      show ¬ self.clockRate.toInt ≤ 0 by omega]
  rw [← checked, processRtpBufferMapped, if_neg (by tauto)]

/-- A rejected header gets the error of the first check it fails and keeps its
PTS; the only write is the SSRC latch of lines 427-429, which the payload-type
and clock-rate checks come after. -/
theorem processRtpBufferMapped_rejection (rejected : ¬ self.AcceptsHeader header) :
    ∃ error ∈ [SyncError.invalidSsrc header.ssrc self.ssrc, .unknownPt header.payloadType self.pt,
        .invalidClockRate self.clockRate],
      self.processRtpBufferMapped pts header = ⟨some error, pts, self.latchSsrc header.ssrc⟩ := by
  unfold processRtpBufferMapped
  split
  · rename_i mismatch
    exact ⟨_, List.mem_cons_self _ _, by simp [latchSsrc, mismatch.1]⟩
  · have learned : self.ssrc = 0 ∨ header.ssrc = self.ssrc := by tauto
    have latched := latchSsrc_session self header.ssrc
    simp only [session, Session.mk.injEq] at latched
    unfold processRtpChecked
    rw [latched.1, latched.2.1]
    split
    · exact ⟨_, by simp, rfl⟩
    · split
      · exact ⟨_, by simp, rfl⟩
      · rename_i payload rate
        exact absurd ⟨learned, by simpa using payload, by omega⟩ rejected

/-- Each header-check error is an `INVALID_DATA` one. -/
theorem processRtpBufferMapped_of_rejects (rejected : ¬ self.AcceptsHeader header) :
    ∃ error, error.code = .invalidData ∧
      self.processRtpBufferMapped pts header = ⟨some error, pts, self.latchSsrc header.ssrc⟩ := by
  obtain ⟨error, listed, rejection⟩ := processRtpBufferMapped_rejection self pts header rejected
  refine ⟨error, ?_, rejection⟩
  simp only [List.mem_cons, List.mem_singleton, List.not_mem_nil, or_false] at listed
  rcases listed with rfl | rfl | rfl <;> rfl

end KmsRtpSynchronizer

end RtpSync

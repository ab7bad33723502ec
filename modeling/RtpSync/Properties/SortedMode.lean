import RtpSync.Synchronizer.Steps

/-!
# Sorted mode and the `GST_CLOCK_TIME_NONE` sentinel

`fs_last_pts` holds the last PTS emitted in sorted mode and reads the all-ones
value as "none": once a saturated PTS is emitted, the clamp of lines 545-549 and
the duplicate rule of lines 488-493 stop holding the sequence up.
-/

set_option autoImplicit false

namespace RtpSync

open Gst KmsRtpSynchronizer

namespace KmsRtpSynchronizer

variable (self : KmsRtpSynchronizer) (pts pts' rtpExtTs : GstClockTime) (header : RtpHeader)

theorem computePts_of_anchored (anchored : self.baseInitiated ∨ self.baseInterpolateInitiated) :
    self.computePts pts rtpExtTs = self.computePts pts' rtpExtTs := by
  unfold computePts; split_ifs <;> first | rfl | simp_all

theorem assignPts_of_anchored (anchored : self.baseInitiated ∨ self.baseInterpolateInitiated) :
    self.assignPts pts rtpExtTs = self.assignPts pts' rtpExtTs := by
  unfold assignPts; rw [computePts_of_anchored _ _ pts' _ anchored]

theorem processRtpAccepted_of_anchored (anchored : self.baseInitiated ∨ self.baseInterpolateInitiated)
    (recorded : self.feededSorted = false ∨ self.fsLastPts ≠ gstClockTimeNone) :
    self.processRtpAccepted pts header = self.processRtpAccepted pts' header := by
  have ignored : ∀ state : KmsRtpSynchronizer, state.baseInitiated = self.baseInitiated →
      state.baseInterpolateInitiated = self.baseInterpolateInitiated →
      ∀ rtpExtTs, state.assignPts pts rtpExtTs = state.assignPts pts' rtpExtTs :=
    fun state initiated interpolating rtpExtTs =>
      assignPts_of_anchored state pts pts' rtpExtTs (by rw [initiated, interpolating]; exact anchored)
  dsimp only [processRtpAccepted]
  split
  · rename_i duplicate
    have valid := recorded.resolve_left
      (by rw [sortedPreCheck_sorted _ (ne_of_eq_of_ne duplicate nofun)]; decide)
    simp [valid]
  all_goals rw [ignored] <;> rfl

end KmsRtpSynchronizer

/-- Anchored, and unless sorted mode holds the sentinel in `fs_last_pts`, two
RTP packets that pass the header checks and differ only in their arrival PTS
get the same result, the same PTS and the same next state. -/
theorem arrival_pts_ignored (self : KmsRtpSynchronizer)
    (anchored : self.baseInitiated ∨ self.baseInterpolateInitiated)
    (recorded : self.feededSorted = false ∨ self.fsLastPts ≠ gstClockTimeNone)
    (pts pts' : GstClockTime) {header : RtpHeader} (accepted : self.AcceptsHeader header) :
    self.processRtpBufferMapped pts header = self.processRtpBufferMapped pts' header := by
  rw [processRtpBufferMapped_of_accepts _ _ _ accepted, processRtpBufferMapped_of_accepts _ _ _ accepted,
    processRtpAccepted_of_anchored _ _ pts' _ ?anchored ?recorded]
  all_goals unfold latchSsrc; split <;> assumption

theorem arrival_pts_ignored_after_first_packet :
    let self := (KmsRtpSynchronizer.new true).run
      [.setPtClockRate 96 90000, .processRtpBuffer ⟨1000, some ⟨7, 0, 0, 96⟩⟩]
    ((self.baseInitiated ∨ self.baseInterpolateInitiated) ∧
      (self.feededSorted = false ∨ self.fsLastPts ≠ gstClockTimeNone) ∧
      self.AcceptsHeader ⟨7, 1, 90000, 96⟩) ∧
    self.processRtpBufferMapped 5 ⟨7, 1, 90000, 96⟩ = self.processRtpBufferMapped 6 ⟨7, 1, 90000, 96⟩ :=
  ⟨by decide, arrival_pts_ignored _ (by decide) (by decide) 5 6 (by decide)⟩

/-- The PTS a call emits while sorted mode holds and is kept: an RTP packet that
arrives in sorted mode and completes without an error. -/
def SyncCall.sortedEmission (call : SyncCall) (self : KmsRtpSynchronizer) : Option GstClockTime :=
  if self.feededSorted ∧ (call.exec self).error = none then (call.exec self).pts else none

/-- The sorted-mode emissions of a run, in order. -/
def KmsRtpSynchronizer.sortedEmissions (self : KmsRtpSynchronizer) : List SyncCall → List GstClockTime
  | [] => []
  | call :: calls => (call.sortedEmission self).toList ++ (call.exec self).self.sortedEmissions calls

theorem exec_sortedEmission (self : KmsRtpSynchronizer) (valid : self.fsLastPts ≠ gstClockTimeNone)
    (call : SyncCall) :
    match call.sortedEmission self with
    | some pts => self.fsLastPts ≤ pts ∧ (call.exec self).self.fsLastPts = pts
    | none => (call.exec self).self.fsLastPts = self.fsLastPts := by
  cases call with
  | setPtClockRate pt clockRate =>
      rw [show (SyncCall.setPtClockRate pt clockRate).sortedEmission self = none by
        simp [SyncCall.sortedEmission, SyncCall.exec]]
      dsimp only
      rw [SyncCall.exec_session_of_setPtClockRate]
      split_ifs <;> rfl
  | processRtcpBuffer buffer =>
      rw [show (SyncCall.processRtcpBuffer buffer).sortedEmission self = none by
        simp [SyncCall.sortedEmission, SyncCall.exec]]
      dsimp only
      rw [SyncCall.exec_processRtcpBuffer_self]
      split <;> rfl
  | processRtpBuffer buffer =>
      rcases mapped : buffer.header with _ | header
      · simp [SyncCall.sortedEmission, SyncCall.exec, processRtpBufferWritable, mapped, CallOutcome.ofRtp]
      by_cases accepted : self.AcceptsHeader header
      · have step := processRtpAccepted_fsLastPts (self.latchSsrc header.ssrc) buffer.pts header
          (by rwa [latchSsrc_fsLastPts])
        simp only [latchSsrc_feededSorted, latchSsrc_fsLastPts] at step
        rw [SyncCall.sortedEmission, SyncCall.exec_processRtpBuffer_of_accepts self mapped accepted]
        simp only [CallOutcome.ofRtp]
        split_ifs at step ⊢ <;> exact step
      · obtain ⟨error, -, rejection⟩ := SyncCall.exec_processRtpBuffer_of_rejects self mapped accepted
        simp [SyncCall.sortedEmission, rejection]

/-- From a valid `fs_last_pts`, and as long as no PTS emitted in sorted mode is
`G_MAXUINT64`, the emitted PTS never decrease and `fs_last_pts` holds the last
one, which is what a duplicate then receives. -/
theorem sorted_emissions_nondecreasing (self : KmsRtpSynchronizer)
    (valid : self.fsLastPts ≠ gstClockTimeNone) (calls : List SyncCall)
    (unsaturated : gMaxUint64 ∉ self.sortedEmissions calls) :
    List.Chain (· ≤ ·) self.fsLastPts (self.sortedEmissions calls) ∧
      (self.run calls).fsLastPts = (self.sortedEmissions calls).getLast?.getD self.fsLastPts := by
  induction calls generalizing self with
  | nil => exact ⟨List.Chain.nil, rfl⟩
  | cons call calls ih =>
      have step := exec_sortedEmission self valid call
      rw [sortedEmissions] at unsaturated ⊢
      rw [run_cons]
      rcases emission : call.sortedEmission self with _ | pts <;> rw [emission] at step unsaturated
      · dsimp only at step
        obtain ⟨chain, last⟩ := ih _ (step ▸ valid) unsaturated
        rw [step] at chain last
        exact ⟨chain, last⟩
      · obtain ⟨raised, recorded⟩ := step
        simp only [Option.toList, List.singleton_append, List.mem_cons, not_or] at unsaturated ⊢
        obtain ⟨chain, last⟩ := ih _ (recorded ▸ Ne.symm unsaturated.1) unsaturated.2
        rw [recorded] at chain last
        refine ⟨List.Chain.cons raised chain, ?_⟩
        rw [last, List.getLast?_cons]
        rfl

theorem sorted_emissions_nondecreasing_after_first_packet :
    let self := (KmsRtpSynchronizer.new true).run
      [.setPtClockRate 96 90000, .processRtpBuffer ⟨1000, some ⟨7, 0, 0, 96⟩⟩]
    let calls : List SyncCall := [.processRtpBuffer ⟨5, some ⟨7, 1, 3000, 96⟩⟩,
      .processRtcpBuffer ⟨2000, some [⟨.sr, 7, 0x100000000, 6000⟩]⟩,
      .processRtpBuffer ⟨5, some ⟨7, 2, 3000, 96⟩⟩, .processRtpBuffer ⟨5, some ⟨7, 3, 9000, 96⟩⟩,
      .processRtpBuffer ⟨5, some ⟨7, 4, 3500, 96⟩⟩]
    (self.fsLastPts ≠ gstClockTimeNone ∧ gMaxUint64 ∉ self.sortedEmissions calls) ∧
      List.Chain (· ≤ ·) self.fsLastPts (self.sortedEmissions calls) ∧
      (self.run calls).fsLastPts = (self.sortedEmissions calls).getLast?.getD self.fsLastPts :=
  ⟨by decide, sorted_emissions_nondecreasing _ (by decide) _ (by decide)⟩

/-- The error of lines 482-483: a sorted feed regressed. -/
def SyncError.isUnsortedBuffer : SyncError → Bool
  | .unsortedBuffer .. => true
  | _ => false

theorem KmsRtpSynchronizer.processRtpAccepted_reports_demotion (self : KmsRtpSynchronizer)
    (pts : GstClockTime) (header : RtpHeader) :
    (self.processRtpAccepted pts header).error.any SyncError.isUnsortedBuffer =
        (self.feededSorted && !(self.processRtpAccepted pts header).self.feededSorted) ∧
      ((self.processRtpAccepted pts header).self.feededSorted = true → self.feededSorted = true) := by
  dsimp only [processRtpAccepted]
  split
  · simp
  · rename_i regressed
    have sorted := sortedPreCheck_sorted _ (ne_of_eq_of_ne regressed nofun)
    dsimp only at sorted
    simp [sorted, SyncError.isUnsortedBuffer]
  · simp

theorem exec_reports_demotion (self : KmsRtpSynchronizer) (call : SyncCall) :
    (call.exec self).error.any SyncError.isUnsortedBuffer =
        (self.feededSorted && !(call.exec self).self.feededSorted) ∧
      ((call.exec self).self.feededSorted = true → self.feededSorted = true) := by
  cases call with
  | setPtClockRate pt clockRate =>
      rw [SyncCall.exec_setPtClockRate]
      split_ifs <;> simp [SyncError.isUnsortedBuffer]
  | processRtcpBuffer buffer =>
      have kept : ((SyncCall.processRtcpBuffer buffer).exec self).self.feededSorted = self.feededSorted := by
        rw [SyncCall.exec_processRtcpBuffer_self]
        split <;> rfl
      have silent :
          ((SyncCall.processRtcpBuffer buffer).exec self).error.any SyncError.isUnsortedBuffer = false := by
        simp only [SyncCall.exec, KmsRtpSynchronizer.processRtcpBuffer]
        split <;> rfl
      simp [kept, silent]
  | processRtpBuffer buffer =>
      rcases mapped : buffer.header with _ | header
      · simp [SyncCall.exec, processRtpBufferWritable, mapped, CallOutcome.ofRtp, SyncError.isUnsortedBuffer]
      by_cases accepted : self.AcceptsHeader header
      · rw [SyncCall.exec_processRtpBuffer_of_accepts self mapped accepted]
        have step := processRtpAccepted_reports_demotion (self.latchSsrc header.ssrc) buffer.pts header
        rw [latchSsrc_feededSorted] at step
        exact step
      · obtain ⟨error, listed, rejection⟩ := processRtpBufferMapped_rejection self buffer.pts header accepted
        simp only [List.mem_cons, List.mem_singleton, List.not_mem_nil, or_false] at listed
        simp only [SyncCall.exec, processRtpBufferWritable, mapped, rejection, CallOutcome.ofRtp,
          latchSsrc_feededSorted, Bool.and_not_self, imp_self, and_true]
        rcases listed with rfl | rfl | rfl <;> rfl

/-- Over any run, sorted mode is never entered, and the regression error is
reported once if the run ends sorted mode and never otherwise. -/
theorem sorted_mode_ends_once (self : KmsRtpSynchronizer) (calls : List SyncCall) :
    ((self.run calls).feededSorted = true → self.feededSorted = true) ∧
      (self.trace calls).countP (fun outcome => outcome.error.any SyncError.isUnsortedBuffer) =
        if self.feededSorted && !(self.run calls).feededSorted then 1 else 0 := by
  induction calls generalizing self with
  | nil => simp
  | cons call calls ih =>
      obtain ⟨reported, kept⟩ := exec_reports_demotion self call
      obtain ⟨back, count⟩ := ih (call.exec self).self
      rw [trace_cons, List.countP_cons, count, reported, run_cons]
      refine ⟨fun sorted => kept (back sorted), ?_⟩
      revert kept back
      generalize self.feededSorted = before
      generalize (call.exec self).self.feededSorted = between
      generalize ((call.exec self).self.run calls).feededSorted = after
      cases before <;> cases between <;> cases after <;> simp

/-- An interpolation anchor at `2^64 - 2` makes the next packet saturate to
`G_MAXUINT64`, which `fs_last_pts` then reads as unset: a duplicate of that
packet, with the same extended timestamp and still in sorted mode, is emitted
with its arrival PTS 5, below the PTS emitted before it. -/
theorem sorted_pts_step_down_after_saturation :
    ((KmsRtpSynchronizer.new true).trace
      [.setPtClockRate 96 90000, .processRtpBuffer ⟨0xFFFFFFFFFFFFFFFE, some ⟨7, 0, 0, 96⟩⟩,
        .processRtpBuffer ⟨0, some ⟨7, 1, 90000, 96⟩⟩, .processRtpBuffer ⟨5, some ⟨7, 2, 90000, 96⟩⟩]).map
      (fun outcome => (outcome.error, outcome.pts, outcome.self.feededSorted, outcome.self.rtpExtTs)) =
      [(none, none, true, gstClockTimeNone), (none, some 0xFFFFFFFFFFFFFFFE, true, 0),
        (none, some gMaxUint64, true, 90000), (none, some 5, true, 90000)] := by
  decide

/-- In the same run, the duplicate's emitted PTS is its arrival PTS, whatever
that is. -/
theorem duplicate_after_saturation_keeps_arrival_pts :
    ∃ self, self = (KmsRtpSynchronizer.new true).run
        [.setPtClockRate 96 90000, .processRtpBuffer ⟨0xFFFFFFFFFFFFFFFE, some ⟨7, 0, 0, 96⟩⟩,
          .processRtpBuffer ⟨0, some ⟨7, 1, 90000, 96⟩⟩] ∧
      self.baseInterpolateInitiated = true ∧ self.fsLastPts = gstClockTimeNone ∧
      self.AcceptsHeader ⟨7, 2, 90000, 96⟩ ∧
      (self.processRtpBufferMapped 5 ⟨7, 2, 90000, 96⟩).pts = 5 ∧
      (self.processRtpBufferMapped 6 ⟨7, 2, 90000, 96⟩).pts = 6 :=
  ⟨_, rfl, by decide⟩

end RtpSync

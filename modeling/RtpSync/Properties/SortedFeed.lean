import RtpSync.Properties.Ordering

/-!
# Sorted mode on a sorted feed

On a feed whose accepted extended timestamps never step down, sorted mode
returns what the same instance returns unsorted, while the record it keeps
(`withRecord`) holds the PTS the anchors give its timestamp (`RecordFits`).
-/

set_option autoImplicit false

namespace RtpSync

open Gst KmsRtpSynchronizer

/-- A packet's extended timestamp keeps a sorted feed sorted: it is valid and
not below the recorded one. -/
def AdvancesRecord (record rtpExtTs : GstClockTime) : Prop :=
  rtpExtTs ≠ gstClockTimeNone ∧ (record = gstClockTimeNone ∨ record ≤ rtpExtTs)

instance : DecidableRel AdvancesRecord := fun _ _ => inferInstanceAs (Decidable (_ ∧ _))

/-- Decides a sorted feed by its recursion, so that a concrete feed reduces. -/
instance decidableChainAdvancesRecord :
    (record : GstClockTime) → (feed : List GstClockTime) → Decidable (List.Chain AdvancesRecord record feed)
  | _, [] => isTrue List.Chain.nil
  | _, rtpExtTs :: rest =>
      have := decidableChainAdvancesRecord rtpExtTs rest
      decidable_of_iff _ List.chain_cons.symm

namespace KmsRtpSynchronizer

/-- The instance in sorted mode, with `(lastExtTs, lastPts)` as the record of
the last sorted packet and otherwise as `self`. -/
def withRecord (self : KmsRtpSynchronizer) (lastExtTs lastPts : GstClockTime) : KmsRtpSynchronizer :=
  { self with feededSorted := true, fsLastRtpExtTs := lastExtTs, fsLastPts := lastPts }

/-- The record is empty, or holds an extended timestamp and the valid PTS the
anchors of `self` give it. -/
def RecordFits (self : KmsRtpSynchronizer) (lastExtTs lastPts : GstClockTime) : Prop :=
  (lastExtTs = gstClockTimeNone ∧ lastPts = gstClockTimeNone) ∨
    (lastExtTs ≠ gstClockTimeNone ∧ (self.baseInitiated ∨ self.baseInterpolateInitiated) ∧
      lastPts ≠ gstClockTimeNone ∧ lastPts = self.ptsAt lastExtTs)

instance (self : KmsRtpSynchronizer) (lastExtTs lastPts : GstClockTime) :
    Decidable (self.RecordFits lastExtTs lastPts) :=
  inferInstanceAs (Decidable (_ ∨ _))

variable (self : KmsRtpSynchronizer) (pts : GstClockTime) (header : RtpHeader)
  (lastExtTs lastPts : GstClockTime)

@[simp] theorem withRecord_rtpExtTs : (self.withRecord lastExtTs lastPts).rtpExtTs = self.rtpExtTs := rfl

@[simp] theorem withRecord_fsLastPts : (self.withRecord lastExtTs lastPts).fsLastPts = lastPts := rfl

theorem withRecord_track (rtpExtTs : GstClockTime) :
    { self.withRecord lastExtTs lastPts with rtpExtTs } = { self with rtpExtTs }.withRecord lastExtTs lastPts :=
  rfl

theorem computePts_eq_ptsAt (anchored : self.baseInitiated ∨ self.baseInterpolateInitiated) :
    self.computePts pts self.rtpExtTs = (self, self.ptsAt self.rtpExtTs) :=
  Prod.ext (computePts_fst_of_anchored self pts _ anchored) (computePts_snd_eq_ptsAt self pts anchored)

theorem computePts_track_snd (anchored : self.baseInitiated ∨ self.baseInterpolateInitiated)
    (rtpExtTs : GstClockTime) : ({ self with rtpExtTs }.computePts pts rtpExtTs).2 = self.ptsAt rtpExtTs :=
  (computePts_snd_eq_ptsAt { self with rtpExtTs } pts anchored).trans (congrFun (ptsAt_congr rfl rfl) _)

theorem latchSsrc_withRecord (ssrc : UInt32) :
    (self.withRecord lastExtTs lastPts).latchSsrc ssrc = (self.latchSsrc ssrc).withRecord lastExtTs lastPts := by
  unfold latchSsrc withRecord; split_ifs <;> rfl

theorem recordFits_congr {other : KmsRtpSynchronizer} (session : self.session = other.session)
    (interpolation : self.interpolation = other.interpolation) : self.RecordFits = other.RecordFits := by
  have initiated : self.baseInitiated = other.baseInitiated := congrArg Session.baseInitiated session
  have interpolating : self.baseInterpolateInitiated = other.baseInterpolateInitiated :=
    congrArg Interpolation.baseInterpolateInitiated interpolation
  unfold RecordFits
  rw [initiated, interpolating, ptsAt_congr session interpolation]

theorem computePts_withRecord (rtpExtTs : GstClockTime) :
    (self.withRecord lastExtTs lastPts).computePts pts rtpExtTs =
      ({ (self.computePts pts rtpExtTs).1 with
        feededSorted := true, fsLastRtpExtTs := lastExtTs, fsLastPts := lastPts },
        (self.computePts pts rtpExtTs).2) := by
  unfold computePts withRecord; split_ifs <;> rfl

theorem assignPts_of_unsorted (unsorted : self.feededSorted = false) (rtpExtTs : GstClockTime) :
    self.assignPts pts rtpExtTs = self.computePts pts rtpExtTs := by
  have kept : (self.computePts pts rtpExtTs).1.feededSorted = false :=
    (congrArg Stream.feededSorted (computePts_stream ..)).trans unsorted
  simp [assignPts, sortedPostFix, kept]

theorem assignPts_withRecord (rtpExtTs : GstClockTime)
    (inert : lastPts = gstClockTimeNone ∨ lastPts ≤ (self.computePts pts rtpExtTs).2) :
    (self.withRecord lastExtTs lastPts).assignPts pts rtpExtTs =
      ((self.computePts pts rtpExtTs).1.withRecord rtpExtTs (self.computePts pts rtpExtTs).2,
        (self.computePts pts rtpExtTs).2) := by
  have kept : ¬ (gstClockTimeIsValid lastPts = true ∧ (self.computePts pts rtpExtTs).2 < lastPts) := by
    rintro ⟨valid, below⟩
    rcases inert with unset | le
    · exact absurd unset ((gstClockTimeIsValid_iff _).mp valid)
    · exact UInt64.not_lt.mpr le below
  simp only [assignPts, computePts_withRecord, sortedPostFix, if_true, kept, if_false]
  rfl

theorem processRtpAccepted_of_proceed
    (proceed : self.sortedPreCheck (gstRtpBufferExtTimestamp self.rtpExtTs header.timestamp) = .proceed) :
    let tracked := { self with rtpExtTs := gstRtpBufferExtTimestamp self.rtpExtTs header.timestamp }
    self.processRtpAccepted pts header =
      ⟨none, (tracked.assignPts pts tracked.rtpExtTs).2, (tracked.assignPts pts tracked.rtpExtTs).1⟩ := by
  have precheck : { self with rtpExtTs := gstRtpBufferExtTimestamp self.rtpExtTs header.timestamp }.sortedPreCheck
      (gstRtpBufferExtTimestamp self.rtpExtTs header.timestamp) = .proceed := proceed
  dsimp only [processRtpAccepted]
  rw [precheck]

theorem processRtpAccepted_of_duplicate (sorted : self.feededSorted = true)
    (duplicate : gstRtpBufferExtTimestamp self.rtpExtTs header.timestamp = self.fsLastRtpExtTs) :
    self.processRtpAccepted pts header =
      ⟨none, if gstClockTimeIsValid self.fsLastPts then self.fsLastPts else pts,
        { self with rtpExtTs := gstRtpBufferExtTimestamp self.rtpExtTs header.timestamp }⟩ := by
  have precheck : { self with rtpExtTs := gstRtpBufferExtTimestamp self.rtpExtTs header.timestamp }.sortedPreCheck
      (gstRtpBufferExtTimestamp self.rtpExtTs header.timestamp) = .duplicate := by
    simp [sortedPreCheck, sorted, duplicate]
  dsimp only [processRtpAccepted]
  rw [precheck]

theorem sortedPreCheck_of_unsorted (unsorted : self.feededSorted = false) (rtpExtTs : GstClockTime) :
    self.sortedPreCheck rtpExtTs = .proceed := by
  simp [sortedPreCheck, unsorted]

theorem sortedPreCheck_of_advanced {rtpExtTs : GstClockTime} (valid : rtpExtTs ≠ gstClockTimeNone)
    (advanced : self.fsLastRtpExtTs = gstClockTimeNone ∨ self.fsLastRtpExtTs < rtpExtTs) :
    self.sortedPreCheck rtpExtTs = .proceed := by
  unfold sortedPreCheck
  rcases advanced with unset | below
  · simp [unset, valid]
  · simp [(UInt64.ne_of_lt below).symm, UInt64.lt_asymm below]

theorem processRtpAccepted_withRecord (unsorted : self.feededSorted = false) (rate : 0 < self.clockRate.toInt)
    (inRange : self.baseInitiated = true → 0 ≤ self.ntpBase ∧ self.ntpBase ≤ 2 ^ 64 - 1)
    (fits : self.RecordFits lastExtTs lastPts)
    (advances : AdvancesRecord lastExtTs (gstRtpBufferExtTimestamp self.rtpExtTs header.timestamp)) :
    (self.withRecord lastExtTs lastPts).processRtpAccepted pts header =
      ⟨(self.processRtpAccepted pts header).error, (self.processRtpAccepted pts header).pts,
        (self.processRtpAccepted pts header).self.withRecord (gstRtpBufferExtTimestamp self.rtpExtTs header.timestamp)
          (self.processRtpAccepted pts header).pts⟩ := by
  obtain ⟨valid, advanced⟩ := advances
  rw [processRtpAccepted_of_proceed self pts header (sortedPreCheck_of_unsorted self unsorted _),
    assignPts_of_unsorted { self with rtpExtTs := gstRtpBufferExtTimestamp self.rtpExtTs header.timestamp } pts
      unsorted]
  by_cases duplicate : gstRtpBufferExtTimestamp self.rtpExtTs header.timestamp = lastExtTs
  · obtain ⟨unset, -⟩ | ⟨-, anchored, recorded, onLine⟩ := fits
    · exact absurd (duplicate.trans unset) valid
    rw [processRtpAccepted_of_duplicate (self.withRecord lastExtTs lastPts) pts header rfl duplicate,
      computePts_eq_ptsAt { self with rtpExtTs := gstRtpBufferExtTimestamp self.rtpExtTs header.timestamp } pts
        anchored, withRecord_fsLastPts, if_pos ((gstClockTimeIsValid_iff _).mpr recorded)]
    subst duplicate onLine
    have tracked : ({ self with rtpExtTs := gstRtpBufferExtTimestamp self.rtpExtTs header.timestamp } :
        KmsRtpSynchronizer).ptsAt = self.ptsAt := ptsAt_congr rfl rfl
    dsimp only
    rw [tracked]
    rfl
  · have ahead :
        lastExtTs = gstClockTimeNone ∨ lastExtTs < gstRtpBufferExtTimestamp self.rtpExtTs header.timestamp :=
      advanced.imp_right fun le => lt_iff_toNat_lt.mpr
        (Nat.lt_of_le_of_ne (le_iff_toNat_le.mp le) fun same => duplicate (UInt64.toNat.inj same).symm)
    have inert : lastPts = gstClockTimeNone ∨
        lastPts ≤ ({ self with rtpExtTs := gstRtpBufferExtTimestamp self.rtpExtTs header.timestamp }.computePts pts
          (gstRtpBufferExtTimestamp self.rtpExtTs header.timestamp)).2 := by
      obtain ⟨-, unset⟩ | ⟨recorded, anchored, -, onLine⟩ := fits
      · exact .inl unset
      · refine .inr ?_
        rw [onLine, computePts_track_snd self pts anchored]
        exact ptsAt_mono self anchored rate inRange (advanced.resolve_left recorded)
    rw [processRtpAccepted_of_proceed (self.withRecord lastExtTs lastPts) pts header
      (sortedPreCheck_of_advanced _ valid ahead), withRecord_track]
    dsimp only [withRecord_rtpExtTs]
    rw [assignPts_withRecord _ _ _ _ _ inert]

theorem processRtpAccepted_recordFits (unsorted : self.feededSorted = false)
    (valid : gstRtpBufferExtTimestamp self.rtpExtTs header.timestamp ≠ gstClockTimeNone)
    (unsaturated : (self.processRtpAccepted pts header).pts ≠ gstClockTimeNone) :
    (self.processRtpAccepted pts header).self.RecordFits (gstRtpBufferExtTimestamp self.rtpExtTs header.timestamp)
      (self.processRtpAccepted pts header).pts := by
  by_cases anchored : self.baseInitiated ∨ self.baseInterpolateInitiated
  · obtain ⟨-, onLine, -, session, interpolation⟩ :=
      processRtpAccepted_pts_of_anchored self pts header unsorted anchored
    rw [(processRtpAccepted_stream self pts header).2] at onLine
    have initiated : (self.processRtpAccepted pts header).self.baseInitiated = self.baseInitiated :=
      congrArg Session.baseInitiated session
    have interpolating : (self.processRtpAccepted pts header).self.baseInterpolateInitiated =
        self.baseInterpolateInitiated := congrArg Interpolation.baseInterpolateInitiated interpolation
    exact .inr ⟨valid, by rwa [initiated, interpolating], unsaturated,
      by rw [onLine, ptsAt_congr session interpolation]⟩
  · obtain ⟨unsynchronized, uninterpolated⟩ :
        self.baseInitiated = false ∧ self.baseInterpolateInitiated = false := by simpa using anchored
    rw [processRtpAccepted_of_unanchored self pts header unsorted unsynchronized uninterpolated] at unsaturated ⊢
    exact .inr ⟨valid, .inr rfl, unsaturated, (ptsAt_anchor self unsynchronized _ _).symm⟩

theorem processRtpBufferMapped_error_of_rejects (rejected : ¬ self.AcceptsHeader header) :
    (self.processRtpBufferMapped pts header).error =
      some (if self.ssrc ≠ 0 ∧ header.ssrc ≠ self.ssrc then .invalidSsrc header.ssrc self.ssrc
        else if (header.payloadType.toNat : Int) ≠ self.pt.toInt then .unknownPt header.payloadType self.pt
        else .invalidClockRate self.clockRate) := by
  have latched := latchSsrc_session self header.ssrc
  have pt : (self.latchSsrc header.ssrc).pt = self.pt := congrArg Session.pt latched
  have clockRate : (self.latchSsrc header.ssrc).clockRate = self.clockRate := congrArg Session.clockRate latched
  unfold processRtpBufferMapped processRtpChecked
  rw [pt, clockRate]
  split_ifs with mismatch payload rate <;> try rfl
  exact absurd ⟨(not_and_or.mp mismatch).imp of_not_not of_not_not, by simpa using payload, by omega⟩ rejected

theorem processRtpBufferMapped_withRecord_of_rejects (rejected : ¬ self.AcceptsHeader header) :
    (self.withRecord lastExtTs lastPts).processRtpBufferMapped pts header =
      ⟨(self.processRtpBufferMapped pts header).error, pts,
        (self.processRtpBufferMapped pts header).self.withRecord lastExtTs lastPts⟩ := by
  have error := processRtpBufferMapped_error_of_rejects self pts header rejected
  have error' := processRtpBufferMapped_error_of_rejects (self.withRecord lastExtTs lastPts) pts header rejected
  obtain ⟨_, -, rejection⟩ := processRtpBufferMapped_of_rejects self pts header rejected
  obtain ⟨_, -, rejection'⟩ :=
    processRtpBufferMapped_of_rejects (self.withRecord lastExtTs lastPts) pts header rejected
  rw [rejection] at error ⊢
  rw [rejection'] at error' ⊢
  rw [latchSsrc_withRecord]
  exact congrArg (fun error => RtpOutcome.mk error pts _) (error'.trans error.symm)

theorem processRtpBufferWritable_withRecord (unsorted : self.feededSorted = false)
    (inRange : self.baseInitiated = true → 0 ≤ self.ntpBase ∧ self.ntpBase ≤ 2 ^ 64 - 1)
    (fits : self.RecordFits lastExtTs lastPts) (buffer : RtpBuffer)
    (advances : (self.processRtpBufferWritable buffer).error = none →
      AdvancesRecord lastExtTs (self.processRtpBufferWritable buffer).self.rtpExtTs)
    (unsaturated : (self.processRtpBufferWritable buffer).error = none →
      (self.processRtpBufferWritable buffer).pts ≠ gstClockTimeNone) :
    let outcome := self.processRtpBufferWritable buffer
    let lastExtTs' := if outcome.error = none then outcome.self.rtpExtTs else lastExtTs
    let lastPts' := if outcome.error = none then outcome.pts else lastPts
    (self.withRecord lastExtTs lastPts).processRtpBufferWritable buffer =
        ⟨outcome.error, outcome.pts, outcome.self.withRecord lastExtTs' lastPts'⟩ ∧
      outcome.self.feededSorted = false ∧ outcome.self.RecordFits lastExtTs' lastPts' := by
  intro outcome lastExtTs' lastPts'
  rcases mapped : buffer.header with _ | header
  · have unmapped : outcome = ⟨some .rtpNotMapped, buffer.pts, self⟩ := by
      simp only [outcome, processRtpBufferWritable, mapped]
    simp only [lastExtTs', lastPts', unmapped, processRtpBufferWritable, mapped]
    exact ⟨rfl, unsorted, fits⟩
  by_cases accepted : self.AcceptsHeader header
  · have writable : outcome = (self.latchSsrc header.ssrc).processRtpAccepted buffer.pts header := by
      simp only [outcome, processRtpBufferWritable, mapped, processRtpBufferMapped_of_accepts _ _ _ accepted]
    have session := latchSsrc_session self header.ssrc
    have unsorted' : (self.latchSsrc header.ssrc).feededSorted = false := by rwa [latchSsrc_feededSorted]
    have proceed := processRtpAccepted_of_proceed (self.latchSsrc header.ssrc) buffer.pts header
      (sortedPreCheck_of_unsorted _ unsorted' _)
    have ok : outcome.error = none := by rw [writable, proceed]
    have tracker : outcome.self.rtpExtTs =
        gstRtpBufferExtTimestamp (self.latchSsrc header.ssrc).rtpExtTs header.timestamp := by
      rw [writable]; exact (processRtpAccepted_stream ..).2
    have advanced := advances ok
    rw [tracker] at advanced
    have rate : 0 < (self.latchSsrc header.ssrc).clockRate.toInt := by
      rw [show (self.latchSsrc header.ssrc).clockRate = self.clockRate from congrArg Session.clockRate session]
      exact accepted.2.2
    have fits' : (self.latchSsrc header.ssrc).RecordFits lastExtTs lastPts := by
      rwa [recordFits_congr _ session (latchSsrc_interpolation ..)]
    have step := processRtpAccepted_withRecord _ buffer.pts header lastExtTs lastPts unsorted' rate
      ((inRange_congr _ session).mpr inRange) fits' advanced
    simp only [lastExtTs', lastPts', if_pos ok, tracker]
    refine ⟨?_, ?_, ?_⟩
    · have accepted' : (self.withRecord lastExtTs lastPts).AcceptsHeader header := accepted
      simp only [processRtpBufferWritable, mapped, processRtpBufferMapped_of_accepts _ _ _ accepted',
        latchSsrc_withRecord, step, writable]
    · rw [writable, proceed]
      simpa using unsorted'
    · rw [writable]
      exact processRtpAccepted_recordFits _ buffer.pts header unsorted' advanced.1
        (by rw [← writable]; exact unsaturated ok)
  · obtain ⟨_, -, rejection⟩ := processRtpBufferMapped_of_rejects self buffer.pts header accepted
    have writable : outcome = self.processRtpBufferMapped buffer.pts header := by
      simp only [outcome, processRtpBufferWritable, mapped]
    have failed : outcome.error ≠ none := by rw [writable, rejection]; nofun
    simp only [lastExtTs', lastPts', if_neg failed]
    refine ⟨?_, ?_, ?_⟩
    · simp only [processRtpBufferWritable, mapped, writable,
        processRtpBufferMapped_withRecord_of_rejects self buffer.pts header lastExtTs lastPts accepted, rejection]
    · rw [writable, rejection]
      simpa using unsorted
    · rw [writable, rejection]
      exact (recordFits_congr _ (latchSsrc_session ..) (latchSsrc_interpolation ..)).symm ▸ fits

end KmsRtpSynchronizer

/-- The extended timestamps of the calls that completed without an error, in
order. -/
def acceptedExtTs (outcomes : List CallOutcome) : List GstClockTime :=
  outcomes.filterMap fun outcome => if outcome.error = none then some outcome.self.rtpExtTs else none

theorem acceptedExtTs_cons (outcome : CallOutcome) (outcomes : List CallOutcome) :
    acceptedExtTs (outcome :: outcomes) =
      if outcome.error = none then outcome.self.rtpExtTs :: acceptedExtTs outcomes else acceptedExtTs outcomes := by
  unfold acceptedExtTs
  split_ifs with ok <;> simp [ok]

theorem chain_advancesRecord_tail {record : GstClockTime} {outcome : CallOutcome} {outcomes : List CallOutcome}
    (sorted : List.Chain AdvancesRecord record (acceptedExtTs (outcome :: outcomes))) :
    (outcome.error = none → AdvancesRecord record outcome.self.rtpExtTs) ∧
      List.Chain AdvancesRecord (if outcome.error = none then outcome.self.rtpExtTs else record)
        (acceptedExtTs outcomes) := by
  rw [acceptedExtTs_cons] at sorted
  split_ifs at sorted ⊢ with ok
  · exact ⟨fun _ => (List.chain_cons.mp sorted).1, (List.chain_cons.mp sorted).2⟩
  · exact ⟨fun failed => absurd failed ok, sorted⟩

/-- Over a run of RTP packets, the sorted instance with a record that fits the
anchors gives the results and PTS of its unsorted twin, as long as the
extended timestamps the twin accepts never fall below the record or each other
and no accepted packet's PTS saturates. -/
theorem trace_withRecord (packets : List RtpBuffer) (self : KmsRtpSynchronizer) (unsorted : self.feededSorted = false)
    (inRange : self.baseInitiated = true → 0 ≤ self.ntpBase ∧ self.ntpBase ≤ 2 ^ 64 - 1)
    {lastExtTs lastPts : GstClockTime} (fits : self.RecordFits lastExtTs lastPts)
    (sorted : List.Chain AdvancesRecord lastExtTs (acceptedExtTs (self.trace (packets.map .processRtpBuffer))))
    (unsaturated : ∀ outcome ∈ self.trace (packets.map .processRtpBuffer),
      outcome.error = none → outcome.pts ≠ some gstClockTimeNone) :
    ((self.withRecord lastExtTs lastPts).trace (packets.map .processRtpBuffer)).map
        (fun outcome => (outcome.error, outcome.pts)) =
      (self.trace (packets.map .processRtpBuffer)).map (fun outcome => (outcome.error, outcome.pts)) := by
  induction packets generalizing self lastExtTs lastPts with
  | nil => rfl
  | cons buffer packets ih =>
      simp only [List.map_cons, trace_cons, List.mem_cons, forall_eq_or_imp] at sorted unsaturated ⊢
      obtain ⟨advances, sorted⟩ := chain_advancesRecord_tail sorted
      obtain ⟨step, unsorted', fits'⟩ := processRtpBufferWritable_withRecord self lastExtTs lastPts unsorted inRange
        fits buffer advances (fun ok => fun saturated => unsaturated.1 ok (congrArg some saturated))
      have session := SyncCall.exec_session_of_rtp self buffer
      have rest := ih _ unsorted' ((inRange_congr _ session).mpr inRange) fits' sorted unsaturated.2
      have sortedStep : (SyncCall.processRtpBuffer buffer).exec (self.withRecord lastExtTs lastPts) = .ofRtp _ :=
        congrArg CallOutcome.ofRtp step
      rw [sortedStep]
      exact congrArg₂ List.cons rfl rest

end RtpSync

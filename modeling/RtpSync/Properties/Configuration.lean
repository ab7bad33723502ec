import RtpSync.Synchronizer.Steps

/-!
# One payload type per instance

`set_pt_clock_rate` succeeds once, with a positive clock rate, and every PTS
computation divides by that clock rate.
-/

set_option autoImplicit false

namespace RtpSync

open Gst KmsRtpSynchronizer

/-- The first `set_pt_clock_rate` call of a run with a positive clock rate. -/
def firstConfiguration : List SyncCall → Option (GInt32 × GInt32)
  | [] => none
  | .setPtClockRate pt clockRate :: calls =>
      if 0 < clockRate.toInt then some (pt, clockRate) else firstConfiguration calls
  | _ :: calls => firstConfiguration calls

theorem exec_configuration (self : KmsRtpSynchronizer) (call : SyncCall) :
    ((call.exec self).self.pt, (call.exec self).self.clockRate) =
      match call with
      | .setPtClockRate pt clockRate =>
          if 0 < clockRate.toInt ∧ self.clockRate = 0 then (pt, clockRate) else (self.pt, self.clockRate)
      | _ => (self.pt, self.clockRate) := by
  cases call with
  | setPtClockRate pt clockRate =>
      rw [SyncCall.exec_session_of_setPtClockRate]
      dsimp only
      split_ifs <;> rfl
  | processRtcpBuffer buffer =>
      rw [SyncCall.exec_processRtcpBuffer_self]
      split <;> rfl
  | processRtpBuffer buffer =>
      have kept := SyncCall.exec_session_of_rtp self buffer
      simp only [session, Session.mk.injEq] at kept
      rw [kept.1, kept.2.1]

theorem positive_ne_zero {clockRate : GInt32} (positive : 0 < clockRate.toInt) : clockRate ≠ 0 := by
  rintro rfl
  exact absurd positive (by decide)

theorem run_configuration_of_configured (self : KmsRtpSynchronizer) (calls : List SyncCall)
    (configured : self.clockRate ≠ 0) :
    ((self.run calls).pt, (self.run calls).clockRate) = (self.pt, self.clockRate) := by
  induction calls generalizing self with
  | nil => rfl
  | cons call calls ih =>
      have step := exec_configuration self call
      have kept : ((call.exec self).self.pt, (call.exec self).self.clockRate) = (self.pt, self.clockRate) := by
        rw [step]
        split <;> simp_all
      simp only [Prod.mk.injEq] at kept
      rw [run_cons, ih _ (by rw [kept.2]; exact configured), kept.1, kept.2]

/-- From an unconfigured state, the first call with a positive clock rate decides
the configuration for good. -/
theorem run_configuration_of_unconfigured (self : KmsRtpSynchronizer) (calls : List SyncCall)
    (unconfigured : self.clockRate = 0) :
    ((self.run calls).pt, (self.run calls).clockRate) =
      (firstConfiguration calls).getD (self.pt, self.clockRate) := by
  induction calls generalizing self with
  | nil => rfl
  | cons call calls ih =>
      have step := exec_configuration self call
      rw [run_cons]
      cases call with
      | setPtClockRate pt clockRate =>
          by_cases positive : 0 < clockRate.toInt
          · simp only [positive, unconfigured, and_self, if_true, Prod.mk.injEq] at step
            rw [run_configuration_of_configured _ _ (by rw [step.2]; exact positive_ne_zero positive),
              step.1, step.2]
            simp [firstConfiguration, positive]
          · simp only [positive, false_and, if_false, Prod.mk.injEq] at step
            rw [ih _ (by rw [step.2]; exact unconfigured), step.1, step.2]
            simp [firstConfiguration, positive]
      | processRtcpBuffer buffer | processRtpBuffer buffer =>
          simp only [Prod.mk.injEq] at step
          rw [ih _ (by rw [step.2]; exact unconfigured), step.1, step.2]
          rfl

theorem firstConfiguration_positive {calls : List SyncCall} {pt clockRate : GInt32}
    (first : firstConfiguration calls = some (pt, clockRate)) : 0 < clockRate.toInt := by
  induction calls with
  | nil => cases first
  | cons call calls ih =>
      cases call with
      | setPtClockRate pt' clockRate' =>
          simp only [firstConfiguration] at first
          split_ifs at first with positive
          · cases first; exact positive
          · exact ih first
      | processRtcpBuffer | processRtpBuffer => exact ih first

/-- Over every run from `kms_rtp_synchronizer_new`: (1) the clock rate is 0 and
the payload type 0 until the first call with a positive clock rate, and that
call's values from then on; (2) a `set_pt_clock_rate` call succeeds exactly
when no positive clock rate was passed before and its own is positive, and a
failing one reports `INVALID_DATA` and writes nothing; (3) an RTP packet either
is turned away with `INVALID_DATA` before any PTS computation, or is accepted
with a positive clock rate and emitted at its arrival PTS, at the sorted-mode
record, or at a value of `rtp_diff_full` with that clock rate as denominator. -/
theorem configuration_set_once (feededSorted : Bool) (calls : List SyncCall) :
    let self := (KmsRtpSynchronizer.new feededSorted).run calls
    (match firstConfiguration calls with
      | none => self.clockRate = 0 ∧ self.pt = 0
      | some (pt, clockRate) => 0 < clockRate.toInt ∧ self.clockRate = clockRate ∧ self.pt = pt) ∧
    (∀ pt clockRate,
      let outcome := (SyncCall.setPtClockRate pt clockRate).exec self
      (outcome.error = none ↔ firstConfiguration calls = none ∧ 0 < clockRate.toInt) ∧
      (outcome.error ≠ none →
        outcome.error.map SyncError.code = some .invalidData ∧ outcome.self = self)) ∧
    (∀ pts header,
      (∃ error, error.code = .invalidData ∧
        self.processRtpBufferMapped pts header = ⟨some error, pts, self.latchSsrc header.ssrc⟩) ∨
      (0 < (self.latchSsrc header.ssrc).clockRate.toInt ∧
        self.processRtpBufferMapped pts header =
          (self.latchSsrc header.ssrc).processRtpAccepted pts header ∧
        ((self.processRtpBufferMapped pts header).pts = pts ∨
          (self.processRtpBufferMapped pts header).pts = self.fsLastPts ∨
          ∃ base baseExtTs wrappedDown wrappedUp, (self.processRtpBufferMapped pts header).pts =
            (self.processRtpBufferMapped pts header).self.rtpDiffFull base self.clockRate baseExtTs
              wrappedDown wrappedUp))) := by
  intro self
  have configuration := run_configuration_of_unconfigured (KmsRtpSynchronizer.new feededSorted) calls rfl
  have current : match firstConfiguration calls with
      | none => self.clockRate = 0 ∧ self.pt = 0
      | some (pt, clockRate) => 0 < clockRate.toInt ∧ self.clockRate = clockRate ∧ self.pt = pt := by
    cases first : firstConfiguration calls with
    | none =>
        simp only [first, Option.getD_none, Prod.mk.injEq] at configuration
        exact ⟨configuration.2, configuration.1⟩
    | some value =>
        obtain ⟨pt, clockRate⟩ := value
        simp only [first, Option.getD_some, Prod.mk.injEq] at configuration
        exact ⟨firstConfiguration_positive first, configuration.2, configuration.1⟩
  have unsetIff : self.clockRate = 0 ↔ firstConfiguration calls = none := by
    revert current
    cases firstConfiguration calls with
    | none => exact fun current => iff_of_true current.1 rfl
    | some value => exact fun current => iff_of_false (current.2.1 ▸ positive_ne_zero current.1) nofun
  refine ⟨current, fun pt clockRate => ?_, fun pts header => ?_⟩
  · rw [SyncCall.exec_setPtClockRate, ← unsetIff]
    split_ifs with rate configured
    · exact ⟨iff_of_false nofun (by omega), fun _ => ⟨rfl, rfl⟩⟩
    · exact ⟨iff_of_false nofun (by tauto), fun _ => ⟨rfl, rfl⟩⟩
    · exact ⟨iff_of_true rfl ⟨by simpa using configured, by omega⟩, fun failed => absurd rfl failed⟩
  · by_cases accepted : self.AcceptsHeader header
    · have latched : (self.latchSsrc header.ssrc).clockRate = self.clockRate :=
        congrArg Session.clockRate (latchSsrc_session ..)
      have emitted := processRtpAccepted_pts_cases (self.latchSsrc header.ssrc) pts header
      rw [latched, latchSsrc_fsLastPts] at emitted
      rw [processRtpBufferMapped_of_accepts _ _ _ accepted]
      exact .inr ⟨latched ▸ accepted.2.2, rfl, emitted⟩
    · exact .inl (processRtpBufferMapped_of_rejects _ _ _ accepted)

end RtpSync

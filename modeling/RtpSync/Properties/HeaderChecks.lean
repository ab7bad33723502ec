import RtpSync.Synchronizer.Steps

/-!
# The header checks of `process_rtp_buffer_mapped`

Lines 427-463 check the SSRC, the payload type and the clock rate, in that
order; the SSRC latch comes first, so a rejected packet can leave its SSRC.
-/

set_option autoImplicit false

namespace RtpSync

open Gst KmsRtpSynchronizer

variable (self : KmsRtpSynchronizer)

theorem exec_ssrc_of_learned (learned : self.ssrc ≠ 0) (call : SyncCall) :
    (call.exec self).self.ssrc = self.ssrc := by
  have latched : ∀ ssrc, (self.latchSsrc ssrc).ssrc = self.ssrc := fun ssrc => by
    simp [latchSsrc, learned]
  cases call with
  | setPtClockRate pt clockRate =>
      rw [SyncCall.exec_session_of_setPtClockRate]
      split_ifs <;> rfl
  | processRtcpBuffer buffer =>
      rw [SyncCall.exec_processRtcpBuffer_self]
      split <;> rfl
  | processRtpBuffer buffer =>
      rw [SyncCall.exec_processRtpBuffer_self]
      split
      · rfl
      · split
        · rw [(processRtpAccepted_stream ..).1, latched]
        · exact latched _

theorem run_ssrc_of_learned (learned : self.ssrc ≠ 0) (calls : List SyncCall) :
    (self.run calls).ssrc = self.ssrc := by
  induction calls generalizing self with
  | nil => rfl
  | cons call calls ih =>
      have kept := exec_ssrc_of_learned self learned call
      rw [run_cons, ih _ (kept ▸ learned), kept]

theorem exec_of_ssrc_mismatch (learned : self.ssrc ≠ 0) {buffer : RtpBuffer} {header : RtpHeader}
    (mapped : buffer.header = some header) (differs : header.ssrc ≠ self.ssrc) :
    (SyncCall.processRtpBuffer buffer).exec self =
      ⟨some (.invalidSsrc header.ssrc self.ssrc), some buffer.pts, self⟩ := by
  simp [SyncCall.exec, processRtpBufferWritable, processRtpBufferMapped, mapped, learned, differs,
    CallOutcome.ofRtp]

/-- Once an RTP packet with a nonzero SSRC `s` is accepted, every later RTP
packet whose SSRC differs from `s` is rejected with `INVALID_DATA`, keeps its
PTS and leaves the state as it was. -/
theorem accepted_ssrc_locks {buffer : RtpBuffer} {header : RtpHeader}
    (mapped : buffer.header = some header) (accepted : self.AcceptsHeader header)
    (nonzero : header.ssrc ≠ 0) (calls : List SyncCall) {other : RtpBuffer} {otherHeader : RtpHeader}
    (otherMapped : other.header = some otherHeader) (differs : otherHeader.ssrc ≠ header.ssrc) :
    let later := ((SyncCall.processRtpBuffer buffer).exec self).self.run calls
    let outcome := (SyncCall.processRtpBuffer other).exec later
    outcome.error.map SyncError.code = some .invalidData ∧ outcome.pts = some other.pts ∧
      outcome.self = later := by
  intro later outcome
  have learned : ((SyncCall.processRtpBuffer buffer).exec self).self.ssrc = header.ssrc := by
    rw [SyncCall.exec_processRtpBuffer_of_accepts self mapped accepted, CallOutcome.ofRtp,
      (processRtpAccepted_stream ..).1]
    unfold latchSsrc
    split_ifs with unset
    · rfl
    · exact (accepted.1.resolve_left unset).symm
  have locked : later.ssrc = header.ssrc := by
    rw [run_ssrc_of_learned _ (learned ▸ nonzero), learned]
  rw [show outcome = _ from exec_of_ssrc_mismatch later (locked ▸ nonzero) otherMapped (locked ▸ differs)]
  exact ⟨rfl, rfl, rfl⟩

theorem accepted_ssrc_locks_other_stream :
    let self := (KmsRtpSynchronizer.new false).run [.setPtClockRate 96 90000]
    let buffer : RtpBuffer := ⟨0, some ⟨7, 0, 100, 96⟩⟩
    let other : RtpBuffer := ⟨0, some ⟨8, 1, 190, 96⟩⟩
    (buffer.header = some ⟨7, 0, 100, 96⟩ ∧ self.AcceptsHeader ⟨7, 0, 100, 96⟩ ∧ (7 : UInt32) ≠ 0 ∧
      other.header = some ⟨8, 1, 190, 96⟩ ∧ (8 : UInt32) ≠ 7) ∧
    let later := ((SyncCall.processRtpBuffer buffer).exec self).self.run []
    let outcome := (SyncCall.processRtpBuffer other).exec later
    outcome.error.map SyncError.code = some .invalidData ∧ outcome.pts = some other.pts ∧
      outcome.self = later :=
  ⟨⟨rfl, by decide, by decide, rfl, by decide⟩, accepted_ssrc_locks _ rfl (by decide) (by decide) [] rfl (by decide)⟩

/-- SSRC 0 is also the unset marker, so accepting a packet with SSRC 0 learns
nothing: after it, a packet with SSRC 5 is accepted and gets a computed PTS. -/
theorem ssrc_zero_not_learned :
    ((KmsRtpSynchronizer.new false).trace [.setPtClockRate 96 90000,
        .processRtpBuffer ⟨1000, some ⟨0, 0, 100, 96⟩⟩, .processRtpBuffer ⟨1000, some ⟨5, 1, 190, 96⟩⟩]).map
      (fun outcome => (outcome.error, outcome.pts, outcome.self.ssrc)) =
      [(none, none, 0), (none, some 1000, 0), (none, some 1001000, 5)] := by
  decide

/-- A rejected RTP packet keeps its PTS and leaves the state as it was, except
that an instance with no SSRC learned yet takes the packet's SSRC: the SSRC
check of lines 427-442 runs before the payload-type and clock-rate checks. -/
theorem rejected_packet_latches_only_ssrc {buffer : RtpBuffer} {header : RtpHeader}
    (mapped : buffer.header = some header) (rejected : ¬ self.AcceptsHeader header) :
    let outcome := (SyncCall.processRtpBuffer buffer).exec self
    outcome.error.map SyncError.code = some .invalidData ∧ outcome.pts = some buffer.pts ∧
      outcome.self = if self.ssrc = 0 then { self with ssrc := header.ssrc } else self := by
  obtain ⟨error, code, rejection⟩ := SyncCall.exec_processRtpBuffer_of_rejects self mapped rejected
  rw [rejection]
  exact ⟨congrArg some code, rfl, rfl⟩

theorem rejected_packet_latches_only_ssrc_before_configure :
    let self := KmsRtpSynchronizer.new false
    let buffer : RtpBuffer := ⟨1000, some ⟨5, 0, 100, 96⟩⟩
    (buffer.header = some ⟨5, 0, 100, 96⟩ ∧ ¬ self.AcceptsHeader ⟨5, 0, 100, 96⟩) ∧
    let outcome := (SyncCall.processRtpBuffer buffer).exec self
    outcome.error.map SyncError.code = some .invalidData ∧ outcome.pts = some buffer.pts ∧
      outcome.self = if self.ssrc = 0 then { self with ssrc := 5 } else self :=
  ⟨⟨rfl, by decide⟩, rejected_packet_latches_only_ssrc _ rfl (by decide)⟩

/-- A packet that arrives before `set_pt_clock_rate` is rejected, yet its SSRC
is learned, and the stream's own packets are rejected from then on. -/
theorem rejected_packet_poisons_ssrc :
    let self := KmsRtpSynchronizer.new false
    let rejected := (SyncCall.processRtpBuffer ⟨1000, some ⟨5, 0, 100, 96⟩⟩).exec self
    let later := (SyncCall.processRtpBuffer ⟨2000, some ⟨7, 1, 190, 96⟩⟩).exec
      ((SyncCall.setPtClockRate 96 90000).exec rejected.self).self
    rejected.error.map SyncError.code = some .invalidData ∧ rejected.pts = some 1000 ∧
      rejected.self ≠ self ∧ later.error = some (.invalidSsrc 7 5) := by
  decide

end RtpSync

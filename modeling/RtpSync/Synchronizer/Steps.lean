import RtpSync.Synchronizer.Frame

/-!
# One call, view by view

What each public call does to the session, the interpolation anchor, the
learned SSRC and the tracker; run-level invariants are proved from these.
-/

set_option autoImplicit false

namespace RtpSync

open Gst KmsRtpSynchronizer

/-- The first packet of an RTCP buffer that maps, when it is a Sender Report:
the only RTCP input that `process_rtcp_buffer` acts on. -/
def Gst.RtcpBuffer.senderReport? (buffer : RtcpBuffer) : Option GstRtcpPacket :=
  match buffer.packets with
  | some (packet :: _) => if packet.type = .sr then some packet else none
  | _ => none

/-- The NTP time of a Sender Report in nanoseconds, as line 264 converts it. -/
def Gst.GstRtcpPacket.ntpNanoseconds (packet : GstRtcpPacket) : GstClockTime :=
  gstUtilUint64Scale packet.ntpTime gstSecond 0x100000000

theorem Gst.RtcpBuffer.senderReport?_type {buffer : RtcpBuffer} {packet : GstRtcpPacket}
    (report : buffer.senderReport? = some packet) : packet.type = .sr := by
  unfold RtcpBuffer.senderReport? at report
  split at report
  · split at report
    · cases report; assumption
    · cases report
  · cases report

/-- A Sender Report sets the base anchor if none is set, and always refreshes the
tracker and the latest-SR fields. -/
theorem KmsRtpSynchronizer.processRtcpPacket_of_sr (self : KmsRtpSynchronizer)
    {packet : GstRtcpPacket} (sr : packet.type = .sr) (currentTime : GstClockTime) :
    self.processRtcpPacket packet currentTime =
      { self with
        baseInitiated := true
        baseNtpTime := if self.baseInitiated then self.baseNtpTime else packet.ntpNanoseconds
        baseSyncTime := if self.baseInitiated then self.baseSyncTime else currentTime
        rtpExtTs := gstRtpBufferExtTimestamp self.rtpExtTs packet.rtpTime
        lastRtcpExtTs := gstRtpBufferExtTimestamp self.rtpExtTs packet.rtpTime
        lastRtcpNtpTime := packet.ntpNanoseconds } := by
  unfold KmsRtpSynchronizer.processRtcpPacket
  cases initiated : self.baseInitiated <;> simp [sr, initiated, GstRtcpPacket.ntpNanoseconds]

namespace SyncCall

/-- The 32-bit timestamp a call hands to the extended-timestamp tracker: an
accepted RTP packet's timestamp (line 469) or an SR's RTP timestamp (line 286). -/
def trackerInput (call : SyncCall) (self : KmsRtpSynchronizer) : Option UInt32 :=
  match call with
  | .setPtClockRate .. => none
  | .processRtcpBuffer buffer => buffer.senderReport?.map (·.rtpTime)
  | .processRtpBuffer buffer =>
      match buffer.header with
      | some header => if self.AcceptsHeader header then some header.timestamp else none
      | none => none

variable (self : KmsRtpSynchronizer)

/-- An RTCP call acts only on a Sender Report in first position, and then writes
only the SR fields and the tracker. -/
theorem exec_processRtcpBuffer_self (buffer : RtcpBuffer) :
    ((processRtcpBuffer buffer).exec self).self =
      match buffer.senderReport? with
      | some packet =>
          { self with
            baseInitiated := true
            baseNtpTime := if self.baseInitiated then self.baseNtpTime else packet.ntpNanoseconds
            baseSyncTime := if self.baseInitiated then self.baseSyncTime else buffer.dts
            rtpExtTs := gstRtpBufferExtTimestamp self.rtpExtTs packet.rtpTime
            lastRtcpExtTs := gstRtpBufferExtTimestamp self.rtpExtTs packet.rtpTime
            lastRtcpNtpTime := packet.ntpNanoseconds }
      | none => self := by
  unfold exec
  rcases packets : buffer.packets with _ | _ | ⟨packet, rest⟩ <;>
    simp only [KmsRtpSynchronizer.processRtcpBuffer, RtcpBuffer.senderReport?, packets,
      CallOutcome.ofExcept]
  by_cases sr : packet.type = .sr
  · rw [if_pos sr]
    exact KmsRtpSynchronizer.processRtcpPacket_of_sr _ sr _
  · simp [KmsRtpSynchronizer.processRtcpPacket, sr]

/-- An RTP call either is turned away by the header checks, keeping the state
up to the SSRC latch, or runs lines 465-561 on the latched state. -/
theorem exec_processRtpBuffer_self (buffer : RtpBuffer) :
    ((processRtpBuffer buffer).exec self).self =
      match buffer.header with
      | none => self
      | some header =>
          if self.AcceptsHeader header then
            ((self.latchSsrc header.ssrc).processRtpAccepted buffer.pts header).self
          else self.latchSsrc header.ssrc := by
  rcases mapped : buffer.header with _ | header <;>
    simp only [exec, CallOutcome.ofRtp, processRtpBufferWritable, mapped]
  split
  · rename_i accepted
    rw [processRtpBufferMapped_of_accepts _ _ _ accepted]
  · rename_i rejected
    obtain ⟨_, _, rejection⟩ := processRtpBufferMapped_of_rejects self buffer.pts header rejected
    rw [rejection]

theorem exec_processRtpBuffer_of_accepts {buffer : RtpBuffer} {header : RtpHeader}
    (mapped : buffer.header = some header) (accepted : self.AcceptsHeader header) :
    (processRtpBuffer buffer).exec self =
      .ofRtp ((self.latchSsrc header.ssrc).processRtpAccepted buffer.pts header) := by
  simp only [exec, processRtpBufferWritable, mapped, processRtpBufferMapped_of_accepts _ _ _ accepted]

theorem exec_processRtpBuffer_of_rejects {buffer : RtpBuffer} {header : RtpHeader}
    (mapped : buffer.header = some header) (rejected : ¬ self.AcceptsHeader header) :
    ∃ error, error.code = .invalidData ∧
      (processRtpBuffer buffer).exec self = ⟨some error, some buffer.pts, self.latchSsrc header.ssrc⟩ := by
  obtain ⟨error, code, rejection⟩ := processRtpBufferMapped_of_rejects self buffer.pts header rejected
  exact ⟨error, code, by simp only [exec, processRtpBufferWritable, mapped, rejection, CallOutcome.ofRtp]⟩

/-- A packet that breaks the sorted contract gets the regression error, and the
PTS and next state the instance with sorted mode already off gives it without
error (lines 471-487). -/
theorem exec_processRtpBuffer_of_regressed {buffer : RtpBuffer} {header : RtpHeader}
    (mapped : buffer.header = some header) (accepted : self.AcceptsHeader header)
    (sorted : self.feededSorted = true)
    (regressed : self.fsLastRtpExtTs ≠ gstClockTimeNone ∧
      gstRtpBufferExtTimestamp self.rtpExtTs header.timestamp < self.fsLastRtpExtTs) :
    (processRtpBuffer buffer).exec self =
      ⟨some (.unsortedBuffer header.ssrc header.seq header.timestamp
          (gstRtpBufferExtTimestamp self.rtpExtTs header.timestamp)),
        ((processRtpBuffer buffer).exec { self with feededSorted := false }).pts,
        ((processRtpBuffer buffer).exec { self with feededSorted := false }).self⟩ ∧
      ((processRtpBuffer buffer).exec { self with feededSorted := false }).error = none := by
  have processed := processRtpAccepted_of_regressed (self.latchSsrc header.ssrc) buffer.pts header
    (by rwa [latchSsrc_feededSorted]) (by rwa [latchSsrc_fsLastRtpExtTs, latchSsrc_rtpExtTs])
  rw [← latchSsrc_demote, latchSsrc_rtpExtTs] at processed
  rw [exec_processRtpBuffer_of_accepts self mapped accepted,
    exec_processRtpBuffer_of_accepts { self with feededSorted := false } mapped accepted, processed.1]
  exact ⟨rfl, processed.2⟩

/-- Only `set_pt_clock_rate` and Sender Reports write the session. -/
theorem exec_session_of_rtp (buffer : RtpBuffer) :
    ((processRtpBuffer buffer).exec self).self.session = self.session := by
  rw [exec_processRtpBuffer_self]
  split
  · rfl
  · split <;> simp

/-- `set_pt_clock_rate` fails on a non-positive rate, then on a second
configuration, and writes only when it succeeds. -/
theorem exec_setPtClockRate (pt clockRate : GInt32) :
    (setPtClockRate pt clockRate).exec self =
      if clockRate.toInt ≤ 0 then ⟨some .clockRateNotAllowed, none, self⟩
      else if self.clockRate ≠ 0 then ⟨some .onlyOnePt, none, self⟩
      else ⟨none, none, { self with pt, clockRate }⟩ := by
  simp only [exec, KmsRtpSynchronizer.setPtClockRate]
  split_ifs <;> rfl

theorem exec_session_of_setPtClockRate (pt clockRate : GInt32) :
    ((setPtClockRate pt clockRate).exec self).self =
      if 0 < clockRate.toInt ∧ self.clockRate = 0 then { self with pt, clockRate } else self := by
  rw [exec_setPtClockRate]
  by_cases positive : 0 < clockRate.toInt
  · simp only [not_le.mpr positive, if_false, positive, true_and]
    split_ifs <;> first | rfl | (exfalso; tauto)
  · simp only [not_lt.mp positive, if_true, positive, false_and, if_false]

/-- The tracker moves exactly when a call feeds it. -/
theorem exec_rtpExtTs (call : SyncCall) :
    (call.exec self).self.rtpExtTs =
      match call.trackerInput self with
      | some timestamp => gstRtpBufferExtTimestamp self.rtpExtTs timestamp
      | none => self.rtpExtTs := by
  cases call with
  | setPtClockRate pt clockRate =>
      rw [exec_session_of_setPtClockRate]
      split_ifs <;> rfl
  | processRtcpBuffer buffer =>
      rw [exec_processRtcpBuffer_self]
      simp only [trackerInput]
      split <;> rename_i report <;> simp only [report, Option.map]
  | processRtpBuffer buffer =>
      rw [exec_processRtpBuffer_self]
      rcases mapped : buffer.header with _ | header <;> simp only [trackerInput, mapped]
      split_ifs
      · exact (processRtpAccepted_stream ..).2.trans (by simp)
      · simp

/-- The record of the last sorted packet is kept, or set to the extended
timestamp the call's tracker input produces. -/
theorem exec_fsLastRtpExtTs (call : SyncCall) :
    (call.exec self).self.fsLastRtpExtTs = self.fsLastRtpExtTs ∨
      ∃ timestamp, call.trackerInput self = some timestamp ∧
        (call.exec self).self.fsLastRtpExtTs = gstRtpBufferExtTimestamp self.rtpExtTs timestamp := by
  cases call with
  | setPtClockRate pt clockRate =>
      rw [exec_session_of_setPtClockRate]
      left; split_ifs <;> rfl
  | processRtcpBuffer buffer =>
      rw [exec_processRtcpBuffer_self]
      left; split <;> rfl
  | processRtpBuffer buffer =>
      rw [exec_processRtpBuffer_self]
      rcases mapped : buffer.header with _ | header
      · exact .inl rfl
      · dsimp only
        split_ifs with accepted
        · rcases processRtpAccepted_fsLastRtpExtTs (self.latchSsrc header.ssrc) buffer.pts header
            with kept | recorded
          · exact .inl (by rw [kept, latchSsrc_fsLastRtpExtTs])
          · exact .inr ⟨header.timestamp, by simp [trackerInput, mapped, accepted],
              by rw [recorded, latchSsrc_rtpExtTs]⟩
        · exact .inl (latchSsrc_fsLastRtpExtTs ..)

end SyncCall

end RtpSync

import RtpSync.Synchronizer.Steps

/-!
# Sender-Report anchors over runs

Along any run the SR fields are the fold of `Anchors.record` over the run's
reports; the interpolation anchor, once set, is left alone.
-/

set_option autoImplicit false

namespace RtpSync

open Gst KmsRtpSynchronizer

/-- A Sender Report as `process_rtcp_packet` consumes it: its NTP time in
nanoseconds, the RTCP buffer's DTS, and the extended timestamp the tracker gives
its RTP timestamp. -/
structure SenderReport where
  ntpTime : GstClockTime
  dts : GstClockTime
  extTs : GstClockTime
deriving DecidableEq, Repr

/-- The SR fields of the state. -/
structure Anchors where
  baseInitiated : Bool
  baseNtpTime : GstClockTime
  baseSyncTime : GstClockTime
  lastRtcpExtTs : GstClockTime
  lastRtcpNtpTime : GstClockTime
deriving DecidableEq, Repr

def KmsRtpSynchronizer.anchors (self : KmsRtpSynchronizer) : Anchors :=
  ⟨self.baseInitiated, self.baseNtpTime, self.baseSyncTime, self.lastRtcpExtTs, self.lastRtcpNtpTime⟩

/-- Lines 271-290 on the SR fields: the first report sets the base anchor,
every report the latest-SR fields. -/
def Anchors.record (anchors : Anchors) (report : SenderReport) : Anchors :=
  if anchors.baseInitiated then
    { anchors with lastRtcpExtTs := report.extTs, lastRtcpNtpTime := report.ntpTime }
  else ⟨true, report.ntpTime, report.dts, report.extTs, report.ntpTime⟩

/-- The Sender Report a call hands to `process_rtcp_packet`, if any. -/
def SyncCall.senderReport (call : SyncCall) (self : KmsRtpSynchronizer) : Option SenderReport :=
  match call with
  | .processRtcpBuffer buffer =>
      buffer.senderReport?.map fun packet =>
        ⟨packet.ntpNanoseconds, buffer.dts, gstRtpBufferExtTimestamp self.rtpExtTs packet.rtpTime⟩
  | _ => none

/-- The Sender Reports of a run, in order. -/
def KmsRtpSynchronizer.senderReports (self : KmsRtpSynchronizer) : List SyncCall → List SenderReport
  | [] => []
  | call :: calls => (call.senderReport self).toList ++ (call.exec self).self.senderReports calls

namespace Anchors

theorem record_baseInitiated (anchors : Anchors) (report : SenderReport) :
    (anchors.record report).baseInitiated = true := by
  unfold record; split; exacts [‹_›, rfl]

theorem record_last (anchors : Anchors) (report : SenderReport) :
    (anchors.record report).lastRtcpNtpTime = report.ntpTime ∧
      (anchors.record report).lastRtcpExtTs = report.extTs := by
  unfold record; split <;> exact ⟨rfl, rfl⟩

theorem foldl_record_base_of_initiated (reports : List SenderReport) {anchors : Anchors}
    (initiated : anchors.baseInitiated = true) :
    (reports.foldl record anchors).baseNtpTime = anchors.baseNtpTime ∧
      (reports.foldl record anchors).baseSyncTime = anchors.baseSyncTime := by
  induction reports generalizing anchors with
  | nil => exact ⟨rfl, rfl⟩
  | cons report reports ih =>
      have kept := ih (record_baseInitiated anchors report)
      simp only [List.foldl_cons, record, initiated, if_true] at kept ⊢
      exact kept

theorem foldl_record_baseInitiated (reports : List SenderReport) (anchors : Anchors) :
    (reports.foldl record anchors).baseInitiated = (anchors.baseInitiated || !reports.isEmpty) := by
  induction reports generalizing anchors with
  | nil => simp
  | cons report reports ih => simp [ih, record_baseInitiated]

theorem foldl_record_last {reports : List SenderReport} {last : SenderReport}
    (isLast : reports.getLast? = some last) (anchors : Anchors) :
    (reports.foldl record anchors).lastRtcpNtpTime = last.ntpTime ∧
      (reports.foldl record anchors).lastRtcpExtTs = last.extTs := by
  obtain ⟨earlier, rfl⟩ := List.getLast?_eq_some_iff.mp isLast
  rw [List.foldl_append, List.foldl_cons, List.foldl_nil]
  exact record_last ..

end Anchors

variable (self : KmsRtpSynchronizer)

theorem exec_anchors (call : SyncCall) :
    (call.exec self).self.anchors =
      match call.senderReport self with
      | some report => self.anchors.record report
      | none => self.anchors := by
  cases call with
  | setPtClockRate pt clockRate =>
      rw [SyncCall.exec_session_of_setPtClockRate]
      split_ifs <;> rfl
  | processRtcpBuffer buffer =>
      rw [SyncCall.exec_processRtcpBuffer_self]
      simp only [SyncCall.senderReport]
      rcases report : buffer.senderReport? with _ | packet
      · rfl
      · dsimp only
        cases initiated : self.baseInitiated <;>
          simp [anchors, Anchors.record, initiated]
  | processRtpBuffer buffer =>
      have kept := SyncCall.exec_session_of_rtp self buffer
      simp only [session, Session.mk.injEq] at kept
      simp only [anchors, kept, SyncCall.senderReport]

theorem senderReports_append (calls more : List SyncCall) :
    self.senderReports (calls ++ more) = self.senderReports calls ++ (self.run calls).senderReports more := by
  induction calls generalizing self with
  | nil => rfl
  | cons call calls ih => simp [senderReports, ih]

theorem run_anchors (calls : List SyncCall) :
    (self.run calls).anchors = (self.senderReports calls).foldl Anchors.record self.anchors := by
  induction calls generalizing self with
  | nil => rfl
  | cons call calls ih =>
      rw [run_cons, ih, senderReports, List.foldl_append, exec_anchors]
      cases call.senderReport self <;> rfl

theorem exec_interpolation_of_initiated (initiated : self.baseInterpolateInitiated = true)
    (call : SyncCall) : (call.exec self).self.interpolation = self.interpolation := by
  cases call with
  | setPtClockRate pt clockRate =>
      rw [SyncCall.exec_session_of_setPtClockRate]
      split_ifs <;> rfl
  | processRtcpBuffer buffer =>
      rw [SyncCall.exec_processRtcpBuffer_self]
      split <;> rfl
  | processRtpBuffer buffer =>
      rw [SyncCall.exec_processRtpBuffer_self]
      rcases buffer.header with _ | header
      · rfl
      · have latched := latchSsrc_interpolation self header.ssrc
        dsimp only
        split
        · rw [processRtpAccepted_interpolation _ _ _
            (.inr (by rw [← initiated]; exact congrArg Interpolation.baseInterpolateInitiated latched)),
            latched]
        · exact latched

theorem run_interpolation_of_initiated (initiated : self.baseInterpolateInitiated = true)
    (calls : List SyncCall) : (self.run calls).interpolation = self.interpolation := by
  induction calls generalizing self with
  | nil => rfl
  | cons call calls ih =>
      have kept := exec_interpolation_of_initiated self initiated call
      rw [run_cons, ih _ (by rw [← initiated]; exact congrArg Interpolation.baseInterpolateInitiated kept), kept]

/-- Over every run from `kms_rtp_synchronizer_new`: (1) the base anchor is set
exactly when a Sender Report has been processed; (2) it then holds the first
report's NTP time and DTS, through any further calls; (3) the latest-SR fields
hold the last report's NTP time and extended timestamp; (4) a set interpolation
anchor never changes; (5) an RTCP buffer that does not map, is empty, or does
not start with a Sender Report changes nothing. -/
theorem sender_report_anchors (feededSorted : Bool) (calls : List SyncCall) :
    let self := (KmsRtpSynchronizer.new feededSorted).run calls
    let reports := (KmsRtpSynchronizer.new feededSorted).senderReports calls
    (self.baseInitiated = true ↔ reports ≠ []) ∧
    (∀ first ∈ reports.head?, ∀ more,
      (self.run more).baseNtpTime = first.ntpTime ∧ (self.run more).baseSyncTime = first.dts) ∧
    (∀ last ∈ reports.getLast?,
      self.lastRtcpNtpTime = last.ntpTime ∧ self.lastRtcpExtTs = last.extTs) ∧
    (self.baseInterpolateInitiated = true → ∀ more, (self.run more).interpolation = self.interpolation) ∧
    (∀ buffer : RtcpBuffer, buffer.senderReport? = none →
      ((SyncCall.processRtcpBuffer buffer).exec self).self = self) := by
  intro self reports
  have folded := run_anchors (KmsRtpSynchronizer.new feededSorted) calls
  refine ⟨?_, fun first isFirst more => ?_, fun last isLast => ?_,
    run_interpolation_of_initiated self, fun buffer none => ?_⟩
  · have initiated : self.baseInitiated = (false || !reports.isEmpty) :=
      (congrArg Anchors.baseInitiated folded).trans (Anchors.foldl_record_baseInitiated ..)
    rw [initiated]
    simp [List.isEmpty_iff]
  · obtain ⟨later, split⟩ := List.head?_eq_some_iff.mp isFirst
    have extended := run_anchors (KmsRtpSynchronizer.new feededSorted) (calls ++ more)
    rw [run_append, senderReports_append, show senderReports _ calls = first :: later from split,
      List.cons_append, List.foldl_cons] at extended
    have kept := Anchors.foldl_record_base_of_initiated
      (later ++ senderReports self more) (Anchors.record_baseInitiated (new feededSorted).anchors first)
    rw [← extended] at kept
    exact kept
  · have kept := Anchors.foldl_record_last isLast (KmsRtpSynchronizer.new feededSorted).anchors
    rw [← folded] at kept
    exact kept
  · rw [SyncCall.exec_processRtcpBuffer_self, none]

end RtpSync

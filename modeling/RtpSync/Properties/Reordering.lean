import RtpSync.Properties.Tracker

/-!
# Packets reordered by concurrent callers

A burst whose timestamps lie strictly within `2^30` ticks of the tracker's low
bits gets the same PTS in every processing order the instance lock allows.
-/

set_option autoImplicit false

namespace RtpSync

open Gst KmsRtpSynchronizer

/-- A packet of the burst: it maps, carries the learned SSRC and the configured
payload type, and its timestamp is strictly within `2^30` ticks of the low 32
bits of `anchor`. -/
def NearPacket (self : KmsRtpSynchronizer) (anchor : UInt64) (buffer : RtpBuffer) : Prop :=
  ∃ header ∈ buffer.header, header.ssrc = self.ssrc ∧
    (header.payloadType.toNat : Int) = self.pt.toInt ∧
    -2 ^ 30 < signed32 (header.timestamp - anchor.toUInt32) ∧
    signed32 (header.timestamp - anchor.toUInt32) < 2 ^ 30

instance (self : KmsRtpSynchronizer) (anchor : UInt64) (buffer : RtpBuffer) :
    Decidable (NearPacket self anchor buffer) :=
  inferInstanceAs (Decidable (∃ header ∈ buffer.header, _))

/-- Counter values strictly within `2^30` of `anchor`. -/
def Close (anchor tracker : UInt64) : Prop :=
  tracker.toNat < anchor.toNat + 2 ^ 30 ∧ anchor.toNat < tracker.toNat + 2 ^ 30

section Window

variable {anchor : UInt64} (low : 2 ^ 31 ≤ anchor.toNat) (high : anchor.toNat < 2 ^ 64 - 2 ^ 32)
include low high

theorem gstRtpBufferExtTimestamp_of_close {tracker : UInt64} (close : Close anchor tracker)
    {timestamp : UInt32} (near : -2 ^ 30 < signed32 (timestamp - anchor.toUInt32) ∧
      signed32 (timestamp - anchor.toUInt32) < 2 ^ 30) :
    gstRtpBufferExtTimestamp tracker timestamp = gstRtpBufferExtTimestamp anchor timestamp := by
  have setAnchor : anchor ≠ gstClockTimeNone := fun unset => by
    rw [unset, gstClockTimeNone_toNat] at high; omega
  have setTracker : tracker ≠ gstClockTimeNone := fun unset => by
    simp only [Close, unset, gstClockTimeNone_toNat] at close; omega
  obtain ⟨anchorCongruent, -, -⟩ := signed32_sub timestamp anchor.toUInt32
  obtain ⟨trackerCongruent, trackerLow, trackerHigh⟩ := signed32_sub timestamp tracker.toUInt32
  rw [toUInt32_toNat] at anchorCongruent trackerCongruent
  have same : (tracker.toNat : Int) + signed32 (timestamp - tracker.toUInt32) =
      anchor.toNat + signed32 (timestamp - anchor.toUInt32) := by
    unfold Close at close
    omega
  apply UInt64.toNat.inj
  rw [← Int.ofNat_inj, gstRtpBufferExtTimestamp_toNat anchor timestamp setAnchor,
    gstRtpBufferExtTimestamp_toNat tracker timestamp setTracker, same]

theorem close_gstRtpBufferExtTimestamp {timestamp : UInt32}
    (near : -2 ^ 30 < signed32 (timestamp - anchor.toUInt32) ∧
      signed32 (timestamp - anchor.toUInt32) < 2 ^ 30) :
    Close anchor (gstRtpBufferExtTimestamp anchor timestamp) := by
  have setAnchor : anchor ≠ gstClockTimeNone := fun unset => by
    rw [unset, gstClockTimeNone_toNat] at high; omega
  have lifted := gstRtpBufferExtTimestamp_toNat anchor timestamp setAnchor
  unfold Close
  omega

variable {self : KmsRtpSynchronizer} (unsorted : self.feededSorted = false)
  (anchored : self.baseInitiated ∨ self.baseInterpolateInitiated)
include unsorted anchored

theorem exec_of_close {tracker : UInt64} (close : Close anchor tracker) {buffer : RtpBuffer}
    (near : NearPacket self anchor buffer) :
    ((SyncCall.processRtpBuffer buffer).exec { self with rtpExtTs := tracker }).pts =
        ((SyncCall.processRtpBuffer buffer).exec { self with rtpExtTs := anchor }).pts ∧
      ∃ tracker', Close anchor tracker' ∧
        ((SyncCall.processRtpBuffer buffer).exec { self with rtpExtTs := tracker }).self =
          { self with rtpExtTs := tracker' } := by
  obtain ⟨header, mapped, learned, payload, window⟩ := near
  by_cases accepted : self.AcceptsHeader header
  · have run := fun tracker : UInt64 =>
      SyncCall.exec_processRtpBuffer_of_accepts { self with rtpExtTs := tracker } mapped accepted
    have latched := fun tracker : UInt64 => latchSsrc_of_eq { self with rtpExtTs := tracker } learned
    have fast := fun tracker : UInt64 =>
      processRtpAccepted_of_unsorted { self with rtpExtTs := tracker } buffer.pts header unsorted anchored
    simp only [run, latched, fast, CallOutcome.ofRtp,
      gstRtpBufferExtTimestamp_of_close low high close window, true_and]
    exact ⟨_, close_gstRtpBufferExtTimestamp low high window, rfl⟩
  · obtain ⟨_, -, rejectedFrom⟩ := SyncCall.exec_processRtpBuffer_of_rejects
      { self with rtpExtTs := tracker } mapped accepted
    obtain ⟨_, -, rejectedAnchor⟩ := SyncCall.exec_processRtpBuffer_of_rejects
      { self with rtpExtTs := anchor } mapped accepted
    simp only [rejectedFrom, rejectedAnchor,
      latchSsrc_of_eq { self with rtpExtTs := tracker } learned, true_and]
    exact ⟨tracker, close, rfl⟩

/-- Over a burst, each packet gets the PTS it gets straight after the anchor
state, whatever came before it. -/
theorem trace_of_close {tracker : UInt64} (close : Close anchor tracker) (packets : List RtpBuffer)
    (near : ∀ buffer ∈ packets, NearPacket self anchor buffer) :
    ({ self with rtpExtTs := tracker }.trace (packets.map .processRtpBuffer)).map CallOutcome.pts =
      packets.map fun buffer =>
        ((SyncCall.processRtpBuffer buffer).exec { self with rtpExtTs := anchor }).pts := by
  induction packets generalizing tracker with
  | nil => rfl
  | cons buffer packets ih =>
      obtain ⟨same, tracker', close', next⟩ :=
        exec_of_close low high unsorted anchored close (near buffer (List.mem_cons_self ..))
      rw [List.map_cons, trace_cons, List.map_cons, same, next,
        ih close' fun other mem => near other (List.mem_cons_of_mem _ mem), List.map_cons]

end Window

/-- In unsorted mode with an anchor set and a tracker value `e` with
`2^31 ≤ e < 2^64 - 2^32`, every packet of a burst that carries the learned SSRC
and the configured payload type, with a timestamp strictly within `2^30` ticks
of the low 32 bits of `e`, gets the PTS it would get if it came first. So any
two processing orders of the burst give every packet the same PTS. -/
theorem reordered_burst_pts (self : KmsRtpSynchronizer) (unsorted : self.feededSorted = false)
    (anchored : self.baseInitiated ∨ self.baseInterpolateInitiated)
    (low : 2 ^ 31 ≤ self.rtpExtTs.toNat) (high : self.rtpExtTs.toNat < 2 ^ 64 - 2 ^ 32)
    (packets : List RtpBuffer) (near : ∀ buffer ∈ packets, NearPacket self self.rtpExtTs buffer) :
    (self.trace (packets.map .processRtpBuffer)).map CallOutcome.pts =
      packets.map fun buffer => ((SyncCall.processRtpBuffer buffer).exec self).pts :=
  trace_of_close low high unsorted anchored
    (show Close self.rtpExtTs self.rtpExtTs from ⟨by omega, by omega⟩) packets near

theorem reordered_burst_pts_around_anchor :
    let self := (KmsRtpSynchronizer.new false).run
      [.setPtClockRate 96 90000, .processRtpBuffer ⟨1000000000, some ⟨7, 0, 0x80000000, 96⟩⟩]
    let packets : List RtpBuffer := [⟨0, some ⟨7, 1, 0x80000010, 96⟩⟩, ⟨0, some ⟨7, 2, 0x7FFFFFF0, 96⟩⟩]
    (self.feededSorted = false ∧ (self.baseInitiated ∨ self.baseInterpolateInitiated) ∧
      2 ^ 31 ≤ self.rtpExtTs.toNat ∧ self.rtpExtTs.toNat < 2 ^ 64 - 2 ^ 32 ∧
      ∀ buffer ∈ packets, NearPacket self self.rtpExtTs buffer) ∧
    (self.trace (packets.map .processRtpBuffer)).map CallOutcome.pts =
      packets.map fun buffer => ((SyncCall.processRtpBuffer buffer).exec self).pts :=
  ⟨by decide, reordered_burst_pts _ (by decide) (by decide) (by decide) (by decide) _ (by decide)⟩

/-- With both timestamps exactly `2^30` ticks from the tracker's low bits, on
either side, the burst's PTS depend on the order: the one processed second is
`2^31` ticks from the first and is lifted below it. -/
theorem burst_at_window_edge :
    let self := (KmsRtpSynchronizer.new false).run
      [.setPtClockRate 96 90000, .processRtpBuffer ⟨1000000000, some ⟨7, 0, 0x80000000, 96⟩⟩]
    let early : RtpBuffer := ⟨0, some ⟨7, 1, 0x40000000, 96⟩⟩
    let late : RtpBuffer := ⟨0, some ⟨7, 2, 0xC0000000, 96⟩⟩
    self.feededSorted = false ∧ self.baseInterpolateInitiated = true ∧ self.ssrc = 7 ∧ self.pt = 96 ∧
      2 ^ 31 ≤ self.rtpExtTs.toNat ∧ self.rtpExtTs.toNat < 2 ^ 64 - 2 ^ 32 ∧
      signed32 (0x40000000 - self.rtpExtTs.toUInt32) = -2 ^ 30 ∧
      signed32 (0xC0000000 - self.rtpExtTs.toUInt32) = 2 ^ 30 ∧
      (self.trace [.processRtpBuffer early, .processRtpBuffer late]).map CallOutcome.pts ≠
        ((self.trace [.processRtpBuffer late, .processRtpBuffer early]).map CallOutcome.pts).reverse := by
  decide

end RtpSync

import RtpSync.Synchronizer.Steps

/-!
# The extended-timestamp tracker

Every accepted RTP packet (line 469) and Sender Report (line 286) moves
`rtp_ext_ts` by the signed 32-bit difference to the previous input.
-/

set_option autoImplicit false

namespace RtpSync

open Gst KmsRtpSynchronizer

/-- A 32-bit word read as a two's-complement `gint32`. -/
def signed32 (word : UInt32) : Int :=
  if word.toNat < 2 ^ 31 then word.toNat else word.toNat - 2 ^ 32

theorem signed32_sub (timestamp previous : UInt32) :
    (signed32 (timestamp - previous) - (timestamp.toNat - previous.toNat)) % 2 ^ 32 = 0 ∧
      -2 ^ 31 ≤ signed32 (timestamp - previous) ∧ signed32 (timestamp - previous) < 2 ^ 31 := by
  have diff := UInt32.toNat_sub timestamp previous
  have := timestamp.toNat_lt
  have := previous.toNat_lt
  simp only [UInt32.size] at diff
  unfold signed32
  split_ifs <;> omega

theorem toUInt32_toNat (value : UInt64) : value.toUInt32.toNat = value.toNat % 2 ^ 32 := rfl

theorem toUInt64_toNat (word : UInt32) : word.toUInt64.toNat = word.toNat := rfl

theorem word_lt_iff_toNat_lt {a b : UInt32} : a < b ↔ a.toNat < b.toNat := Iff.rfl

theorem gstRtpBufferExtTimestamp_toNat (exttimestamp : UInt64) (timestamp : UInt32)
    (set : exttimestamp ≠ gstClockTimeNone) :
    ((gstRtpBufferExtTimestamp exttimestamp timestamp).toNat : Int) =
      (exttimestamp.toNat + signed32 (timestamp - exttimestamp.toUInt32)) % 2 ^ 64 := by
  have bounded := exttimestamp.toNat_lt
  have small := timestamp.toNat_lt
  have diff := UInt32.toNat_sub timestamp exttimestamp.toUInt32
  have wrap : (0x100000000 : UInt64).toNat = 2 ^ 32 := rfl
  have half : (0x80000000 : UInt32).toNat = 2 ^ 31 := rfl
  rw [toUInt32_toNat] at diff
  simp only [UInt32.size] at diff
  simp only [gstRtpBufferExtTimestamp, set, if_false, signed32]
  split_ifs with forward forward' forward' <;>
    simp only [UInt64.toNat_sub, UInt64.toNat_add, toUInt64_toNat, UInt64.size, wrap, half,
      word_lt_iff_toNat_lt] at * <;>
    omega

theorem gstRtpBufferExtTimestamp_toUInt32 (exttimestamp : UInt64) (timestamp : UInt32) :
    (gstRtpBufferExtTimestamp exttimestamp timestamp).toUInt32 = timestamp := by
  apply UInt32.toNat.inj
  rw [toUInt32_toNat]
  by_cases set : exttimestamp = gstClockTimeNone
  · simp only [gstRtpBufferExtTimestamp, set, if_true, toUInt64_toNat]
    exact Nat.mod_eq_of_lt timestamp.toNat_lt
  · have moved := gstRtpBufferExtTimestamp_toNat exttimestamp timestamp set
    obtain ⟨congruent, -, -⟩ := signed32_sub timestamp exttimestamp.toUInt32
    have small := timestamp.toNat_lt
    rw [toUInt32_toNat] at congruent
    omega

/-- The unwrapping over the integers of the timestamps that follow `previous`,
whose unwrapped value is `unwrapped`: each one moves by the signed 32-bit
difference to its predecessor. -/
def unwrapFrom (unwrapped : Int) (previous : UInt32) : List UInt32 → List Int
  | [] => []
  | timestamp :: rest =>
      let next := unwrapped + signed32 (timestamp - previous)
      next :: unwrapFrom next timestamp rest

/-- `u_0 = t_0` and `u_(k+1) = u_k + signed32 (t_(k+1) - t_k)`. -/
def unwrapTimestamps : List UInt32 → List Int
  | [] => []
  | first :: rest => first.toNat :: unwrapFrom first.toNat first rest

/-- Each timestamp a run feeds the tracker, with the extended timestamp computed
for it. -/
def KmsRtpSynchronizer.trackerTrace (self : KmsRtpSynchronizer) :
    List SyncCall → List (UInt32 × GstClockTime)
  | [] => []
  | call :: calls =>
      ((call.trackerInput self).map fun timestamp =>
          (timestamp, gstRtpBufferExtTimestamp self.rtpExtTs timestamp)).toList ++
        (call.exec self).self.trackerTrace calls

theorem trackerTrace_of_set (self : KmsRtpSynchronizer) (calls : List SyncCall)
    (set : self.rtpExtTs ≠ gstClockTimeNone)
    (inRange : ∀ u ∈ unwrapFrom self.rtpExtTs.toNat self.rtpExtTs.toUInt32
      ((self.trackerTrace calls).map Prod.fst), 0 ≤ u ∧ u < 2 ^ 64 - 1) :
    (self.trackerTrace calls).map (fun entry => (entry.2.toNat : Int)) =
      unwrapFrom self.rtpExtTs.toNat self.rtpExtTs.toUInt32 ((self.trackerTrace calls).map Prod.fst) := by
  induction calls generalizing self with
  | nil => rfl
  | cons call calls ih =>
      have moved := SyncCall.exec_rtpExtTs self call
      rcases input : call.trackerInput self with _ | timestamp <;> rw [input] at moved <;>
        dsimp only at moved <;>
        simp only [trackerTrace, input, Option.map_none', Option.map_some', Option.toList_none,
          Option.toList_some, List.nil_append, List.singleton_append, List.map_cons, unwrapFrom]
          at inRange ⊢
      · rw [← moved] at inRange ⊢
        exact ih _ (moved ▸ set) inRange
      · have next := gstRtpBufferExtTimestamp_toNat self.rtpExtTs timestamp set
        obtain ⟨low, high⟩ := inRange _ (List.mem_cons_self ..)
        rw [Int.emod_eq_of_lt low (by omega)] at next
        have set' : (call.exec self).self.rtpExtTs ≠ gstClockTimeNone := by
          rw [moved]
          intro unset
          rw [unset, gstClockTimeNone_toNat] at next
          omega
        have rest := ih _ set'
        rw [moved, next, gstRtpBufferExtTimestamp_toUInt32] at rest
        rw [rest fun u mem => inRange u (List.mem_cons_of_mem _ mem), next]

theorem trackerTrace_of_unset (self : KmsRtpSynchronizer) (calls : List SyncCall)
    (unset : self.rtpExtTs = gstClockTimeNone)
    (inRange : ∀ u ∈ unwrapTimestamps ((self.trackerTrace calls).map Prod.fst), 0 ≤ u ∧ u < 2 ^ 64 - 1) :
    (self.trackerTrace calls).map (fun entry => (entry.2.toNat : Int)) =
      unwrapTimestamps ((self.trackerTrace calls).map Prod.fst) := by
  induction calls generalizing self with
  | nil => rfl
  | cons call calls ih =>
      have moved := SyncCall.exec_rtpExtTs self call
      rcases input : call.trackerInput self with _ | timestamp <;> rw [input] at moved <;>
        dsimp only at moved <;>
        simp only [trackerTrace, input, Option.map_none', Option.map_some', Option.toList_none,
          Option.toList_some, List.nil_append, List.singleton_append, List.map_cons, unwrapTimestamps]
          at inRange ⊢
      · exact ih _ (moved.trans unset) inRange
      · have first : gstRtpBufferExtTimestamp self.rtpExtTs timestamp = timestamp.toUInt64 := by
          simp [gstRtpBufferExtTimestamp, unset]
        have low := gstRtpBufferExtTimestamp_toUInt32 self.rtpExtTs timestamp
        rw [first] at moved low
        have set : (call.exec self).self.rtpExtTs ≠ gstClockTimeNone := by
          rw [moved]
          intro none
          have := congrArg UInt64.toNat none
          rw [toUInt64_toNat, gstClockTimeNone_toNat] at this
          have := timestamp.toNat_lt
          omega
        have rest := trackerTrace_of_set _ calls set
        rw [moved, toUInt64_toNat, low] at rest
        rw [first, toUInt64_toNat, rest fun u mem => inRange u (List.mem_cons_of_mem _ mem)]

theorem trackerTrace_append (self : KmsRtpSynchronizer) (calls more : List SyncCall) :
    self.trackerTrace (calls ++ more) = self.trackerTrace calls ++ (self.run calls).trackerTrace more := by
  induction calls generalizing self with
  | nil => rfl
  | cons call calls ih => simp [trackerTrace, ih]

theorem run_fsLastRtpExtTs (self : KmsRtpSynchronizer) (calls : List SyncCall) :
    (self.run calls).fsLastRtpExtTs = self.fsLastRtpExtTs ∨
      ∃ entry ∈ self.trackerTrace calls, entry.2 = (self.run calls).fsLastRtpExtTs := by
  induction calls generalizing self with
  | nil => exact .inl rfl
  | cons call calls ih =>
      rw [run_cons]
      rcases ih (call.exec self).self with kept | ⟨entry, mem, recorded⟩
      · rcases SyncCall.exec_fsLastRtpExtTs self call with same | ⟨timestamp, input, recorded⟩
        · exact .inl (kept.trans same)
        · exact .inr ⟨(timestamp, gstRtpBufferExtTimestamp self.rtpExtTs timestamp),
            by simp [trackerTrace, input], recorded.symm.trans kept.symm⟩
      · exact .inr ⟨entry, by simp [trackerTrace, mem], recorded⟩

/-- Over every run from `kms_rtp_synchronizer_new` whose unwrapped tracker
inputs stay inside `[0, 2^64 - 1)`: the tracker computes exactly the unwrapped
value of each input; and when the run ends with an accepted RTP packet in
sorted mode, the recorded `fs_last_rtp_ext_ts` is the unwrapped value of an
earlier input, and the packet demotes the instance with `INVALID_DATA` exactly
when its own unwrapped value is below the recorded one. -/
theorem tracker_unwraps (feededSorted : Bool) (calls : List SyncCall)
    (inRange : ∀ u ∈ unwrapTimestamps (((new feededSorted).trackerTrace calls).map Prod.fst),
      0 ≤ u ∧ u < 2 ^ 64 - 1) :
    let unwrapped := unwrapTimestamps (((new feededSorted).trackerTrace calls).map Prod.fst)
    ((new feededSorted).trackerTrace calls).map (fun entry => (entry.2.toNat : Int)) = unwrapped ∧
    ∀ before buffer header, calls = before ++ [.processRtpBuffer buffer] → buffer.header = some header →
      let self := (new feededSorted).run before
      let outcome := (SyncCall.processRtpBuffer buffer).exec self
      self.feededSorted = true → self.AcceptsHeader header →
      (self.fsLastRtpExtTs ≠ gstClockTimeNone → (self.fsLastRtpExtTs.toNat : Int) ∈ unwrapped) ∧
      ∀ u ∈ unwrapped.getLast?,
        ((outcome.error.map SyncError.code = some .invalidData ∧ outcome.self.feededSorted = false) ↔
          self.fsLastRtpExtTs ≠ gstClockTimeNone ∧ u < self.fsLastRtpExtTs.toNat) := by
  intro unwrapped
  have exact : ((new feededSorted).trackerTrace calls).map (fun entry => (entry.2.toNat : Int)) =
      unwrapped := trackerTrace_of_unset (new feededSorted) calls rfl inRange
  refine ⟨exact, ?_⟩
  intro before buffer header split mapped self outcome sorted accepted
  have input : (SyncCall.processRtpBuffer buffer).trackerInput self = some header.timestamp := by
    simp [SyncCall.trackerInput, mapped, accepted]
  have trace : (new feededSorted).trackerTrace calls =
      (new feededSorted).trackerTrace before ++
        [(header.timestamp, gstRtpBufferExtTimestamp self.rtpExtTs header.timestamp)] := by
    rw [split, trackerTrace_append]
    simp [trackerTrace, input, self]
  refine ⟨fun recorded => ?_, fun u last => ?_⟩
  · rcases run_fsLastRtpExtTs (new feededSorted) before with unset | ⟨entry, mem, isLast⟩
    · exact absurd unset recorded
    · rw [← exact, ← isLast]
      exact List.mem_map_of_mem _ (trace ▸ List.mem_append_left _ mem)
  · have current : u = (gstRtpBufferExtTimestamp self.rtpExtTs header.timestamp).toNat := by
      rw [← exact, trace, List.map_append, List.map_cons, List.map_nil, List.getLast?_concat] at last
      exact (Option.some.inj last).symm
    have demotes := processRtpAccepted_demotes_iff (self.latchSsrc header.ssrc) buffer.pts header
      (by rw [latchSsrc_feededSorted]; exact sorted)
    rw [latchSsrc_fsLastRtpExtTs, latchSsrc_rtpExtTs] at demotes
    rw [show outcome = _ from SyncCall.exec_processRtpBuffer_of_accepts self mapped accepted, current]
    exact demotes.trans (and_congr_right' (lt_iff_toNat_lt.trans Int.ofNat_lt.symm))

/-- A sorted feed whose third RTP timestamp falls back behind the first, with a
Sender Report in between. -/
theorem tracker_unwraps_on_regression :
    let calls : List SyncCall := [.setPtClockRate 96 90000,
      .processRtpBuffer ⟨0, some ⟨7, 0, 3000, 96⟩⟩,
      .processRtcpBuffer ⟨5, some [⟨.sr, 7, 0x100000000, 2000⟩]⟩,
      .processRtpBuffer ⟨0, some ⟨7, 1, 1000, 96⟩⟩]
    (∀ u ∈ unwrapTimestamps (((new true).trackerTrace calls).map Prod.fst), 0 ≤ u ∧ u < 2 ^ 64 - 1) ∧
    let unwrapped := unwrapTimestamps (((new true).trackerTrace calls).map Prod.fst)
    ((new true).trackerTrace calls).map (fun entry => (entry.2.toNat : Int)) = unwrapped ∧
    ∀ before buffer header, calls = before ++ [.processRtpBuffer buffer] → buffer.header = some header →
      let self := (new true).run before
      let outcome := (SyncCall.processRtpBuffer buffer).exec self
      self.feededSorted = true → self.AcceptsHeader header →
      (self.fsLastRtpExtTs ≠ gstClockTimeNone → (self.fsLastRtpExtTs.toNat : Int) ∈ unwrapped) ∧
      ∀ u ∈ unwrapped.getLast?,
        ((outcome.error.map SyncError.code = some .invalidData ∧ outcome.self.feededSorted = false) ↔
          self.fsLastRtpExtTs ≠ gstClockTimeNone ∧ u < self.fsLastRtpExtTs.toNat) :=
  ⟨by decide, tracker_unwraps true _ (by decide)⟩

end RtpSync

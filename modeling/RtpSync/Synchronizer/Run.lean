import RtpSync.Synchronizer.Process

/-!
# Runs of the synchronizer

The public calls as one step type, their sequential runs, and the states a
run from `kms_rtp_synchronizer_new` reaches. The instance's reentrant mutex makes
every call atomic, so any execution by concurrent callers is one of these runs.
-/

set_option autoImplicit false

namespace RtpSync

open Gst

/-- A call of the synchronizer's public API. -/
inductive SyncCall where
  | setPtClockRate (pt clockRate : GInt32)
  | processRtcpBuffer (buffer : RtcpBuffer)
  | processRtpBuffer (buffer : RtpBuffer)
deriving DecidableEq, Repr

/-- What a call hands back to its caller, with the synchronizer after it. -/
structure CallOutcome where
  error : Option SyncError
  /-- The RTP buffer's PTS after the call; `none` for calls without an RTP buffer. -/
  pts : Option GstClockTime
  self : KmsRtpSynchronizer
deriving DecidableEq, Repr

namespace CallOutcome

/-- A call that can only fail before writing anything. -/
def ofExcept (self : KmsRtpSynchronizer) : Except SyncError KmsRtpSynchronizer → CallOutcome
  | .ok after => ⟨none, none, after⟩
  | .error error => ⟨some error, none, self⟩

@[simp] theorem ofExcept_pts (self : KmsRtpSynchronizer) (result : Except SyncError KmsRtpSynchronizer) :
    (ofExcept self result).pts = none := by
  cases result <;> rfl

/-- An RTP call. -/
def ofRtp (outcome : KmsRtpSynchronizer.RtpOutcome) : CallOutcome :=
  ⟨outcome.error, some outcome.pts, outcome.self⟩

end CallOutcome

/-- One call on the synchronizer. -/
def SyncCall.exec (call : SyncCall) (self : KmsRtpSynchronizer) : CallOutcome :=
  match call with
  | .setPtClockRate pt clockRate => .ofExcept self (self.setPtClockRate pt clockRate)
  | .processRtcpBuffer buffer => .ofExcept self (self.processRtcpBuffer buffer)
  | .processRtpBuffer buffer => .ofRtp (self.processRtpBufferWritable buffer)

namespace KmsRtpSynchronizer

/-- The synchronizer after the calls, in order. -/
def run (self : KmsRtpSynchronizer) : List SyncCall → KmsRtpSynchronizer
  | [] => self
  | call :: calls => (call.exec self).self.run calls

/-- The outcome of each call, in order. -/
def trace (self : KmsRtpSynchronizer) : List SyncCall → List CallOutcome
  | [] => []
  | call :: calls => call.exec self :: (call.exec self).self.trace calls

@[simp] theorem run_nil (self : KmsRtpSynchronizer) : self.run [] = self := rfl

@[simp] theorem run_cons (self : KmsRtpSynchronizer) (call : SyncCall) (calls : List SyncCall) :
    self.run (call :: calls) = (call.exec self).self.run calls := rfl

@[simp] theorem trace_nil (self : KmsRtpSynchronizer) : self.trace [] = [] := rfl

@[simp] theorem trace_cons (self : KmsRtpSynchronizer) (call : SyncCall) (calls : List SyncCall) :
    self.trace (call :: calls) = call.exec self :: (call.exec self).self.trace calls := rfl

theorem run_append (self : KmsRtpSynchronizer) (calls more : List SyncCall) :
    self.run (calls ++ more) = (self.run calls).run more := by
  induction calls generalizing self with
  | nil => rfl
  | cons call calls ih => exact ih _

theorem trace_append (self : KmsRtpSynchronizer) (calls more : List SyncCall) :
    self.trace (calls ++ more) = self.trace calls ++ (self.run calls).trace more := by
  induction calls generalizing self with
  | nil => rfl
  | cons call calls ih => simp [ih]

end KmsRtpSynchronizer

/-- The states some run from `kms_rtp_synchronizer_new` reaches. -/
inductive Reachable : KmsRtpSynchronizer → Prop where
  | new (feededSorted : Bool) : Reachable (.new feededSorted)
  | call {self : KmsRtpSynchronizer} (call : SyncCall) :
      Reachable self → Reachable (call.exec self).self

theorem Reachable.run {self : KmsRtpSynchronizer} (reachable : Reachable self)
    (calls : List SyncCall) : Reachable (self.run calls) := by
  induction calls generalizing self with
  | nil => exact reachable
  | cons call calls ih => exact ih (reachable.call call)

theorem reachable_iff_run (self : KmsRtpSynchronizer) :
    Reachable self ↔ ∃ feededSorted calls, self = (KmsRtpSynchronizer.new feededSorted).run calls := by
  constructor
  · intro reachable
    induction reachable with
    | new feededSorted => exact ⟨feededSorted, [], rfl⟩
    | call call _ ih =>
        obtain ⟨feededSorted, calls, rfl⟩ := ih
        exact ⟨feededSorted, calls ++ [call], by rw [KmsRtpSynchronizer.run_append]; rfl⟩
  · rintro ⟨feededSorted, calls, rfl⟩
    exact (Reachable.new feededSorted).run calls

end RtpSync

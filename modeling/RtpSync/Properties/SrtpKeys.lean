import RtpSync.Srtp.Connection

/-!
# The latest key wins

Seen from its two elements, the SRTP connection is a pair of registers: the
decoder gets the caps of the last remote key set, and `srtpenc` was last passed
the last local key, whatever the interleaving of calls and signals.
-/

set_option autoImplicit false

namespace RtpSync.Srtp

namespace SrtpCall

/-- The remote key a call sets: its Base64 text, authentication and cipher. -/
def remoteKey : SrtpCall → Option (String × UInt32 × UInt32)
  | .setKey key auth cipher false => some (key, auth, cipher)
  | _ => none

/-- The properties a call passes to `srtpenc`. -/
def localKey : SrtpCall → Option SrtpencRequest
  | .setKey key auth cipher true => some ⟨key, cipher, cipher, auth, auth⟩
  | _ => none

end SrtpCall

/-- The last remote key among the calls, `none` if there is none. -/
def latestRemoteKey (calls : List SrtpCall) : Option (String × UInt32 × UInt32) :=
  calls.foldl (fun latest call => call.remoteKey.or latest) none

/-- The last local key among the calls, as the properties passed to `srtpenc`. -/
def latestLocalKey (calls : List SrtpCall) : Option SrtpencRequest :=
  calls.foldl (fun latest call => call.localKey.or latest) none

namespace KmsSrtpConnection

/-- The stored remote key, once one is set. -/
def remoteKey (conn : KmsSrtpConnection) : Option (String × UInt32 × UInt32) :=
  if conn.rKeySet then some (conn.rKey, conn.rAuth, conn.rCipher) else none

theorem setKey_remoteKey (conn : KmsSrtpConnection) (key : String) (auth cipher : UInt32) :
    (conn.setKey key auth cipher false).remoteKey = some (key, auth, cipher) := by
  unfold setKey remoteKey
  by_cases changed : (!conn.rKeySet || key != conn.rKey || conn.rAuth != auth || conn.rCipher != cipher) = true
  · simp only [Bool.false_eq_true, if_false, changed, if_true]
  · simp only [Bool.or_eq_true, Bool.not_eq_true', bne_iff_ne, ne_eq, not_or, not_not] at changed
    obtain ⟨⟨⟨set, rfl⟩, rfl⟩, rfl⟩ := changed
    simp [set]

theorem exec_remoteKey (conn : KmsSrtpConnection) (call : SrtpCall) :
    (call.exec conn).conn.remoteKey = call.remoteKey.or conn.remoteKey := by
  cases call with
  | setKey key auth cipher isLocal =>
      cases isLocal
      · exact setKey_remoteKey conn key auth cipher
      · rfl
  | requestKey ssrc =>
      simp only [SrtpCall.exec, requestRemoteKey, SrtpCall.remoteKey, Option.none_or]
      split_ifs <;> rfl
  | softLimit ssrc => rfl

theorem exec_srtpencRequest (conn : KmsSrtpConnection) (call : SrtpCall) :
    (call.exec conn).conn.srtpencRequest = call.localKey.or conn.srtpencRequest := by
  cases call with
  | setKey key auth cipher isLocal =>
      cases isLocal
      · simp only [SrtpCall.exec, setKey, SrtpCall.localKey, Option.none_or, Bool.false_eq_true, if_false]
        split_ifs <;> rfl
      · rfl
  | requestKey ssrc =>
      simp only [SrtpCall.exec, requestRemoteKey, SrtpCall.localKey, Option.none_or]
      split_ifs <;> rfl
  | softLimit ssrc => rfl

theorem exec_requestKey_caps (conn : KmsSrtpConnection) (ssrc : UInt32) :
    ((SrtpCall.requestKey ssrc).exec conn).caps =
      conn.remoteKey.bind fun (key, auth, cipher) => createKeyCaps ssrc key auth cipher := by
  simp only [SrtpCall.exec, requestRemoteKey, remoteKey]
  split_ifs <;> simp_all

theorem run_remoteKey (conn : KmsSrtpConnection) (calls : List SrtpCall) :
    (conn.run calls).remoteKey = calls.foldl (fun latest call => call.remoteKey.or latest) conn.remoteKey := by
  induction calls generalizing conn with
  | nil => rfl
  | cons call calls ih => rw [run_cons, ih, exec_remoteKey, List.foldl_cons]

theorem run_srtpencRequest (conn : KmsSrtpConnection) (calls : List SrtpCall) :
    (conn.run calls).srtpencRequest =
      calls.foldl (fun latest call => call.localKey.or latest) conn.srtpencRequest := by
  induction calls generalizing conn with
  | nil => rfl
  | cons call calls ih => rw [run_cons, ih, exec_srtpencRequest, List.foldl_cons]

end KmsSrtpConnection

theorem tableEntry_isSome_iff (first second : String) (index : UInt32) :
    (tableEntry [none, some first, some second] index).isSome ↔ index = 1 ∨ index = 2 := by
  have one : index = 1 ↔ index.toNat = 1 := ⟨congrArg UInt32.toNat, fun value => UInt32.toNat.inj value⟩
  have two : index = 2 ↔ index.toNat = 2 := ⟨congrArg UInt32.toNat, fun value => UInt32.toNat.inj value⟩
  rw [one, two]
  unfold tableEntry
  split_ifs with bound <;> simp only [List.length_cons, List.length_nil] at bound
  · rcases (by omega : index.toNat = 0 ∨ index.toNat = 1 ∨ index.toNat = 2) with value | value | value <;>
      simp [value]
  · simp only [Option.isSome_none, Bool.false_eq_true, false_iff]
    omega

theorem createKeyCaps_isSome_iff (ssrc : UInt32) (key : String) (auth cipher : UInt32) :
    (createKeyCaps ssrc key auth cipher).isSome ↔ (auth = 1 ∨ auth = 2) ∧ (cipher = 1 ∨ cipher = 2) := by
  rw [← tableEntry_isSome_iff "hmac-sha1-32" "hmac-sha1-80" auth,
    ← tableEntry_isSome_iff "aes-128-icm" "aes-256-icm" cipher]
  unfold createKeyCaps getStrAuth getStrCipher auths ciphers
  cases tableEntry [none, some "aes-128-icm", some "aes-256-icm"] cipher <;>
    cases tableEntry [none, some "hmac-sha1-32", some "hmac-sha1-80"] auth <;> simp

/-- Whatever came before, the decoder gets a key exactly while the last remote
key set names a cipher and an authentication: a key whose index has no name
(0, or past the table) still replaces a valid one, and every request then gets
`NULL` caps. -/
theorem request_key_caps_iff_latest_key_named (calls : List SrtpCall) (ssrc : UInt32) :
    ((SrtpCall.requestKey ssrc).exec (KmsSrtpConnection.new.run calls)).caps.isSome ↔
      ∃ key auth cipher, latestRemoteKey calls = some (key, auth, cipher) ∧
        (auth = 1 ∨ auth = 2) ∧ (cipher = 1 ∨ cipher = 2) := by
  rw [KmsSrtpConnection.exec_requestKey_caps, KmsSrtpConnection.run_remoteKey]
  change ((latestRemoteKey calls).bind _).isSome ↔ _
  cases latestRemoteKey calls with
  | none => simp
  | some stored =>
      obtain ⟨key, auth, cipher⟩ := stored
      simp only [Option.some_bind, createKeyCaps_isSome_iff, Option.some.injEq, Prod.mk.injEq]
      exact ⟨fun named => ⟨key, auth, cipher, ⟨rfl, rfl, rfl⟩, named⟩, fun ⟨_, _, _, ⟨_, rfl, rfl⟩, named⟩ => named⟩

end RtpSync.Srtp

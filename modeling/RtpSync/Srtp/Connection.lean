import Mathlib.Data.String.Basic

/-!
# The SRTP connection's keys

`kmssrtpconnection.c` wires an `srtpenc` and an `srtpdec` element between two
UDP sockets; its own logic is the key handling. A local key is passed to
`srtpenc` at once; a remote key is stored under the lock and handed to `srtpdec`
as caps whenever the decoder signals `request-key`.
-/

set_option autoImplicit false

namespace RtpSync.Srtp

/-- `auths`, indexed by the `auth` argument of `kms_srtp_connection_set_key`;
entry 0 is `NULL`. -/
def auths : List (Option String) := [none, some "hmac-sha1-32", some "hmac-sha1-80"]

/-- `ciphers`, indexed by the `cipher` argument; entry 0 is `NULL`. -/
def ciphers : List (Option String) := [none, some "aes-128-icm", some "aes-256-icm"]

/-- The lookup `get_str_auth` and `get_str_cipher` share: the table's entry,
`NULL` from `G_N_ELEMENTS` on. -/
def tableEntry (table : List (Option String)) (index : UInt32) : Option String :=
  if h : index.toNat < table.length then table[index.toNat] else none

/-- `get_str_auth`. -/
def getStrAuth (auth : UInt32) : Option String := tableEntry auths auth

/-- `get_str_cipher`. -/
def getStrCipher (cipher : UInt32) : Option String := tableEntry ciphers cipher

/-- The `application/x-srtp` caps of `create_key_caps`. The key is the Base64
text that `g_base64_decode` turns into the `srtp-key` buffer; one cipher name
and one authentication name serve both SRTP and SRTCP. -/
structure KeyCaps where
  srtpKey : String
  srtpCipher : String
  srtpAuth : String
  srtcpCipher : String
  srtcpAuth : String
deriving DecidableEq, Repr

/-- `create_key_caps`: `NULL` when the cipher or the authentication has no
name. The SSRC the decoder asks for is not read. -/
def createKeyCaps (ssrc : UInt32) (key : String) (auth cipher : UInt32) : Option KeyCaps :=
  match getStrCipher cipher, getStrAuth auth with
  | some strCipher, some strAuth => some ⟨key, strCipher, strAuth, strCipher, strAuth⟩
  | _, _ => none

/-- The properties `kms_srtp_connection_set_key` passes to `srtpenc` through
`g_object_set` for a local key: the key buffer, and one cipher and one
authentication for RTP and RTCP. This is the request, not what `srtpenc` keeps:
GLib checks each value against the element's enum property and refuses one out
of range, keeping the previous value; `srtpenc` is GStreamer's and not modelled. -/
structure SrtpencRequest where
  key : String
  rtpCipher : UInt32
  rtcpCipher : UInt32
  rtpAuth : UInt32
  rtcpAuth : UInt32
deriving DecidableEq, Repr

/-- The key fields of `KmsSrtpConnection` (`r_key`, `r_auth`, `r_cipher`,
`r_updated`, `r_key_set`), and the last key properties passed to `srtpenc`.
`r_key` is `NULL` until the first remote key and is read only once `r_key_set`
holds, so the empty text stands for it. -/
structure KmsSrtpConnection where
  rKey : String
  rAuth : UInt32
  rCipher : UInt32
  rUpdated : Bool
  rKeySet : Bool
  srtpencRequest : Option SrtpencRequest
deriving DecidableEq, Repr

namespace KmsSrtpConnection

/-- The key state `kms_srtp_connection_new` leaves: the instance is zero-filled
and both flags are cleared, and no key has been passed to `srtpenc`. -/
def new : KmsSrtpConnection := ⟨"", 0, 0, false, false, none⟩

/-- `kms_srtp_connection_set_key`. A local key is passed to `srtpenc` at once. A
remote key is compared with the stored one under the lock, and written and
flagged as updated only if it differs. -/
def setKey (conn : KmsSrtpConnection) (key : String) (auth cipher : UInt32) (isLocal : Bool) :
    KmsSrtpConnection :=
  if isLocal then { conn with srtpencRequest := some ⟨key, cipher, cipher, auth, auth⟩ }
  else
    let changed := !conn.rKeySet || key != conn.rKey || conn.rAuth != auth || conn.rCipher != cipher
    if changed then
      { conn with rKey := key, rAuth := auth, rCipher := cipher, rUpdated := true, rKeySet := true }
    else conn

/-- `kms_srtp_connection_request_remote_key_cb`, which `srtpdec` runs for a
stream it has no key for: no caps until a remote key is set; then the caps of
the stored key, and the updated flag is cleared. -/
def requestRemoteKey (conn : KmsSrtpConnection) (ssrc : UInt32) : Option KeyCaps × KmsSrtpConnection :=
  if !conn.rKeySet then (none, conn)
  else
    let conn := if !conn.rUpdated then conn else { conn with rUpdated := false }
    (createKeyCaps ssrc conn.rKey conn.rAuth conn.rCipher, conn)

end KmsSrtpConnection

/-- A call that reaches the key state: `kms_srtp_connection_set_key` from the
application, or one of the two `srtpdec` signals from the streaming thread. The
remote-key path and `request-key` hold the connection lock, and the local path
touches only `srtpenc`, which no other call reads; so every interleaving of
these calls is one of their sequential runs. -/
inductive SrtpCall where
  | setKey (key : String) (auth cipher : UInt32) (isLocal : Bool)
  | requestKey (ssrc : UInt32)
  | softLimit (ssrc : UInt32)
deriving DecidableEq, Repr

/-- What a call hands back: the caps returned to `srtpdec`, whether
`key-soft-limit` was emitted, and the connection after it. -/
structure SrtpOutcome where
  caps : Option KeyCaps
  keySoftLimit : Bool
  conn : KmsSrtpConnection
deriving DecidableEq, Repr

/-- One call. `kms_srtp_connection_soft_key_limit_cb` emits `key-soft-limit`
and returns `NULL`: no new key is provided. -/
def SrtpCall.exec (call : SrtpCall) (conn : KmsSrtpConnection) : SrtpOutcome :=
  match call with
  | .setKey key auth cipher isLocal => ⟨none, false, conn.setKey key auth cipher isLocal⟩
  | .requestKey ssrc => ⟨(conn.requestRemoteKey ssrc).1, false, (conn.requestRemoteKey ssrc).2⟩
  | .softLimit _ => ⟨none, true, conn⟩

namespace KmsSrtpConnection

/-- The connection after the calls, in order. -/
def run (conn : KmsSrtpConnection) : List SrtpCall → KmsSrtpConnection
  | [] => conn
  | call :: calls => (call.exec conn).conn.run calls

/-- The outcome of each call, in order. -/
def trace (conn : KmsSrtpConnection) : List SrtpCall → List SrtpOutcome
  | [] => []
  | call :: calls => call.exec conn :: (call.exec conn).conn.trace calls

@[simp] theorem run_nil (conn : KmsSrtpConnection) : conn.run [] = conn := rfl

@[simp] theorem run_cons (conn : KmsSrtpConnection) (call : SrtpCall) (calls : List SrtpCall) :
    conn.run (call :: calls) = (call.exec conn).conn.run calls := rfl

@[simp] theorem trace_nil (conn : KmsSrtpConnection) : conn.trace [] = [] := rfl

@[simp] theorem trace_cons (conn : KmsSrtpConnection) (call : SrtpCall) (calls : List SrtpCall) :
    conn.trace (call :: calls) = call.exec conn :: (call.exec conn).conn.trace calls := rfl

theorem run_append (conn : KmsSrtpConnection) (calls more : List SrtpCall) :
    conn.run (calls ++ more) = (conn.run calls).run more := by
  induction calls generalizing conn with
  | nil => rfl
  | cons call calls ih => exact ih _

end KmsSrtpConnection

end RtpSync.Srtp

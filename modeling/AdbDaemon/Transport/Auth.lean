import AdbDaemon.Transport.Handshake
import AdbDaemon.Transport.PublicKey

/-!
# Authentication

Reference: `AuthTransport` of `packages/transport/src/transport.rs` and `create_usb_connection` of
`src/connection/usb.rs`.

After `CNXN` the device sends challenges until one of the answers satisfies it.  The daemon makes up
to two calls of `auth`, each with one answer: a signature, and the public key for the user to accept.
A call ends at the challenge it has no answer for, and hands it to the next through `last_auth`.

`expect` says what the device sees, as one function over its messages with the number of challenges
so far as its state; `createUsbConnection_eq_expect` is the refinement.
-/

namespace AdbDaemon.Transport

open Common Connections

def VERSION : UInt32 := 0x01000001

def AUTH_TYPE_SIGNATURE : UInt32 := 2

def AUTH_TYPE_PUBLICKEY : UInt32 := 3

def CONN_STR : String :=
  "host::features=shell_v2,cmd,stat_v2,ls_v2,fixed_push_mkdir,apex,abb," ++
  "fixed_push_symlink_timestamp,abb_exec,remount_shell,track_app,sendrecv_v2,sendrecv_v2_brotli," ++
  "sendrecv_v2_lz4,sendrecv_v2_zstd,sendrecv_v2_dry_run_send,openscreen_mdns," ++
  "devicetracker_proto_format,delayed_ack"

/-- `RsaPrivateKey`, by its public key and its PKCS #1 signature of a digest; a text is the error of
the signature. -/
structure RsaPrivateKey where
  publicKey : RsaPublicKey
  sign : List UInt8 → Except String (List UInt8)

/-- The key of `auth`, which may be one the device knows or a new one. -/
inductive AuthMode where
  | new (key : RsaPrivateKey)
  | existing (key : RsaPrivateKey)

/-- How a call of `auth` ends. -/
inductive AuthEnd where
  | transport (backend : TransportBackend) (banner : Banner)
  /-- The challenge without an answer, which stays in `last_auth`. -/
  | rejected (lastAuth : AdbMessage)
  | failed (fault : Fault)
  /-- It waits for a message. -/
  | waiting

section
variable (inv : ModInverse) (engine : Base64.Engine)

/-- The message that answers the challenge `msg`. -/
def answer (msg : AdbMessage) : AuthMode → Except Fault AdbMessage
  | .existing key =>
    match key.sign msg.payload with
    | .error err => .error (.error (.text .sign err))
    | .ok signature => .ok (AdbMessage.new .AUTH AUTH_TYPE_SIGNATURE 0 signature)
  | .new key =>
    match encodePublicKey inv engine key.publicKey with
    | .error fault => .error fault
    | .ok text => .ok (AdbMessage.new .AUTH AUTH_TYPE_PUBLICKEY 0 (toBytes text))

-- `conn` is the connection that `handle_cnxn` gets, `write` the outcome of writing a message
variable (conn : UsbConnection) (write : AdbMessage → Except Error Unit)

/-- The loop of `auth` over what its reads give, with the messages it writes and the reads that it
leaves. -/
def authLoop : Option AuthMode → List (Except Error AdbMessage) →
    AuthEnd × List AdbMessage × List (Except Error AdbMessage)
  | _, [] => (.waiting, [], [])
  | _, .error err :: reads => (.failed (.error err), [], reads)
  | key, .ok msg :: reads =>
    match msg.header.command with
    | .AUTH =>
      match key with
      -- the key was used by an earlier challenge; this one is kept in `last_auth`
      | none => (.rejected msg, [], reads)
      | some mode =>
        match answer inv engine msg mode with
        | .error fault => (.failed fault, [], reads)
        | .ok reply =>
          match write reply with
          | .error err => (.failed (.error err), [], reads)
          | .ok () =>
            let (res, sent, reads) := authLoop none reads
            (res, reply :: sent, reads)
    | .CNXN =>
      match handleCnxn conn msg with
      | .error err => (.failed (.error err), [], reads)
      | .ok (backend, banner) => (.transport backend banner, [], reads)
    -- any other message is read and dropped
    | _ => authLoop key reads

/-- `AuthTransport::auth`, for a transport with this `last_auth`. -/
def auth (lastAuth : Option AdbMessage) (mode : AuthMode) (reads : List (Except Error AdbMessage)) :
    AuthEnd × List AdbMessage × List (Except Error AdbMessage) :=
  authLoop inv engine conn write (some mode) (lastAuth.toList.map .ok ++ reads)

/-- How the handshake of `create_usb_connection` ends. -/
inductive HandshakeEnd where
  | transport (backend : TransportBackend) (banner : Banner)
  /-- The second call of `auth` came to a challenge that it has no answer for. -/
  | keyRejected
  | failed (fault : Fault)
  | waiting

/-- The message of `AuthTransport::new`. -/
def cnxn : AdbMessage := AdbMessage.new .CNXN VERSION MAX_PAYLOAD (toBytes CONN_STR)

/-- What follows the second call of `auth`. -/
def offered : AuthEnd × List AdbMessage × List (Except Error AdbMessage) →
    HandshakeEnd × List AdbMessage
  | (.transport backend banner, sent, _) => (.transport backend banner, sent)
  | (.rejected _, sent, _) => (.keyRejected, sent)
  | (.failed fault, sent, _) => (.failed fault, sent)
  | (.waiting, sent, _) => (.waiting, sent)

/-- What follows the first call of `auth`: the second, if the signature was rejected. -/
def authenticated (privkey : RsaPrivateKey) :
    AuthEnd × List AdbMessage × List (Except Error AdbMessage) → HandshakeEnd × List AdbMessage
  | (.transport backend banner, sent, _) => (.transport backend banner, sent)
  | (.rejected lastAuth, sent, reads) =>
    let (res, more) := offered (auth inv engine conn write (some lastAuth) (.new privkey) reads)
    (res, sent ++ more)
  | (.failed fault, sent, _) => (.failed fault, sent)
  | (.waiting, sent, _) => (.waiting, sent)

/-- The handshake of `create_usb_connection`: how it ends and the messages it writes. -/
def createUsbConnection (privkey : RsaPrivateKey) (reads : List (Except Error AdbMessage)) :
    HandshakeEnd × List AdbMessage :=
  match write cnxn with
  | .error err => (.failed (.error err), [])
  | .ok () =>
    let (res, sent) := authenticated inv engine conn write privkey
      (auth inv engine conn write none (.existing privkey) reads)
    (res, cnxn :: sent)

end

/-! ## What the device sees -/

/-- A challenge. -/
def AdbMessage.isAuth (msg : AdbMessage) : Bool := msg.header.command == .AUTH

/-- The answer of a device that trusts the key. -/
def AdbMessage.isCnxn (msg : AdbMessage) : Bool := msg.header.command == .CNXN

section
variable (conn : UsbConnection) (signature : List UInt8 → List UInt8) (text : String)

/-- The answer to a challenge, by the number of challenges before it. -/
def reply (n : Nat) (msg : AdbMessage) : Option AdbMessage :=
  match n with
  | 0 => some (AdbMessage.new .AUTH AUTH_TYPE_SIGNATURE 0 (signature msg.payload))
  | 1 => some (AdbMessage.new .AUTH AUTH_TYPE_PUBLICKEY 0 (toBytes text))
  | _ => none

/-- The handshake as one function of the messages of the device, of which `n` challenges came
before. -/
def expect : Nat → List AdbMessage → HandshakeEnd × List AdbMessage
  | _, [] => (.waiting, [])
  | n, msg :: msgs =>
    match msg.header.command with
    | .AUTH =>
      match reply signature text n msg with
      | none => (.keyRejected, [])
      | some answer => ((expect (n + 1) msgs).1, answer :: (expect (n + 1) msgs).2)
    | .CNXN =>
      match handleCnxn conn msg with
      | .error err => (.failed (.error err), [])
      | .ok (backend, banner) => (.transport backend banner, [])
    | _ => expect n msgs

end

section
variable {inv : ModInverse} {engine : Base64.Engine} {conn : UsbConnection}
  {write : AdbMessage → Except Error Unit} {privkey : RsaPrivateKey}
  {signature : List UInt8 → List UInt8} {text : String}

/-- The loop at a challenge that it answers. -/
theorem authLoop_answer {mode : AuthMode} {msg answer : AdbMessage}
    {reads : List (Except Error AdbMessage)} (hcommand : msg.header.command = .AUTH)
    (hanswer : Transport.answer inv engine msg mode = .ok answer) (hwrite : write answer = .ok ()) :
    authLoop inv engine conn write (some mode) (.ok msg :: reads) =
      ((authLoop inv engine conn write none reads).1,
        answer :: (authLoop inv engine conn write none reads).2.1,
        (authLoop inv engine conn write none reads).2.2) := by
  simp only [authLoop, hcommand, hanswer, hwrite]

/-- A message that was sent before the end is sent by the whole. -/
theorem offered_cons (res : AuthEnd) (msg : AdbMessage) (sent : List AdbMessage)
    (reads : List (Except Error AdbMessage)) :
    offered (res, msg :: sent, reads) =
      ((offered (res, sent, reads)).1, msg :: (offered (res, sent, reads)).2) := by
  cases res <;> rfl

/-- A message that was sent before the second call is sent by the whole. -/
theorem authenticated_cons (res : AuthEnd) (msg : AdbMessage) (sent : List AdbMessage)
    (reads : List (Except Error AdbMessage)) :
    authenticated inv engine conn write privkey (res, msg :: sent, reads) =
      ((authenticated inv engine conn write privkey (res, sent, reads)).1,
        msg :: (authenticated inv engine conn write privkey (res, sent, reads)).2) := by
  cases res <;> rfl

/-- The second call, once its answer is sent. -/
theorem offered_eq_expect (signature : List UInt8 → List UInt8) (text : String) (msgs : List AdbMessage) :
    offered (authLoop inv engine conn write none (msgs.map .ok)) =
      expect conn signature text 2 msgs := by
  -- both keys are spent: the loop only looks for the end of the handshake
  induction msgs with
  | nil => rfl
  | cons msg msgs ih =>
    rw [List.map_cons, authLoop, expect]
    cases msg.header.command
    case AUTH => rfl
    case CNXN => cases handleCnxn conn msg <;> rfl
    all_goals exact ih

variable (hwrite : ∀ msg, write msg = .ok ())
  (hkey : encodePublicKey inv engine privkey.publicKey = .ok text)
include hwrite hkey

/-- The first call once its answer is sent, and the second: the challenge that ends the one is
answered by the other. -/
theorem authenticated_eq_expect (signature : List UInt8 → List UInt8) (msgs : List AdbMessage) :
    authenticated inv engine conn write privkey
        (authLoop inv engine conn write none (msgs.map .ok)) =
      expect conn signature text 1 msgs := by
  induction msgs with
  | nil => rfl
  | cons msg msgs ih =>
    rw [List.map_cons, authLoop, expect]
    cases hcommand : msg.header.command
    case AUTH =>
      have hanswer : answer inv engine msg (.new privkey) =
          .ok (AdbMessage.new .AUTH AUTH_TYPE_PUBLICKEY 0 (toBytes text)) := by
        rw [answer, hkey]
      simp only [authenticated, auth, Option.toList, List.map_cons, List.map_nil,
        List.singleton_append, authLoop_answer hcommand hanswer (hwrite _), offered_cons,
        Prod.mk.eta, offered_eq_expect signature text, List.nil_append]
      rfl
    case CNXN => cases handleCnxn conn msg <;> rfl
    all_goals exact ih

/-- The two calls are `expect` from the first challenge on: the first of them answers it with a
signature, the second goes on from there with the key. -/
theorem auth_eq_expect {msgs : List AdbMessage}
    (hsign : ∀ msg, msgs.find? (fun m => m.isAuth || m.isCnxn) = some msg → msg.isAuth = true →
      privkey.sign msg.payload = .ok (signature msg.payload)) :
    authenticated inv engine conn write privkey
        (auth inv engine conn write none (.existing privkey) (msgs.map .ok)) =
      expect conn signature text 0 msgs := by
  rw [auth]
  simp only [Option.toList, List.map_nil, List.nil_append]
  -- over the messages in front of the first challenge, where the loop still has the signature
  induction msgs with
  | nil => rfl
  | cons msg msgs ih =>
    rw [List.map_cons, expect]
    cases hcommand : msg.header.command
    case AUTH =>
      have hauth : msg.isAuth = true := by
        rw [AdbMessage.isAuth, hcommand]
        rfl
      have hanswer : answer inv engine msg (.existing privkey) =
          .ok (AdbMessage.new .AUTH AUTH_TYPE_SIGNATURE 0 (signature msg.payload)) := by
        rw [answer, hsign msg (List.find?_cons_of_pos (by simp [hauth])) hauth]
      rw [authLoop_answer hcommand hanswer (hwrite _), authenticated_cons]
      simp only [Prod.mk.eta, authenticated_eq_expect hwrite hkey signature]
      rfl
    case CNXN =>
      simp only [authLoop, hcommand]
      cases handleCnxn conn msg <;> rfl
    all_goals
      have hskip : (msg :: msgs).find? (fun m => m.isAuth || m.isCnxn) =
          msgs.find? (fun m => m.isAuth || m.isCnxn) :=
        List.find?_cons_of_neg (by simp [AdbMessage.isAuth, AdbMessage.isCnxn, hcommand])
      rw [authLoop, hcommand]
      exact ih fun m hm => hsign m (hskip.trans hm)

/-- The handshake is `expect`, behind the `CNXN` of the daemon. -/
theorem createUsbConnection_eq_expect {msgs : List AdbMessage}
    (hsign : ∀ msg, msgs.find? (fun m => m.isAuth || m.isCnxn) = some msg → msg.isAuth = true →
      privkey.sign msg.payload = .ok (signature msg.payload)) :
    createUsbConnection inv engine conn write privkey (msgs.map .ok) =
      ((expect conn signature text 0 msgs).1, cnxn :: (expect conn signature text 0 msgs).2) := by
  simp only [createUsbConnection, hwrite, auth_eq_expect hwrite hkey hsign]

end

/-! ## Messages of the device -/

/-- `msg` is the first `CNXN` of the device, and fewer than three challenges come before it. -/
def Concludes (n : Nat) (msgs : List AdbMessage) (msg : AdbMessage) : Prop :=
  ∃ before after, msgs = before ++ msg :: after ∧ msg.isCnxn = true ∧
    (∀ m ∈ before, m.isCnxn = false) ∧ n + before.countP AdbMessage.isAuth < 3

/-- The payload is a text that parses as a banner with the feature `delayed_ack`. -/
def HasDelayedAck (msg : AdbMessage) (banner : Banner) : Prop :=
  ∃ connStr, msg.payload = toBytes connStr ∧ bannerFromStr connStr = .ok banner ∧
    "delayed_ack" ∈ banner.features

/-- How a handshake ends at the `CNXN` that concludes it. -/
def cnxnEnd (conn : UsbConnection) (msg : AdbMessage) : HandshakeEnd :=
  match handleCnxn conn msg with
  | .error err => .failed (.error err)
  | .ok (backend, banner) => .transport backend banner

/-- The answers to challenges, of which `n` came before. -/
def answersFrom (signature : List UInt8 → List UInt8) (text : String) :
    Nat → List AdbMessage → List AdbMessage
  | _, [] => []
  | n, msg :: msgs =>
    match reply signature text n msg with
    | none => []
    | some answer => answer :: answersFrom signature text (n + 1) msgs

theorem reply_of_lt (signature : List UInt8 → List UInt8) (text : String) (msg : AdbMessage)
    {n : Nat} (hn : n < 2) : ∃ answer, reply signature text n msg = some answer := by
  match n, hn with
  | 0, _ => exact ⟨_, rfl⟩
  | 1, _ => exact ⟨_, rfl⟩

theorem lt_of_reply {signature : List UInt8 → List UInt8} {text : String} {msg answer : AdbMessage}
    {n : Nat} (h : reply signature text n msg = some answer) : n + 1 ≤ 2 := by
  unfold reply at h
  split at h
  · decide
  · decide
  · cases h

/-- The answers to the challenges of a device: one signature, one key. -/
def answers (signature : List UInt8 → List UInt8) (text : String) :
    List AdbMessage → List AdbMessage
  | [] => []
  | [msg] => [AdbMessage.new .AUTH AUTH_TYPE_SIGNATURE 0 (signature msg.payload)]
  | msg :: _ :: _ =>
    [AdbMessage.new .AUTH AUTH_TYPE_SIGNATURE 0 (signature msg.payload),
      AdbMessage.new .AUTH AUTH_TYPE_PUBLICKEY 0 (toBytes text)]

/-- A `CNXN` gives a transport exactly when its banner has `delayed_ack`. -/
theorem handleCnxn_eq_ok_iff {conn : UsbConnection} {msg : AdbMessage} {backend : TransportBackend}
    {banner : Banner} :
    handleCnxn conn msg = .ok (backend, banner) ↔
      backend = TransportBackend.new conn ∧ HasDelayedAck msg banner := by
  constructor
  · intro h
    refine ⟨handleCnxn_ok h, ?_⟩
    rw [handleCnxn] at h
    split at h
    · cases h
    rename_i connStr hutf8
    split at h
    · cases h
    rename_i banner' hbanner
    split at h
    · rename_i hfeature
      cases h
      exact ⟨connStr, fromUTF8_eq_some_iff.mp hutf8, hbanner, hfeature⟩
    · cases h
  · rintro ⟨rfl, connStr, hpayload, hbanner, hfeature⟩
    simp only [handleCnxn, fromUTF8_eq_some_iff.mpr hpayload, hbanner, if_pos hfeature]

/-- A list cut at one of its elements is cut at its first, or further on. -/
theorem exists_cut_cons {α : Type} {x y : α} {xs : List α} {P : List α → Prop} :
    (∃ before after, x :: xs = before ++ y :: after ∧ P before) ↔
      x = y ∧ P [] ∨ ∃ before after, xs = before ++ y :: after ∧ P (x :: before) := by
  constructor
  · rintro ⟨before, after, heq, hP⟩
    cases before with
    | nil =>
      cases heq
      exact .inl ⟨rfl, hP⟩
    | cons z before =>
      cases heq
      exact .inr ⟨before, after, rfl, hP⟩
  · rintro (⟨rfl, hP⟩ | ⟨before, after, rfl, hP⟩)
    · exact ⟨[], xs, rfl, hP⟩
    · exact ⟨x :: before, after, rfl, hP⟩

/-- A `CNXN` concludes the handshake, or what follows a message before it does. -/
theorem concludes_cons {n : Nat} {m msg : AdbMessage} {msgs : List AdbMessage} :
    Concludes n (m :: msgs) msg ↔
      m = msg ∧ msg.isCnxn = true ∧ n < 3 ∨
      m.isCnxn = false ∧ Concludes (if m.isAuth then n + 1 else n) msgs msg := by
  rw [Concludes, exists_cut_cons]
  refine or_congr (by simp) ?_
  constructor
  · rintro ⟨before, after, heq, hcnxn, hbefore, hcount⟩
    rw [List.countP_cons] at hcount
    refine ⟨hbefore m (by simp), before, after, heq, hcnxn, fun m' hm' => hbefore m' (by simp [hm']),
      ?_⟩
    split at hcount
    · rename_i hauth
      rw [if_pos hauth]
      omega
    · rename_i hauth
      rw [if_neg hauth]
      omega
  · rintro ⟨hm, before, after, heq, hcnxn, hbefore, hcount⟩
    refine ⟨before, after, heq, hcnxn, ?_, ?_⟩
    · intro m' hm'
      -- the first message counts as one challenge if it is an `AUTH`
      obtain rfl | hm' := List.mem_cons.mp hm'
      · exact hm
      · exact hbefore m' hm'
    · rw [List.countP_cons]
      split at hcount
      · rename_i hauth
        rw [if_pos hauth]
        omega
      · rename_i hauth
        rw [if_neg hauth]
        omega

section
variable {conn : UsbConnection} {signature : List UInt8 → List UInt8} {text : String}

/-- A challenge is answered, or ends the handshake. -/
theorem expect_cons_auth {n : Nat} {msg : AdbMessage} {msgs : List AdbMessage}
    (h : msg.isAuth = true) :
    expect conn signature text n (msg :: msgs) =
      match reply signature text n msg with
      | none => (.keyRejected, [])
      | some answer =>
        ((expect conn signature text (n + 1) msgs).1,
          answer :: (expect conn signature text (n + 1) msgs).2) := by
  have hcommand : msg.header.command = .AUTH := eq_of_beq h
  rw [expect, hcommand]

theorem expect_cons_cnxn {n : Nat} {msg : AdbMessage} {msgs : List AdbMessage}
    (h : msg.isCnxn = true) :
    expect conn signature text n (msg :: msgs) = (cnxnEnd conn msg, []) := by
  have hcommand : msg.header.command = .CNXN := eq_of_beq h
  rw [expect, hcommand, cnxnEnd]
  cases handleCnxn conn msg <;> rfl

theorem expect_cons_other {n : Nat} {msg : AdbMessage} {msgs : List AdbMessage}
    (hauth : msg.isAuth = false) (hcnxn : msg.isCnxn = false) :
    expect conn signature text n (msg :: msgs) = expect conn signature text n msgs := by
  rw [expect]
  cases hcommand : msg.header.command
  case AUTH => simp [AdbMessage.isAuth, hcommand] at hauth
  case CNXN => simp [AdbMessage.isCnxn, hcommand] at hcnxn
  all_goals rfl

/-- Messages that are neither a challenge nor a `CNXN` have no effect. -/
theorem expect_filter (n : Nat) (msgs : List AdbMessage) :
    expect conn signature text n (msgs.filter fun m => m.isAuth || m.isCnxn) =
      expect conn signature text n msgs := by
  induction msgs generalizing n with
  | nil => rfl
  | cons msg msgs ih =>
    rw [List.filter_cons]
    by_cases hauth : msg.isAuth = true
    · rw [if_pos (by simp [hauth]), expect_cons_auth hauth, expect_cons_auth hauth, ih]
    · by_cases hcnxn : msg.isCnxn = true
      · rw [if_pos (by simp [hcnxn]), expect_cons_cnxn hcnxn, expect_cons_cnxn hcnxn]
      · rw [Bool.not_eq_true] at hauth hcnxn
        rw [if_neg (by simp [hauth, hcnxn]), expect_cons_other hauth hcnxn]
        exact ih n

/-- A handshake that comes to a `CNXN` before the third challenge ends with it. -/
theorem expect_of_concludes {n : Nat} {msgs : List AdbMessage} {msg : AdbMessage}
    (h : Concludes n msgs msg) : (expect conn signature text n msgs).1 = cnxnEnd conn msg := by
  induction msgs generalizing n with
  | nil =>
    obtain ⟨before, after, heq, -⟩ := h
    simp at heq
  | cons m msgs ih =>
    obtain ⟨rfl, hcnxn, -⟩ | ⟨hcnxn, h⟩ := concludes_cons.mp h
    · rw [expect_cons_cnxn hcnxn]
    · by_cases hauth : m.isAuth = true
      · rw [if_pos hauth] at h
        -- there is an answer, since another message concludes the handshake
        have hn : n < 2 := by
          obtain ⟨before, after, -, -, -, hcount⟩ := h
          omega
        obtain ⟨answer, hanswer⟩ := reply_of_lt signature text m hn
        rw [expect_cons_auth hauth, hanswer]
        exact ih h
      · rw [if_neg hauth] at h
        rw [Bool.not_eq_true] at hauth
        rw [expect_cons_other hauth hcnxn]
        exact ih h

/-- A handshake gives a transport only at a `CNXN` that concludes it. -/
theorem concludes_of_transport {n : Nat} (hn : n ≤ 2) {msgs : List AdbMessage}
    {backend : TransportBackend} {banner : Banner}
    (h : (expect conn signature text n msgs).1 = .transport backend banner) :
    ∃ msg, Concludes n msgs msg ∧ handleCnxn conn msg = .ok (backend, banner) := by
  induction msgs generalizing n with
  | nil => cases h
  | cons m msgs ih =>
    -- the first message ends the handshake, is a challenge, or is dropped
    by_cases hcnxn : m.isCnxn = true
    · rw [expect_cons_cnxn hcnxn, cnxnEnd] at h
      refine ⟨m, concludes_cons.mpr (.inl ⟨rfl, hcnxn, by omega⟩), ?_⟩
      split at h
      · cases h
      · rename_i hok
        cases h
        exact hok
    · rw [Bool.not_eq_true] at hcnxn
      by_cases hauth : m.isAuth = true
      · rw [expect_cons_auth hauth] at h
        cases hanswer : reply signature text n m with
        | none =>
          rw [hanswer] at h
          cases h
        | some answer =>
          rw [hanswer] at h
          obtain ⟨msg, hmsg, hok⟩ := ih (lt_of_reply hanswer) h
          exact ⟨msg, concludes_cons.mpr (.inr ⟨hcnxn, by rwa [if_pos hauth]⟩), hok⟩
      · have hother : m.isAuth = false := by simpa using hauth
        rw [expect_cons_other hother hcnxn] at h
        obtain ⟨msg, hmsg, hok⟩ := ih hn h
        exact ⟨msg, concludes_cons.mpr (.inr ⟨hcnxn, by rwa [if_neg hauth]⟩), hok⟩

/-- What is sent: an answer to each of the challenges before the first `CNXN`, as long as there are
answers. -/
theorem expect_sent (n : Nat) (msgs : List AdbMessage) :
    (expect conn signature text n msgs).2 =
      answersFrom signature text n
        ((msgs.takeWhile fun m => !m.isCnxn).filter AdbMessage.isAuth) := by
  induction msgs generalizing n with
  | nil => rfl
  | cons m msgs ih =>
    by_cases hcnxn : m.isCnxn = true
    · rw [expect_cons_cnxn hcnxn, List.takeWhile_cons_of_neg (by simp [hcnxn])]
      rfl
    · rw [List.takeWhile_cons_of_pos (by simp [hcnxn])]
      by_cases hauth : m.isAuth = true
      · rw [expect_cons_auth hauth, List.filter_cons_of_pos hauth, answersFrom]
        cases reply signature text n m with
        | none => rfl
        | some answer => simp only [ih]
      · rw [List.filter_cons_of_neg hauth]
        rw [Bool.not_eq_true] at hauth hcnxn
        rw [expect_cons_other hauth hcnxn]
        exact ih n

/-- From the first challenge on there are a signature and a key to answer with. -/
theorem answersFrom_zero (msgs : List AdbMessage) :
    answersFrom signature text 0 msgs = answers signature text msgs := by
  match msgs with
  | [] => rfl
  | [_] => rfl
  | [_, _] => rfl
  | _ :: _ :: _ :: _ => rfl

end

/-- The handshake, for a key that encodes, writes that succeed and a first challenge that can be
signed: a message that is neither a challenge nor a `CNXN` has no effect; the first challenge before
the device's `CNXN` is answered with a signature of its payload, the second with the public key, and
nothing else is sent after the daemon's `CNXN`; a transport is created exactly when the device's
`CNXN` comes before its third challenge and has a banner with `delayed_ack`, and a `CNXN` without one
is an error. -/
theorem handshake_spec (inv : ModInverse) (engine : Base64.Engine) (conn : UsbConnection)
    (write : AdbMessage → Except Error Unit) (privkey : RsaPrivateKey)
    (signature : List UInt8 → List UInt8) (text : String) (msgs : List AdbMessage)
    (hwrite : ∀ msg, write msg = .ok ())
    (hkey : encodePublicKey inv engine privkey.publicKey = .ok text)
    (hsign : ∀ msg, msgs.find? (fun m => m.isAuth || m.isCnxn) = some msg → msg.isAuth = true →
      privkey.sign msg.payload = .ok (signature msg.payload)) :
    createUsbConnection inv engine conn write privkey
        ((msgs.filter fun m => m.isAuth || m.isCnxn).map .ok) =
      createUsbConnection inv engine conn write privkey (msgs.map .ok) ∧
    (createUsbConnection inv engine conn write privkey (msgs.map .ok)).2 =
      cnxn :: answers signature text
        ((msgs.takeWhile fun m => !m.isCnxn).filter AdbMessage.isAuth) ∧
    (∀ banner,
      (∃ backend, (createUsbConnection inv engine conn write privkey (msgs.map .ok)).1 =
        .transport backend banner) ↔
      ∃ msg, Concludes 0 msgs msg ∧ HasDelayedAck msg banner) ∧
    (∀ msg, Concludes 0 msgs msg → (∀ banner, ¬ HasDelayedAck msg banner) →
      ∃ err, (createUsbConnection inv engine conn write privkey (msgs.map .ok)).1 =
        .failed (.error err)) := by
  -- the first challenge is the same with the other messages left out
  have hfilter : ∀ msg, (msgs.filter fun m => m.isAuth || m.isCnxn).find?
      (fun m => m.isAuth || m.isCnxn) = some msg → msg.isAuth = true →
      privkey.sign msg.payload = .ok (signature msg.payload) := fun msg hmsg => by
    rw [List.find?_filter] at hmsg
    exact hsign msg (by simpa using hmsg)
  rw [createUsbConnection_eq_expect hwrite hkey hsign,
    createUsbConnection_eq_expect hwrite hkey hfilter]
  refine ⟨?_, ?_, ?_, ?_⟩
  · rw [expect_filter]
  · rw [expect_sent, answersFrom_zero]
  · intro banner
    constructor
    · rintro ⟨backend, h⟩
      obtain ⟨msg, hmsg, hok⟩ := concludes_of_transport (Nat.zero_le 2) h
      exact ⟨msg, hmsg, (handleCnxn_eq_ok_iff.mp hok).2⟩
    · rintro ⟨msg, hmsg, hbanner⟩
      refine ⟨TransportBackend.new conn, ?_⟩
      rw [expect_of_concludes hmsg, cnxnEnd, handleCnxn_eq_ok_iff.mpr ⟨rfl, hbanner⟩]
  · intro msg hmsg hbanner
    rw [expect_of_concludes hmsg, cnxnEnd]
    cases hcnxn : handleCnxn conn msg with
    | error err => exact ⟨err, rfl⟩
    | ok r => exact absurd (handleCnxn_eq_ok_iff.mp hcnxn).2 (hbanner r.2)

/-- The algorithm identifier of SHA-1 in front of a digest. -/
def SHA1_ASN1 : List UInt8 := [48, 33, 48, 9, 6, 5, 43, 14, 3, 2, 26, 5, 0, 4, 20]

/-- The PKCS #1 signature of a SHA-1 digest with a key of 256 bytes: the padded digest to the power
of the private exponent, most significant byte first. -/
def pkcs1v15Signature (n d : Nat) (digest : List UInt8) : List UInt8 :=
  let padded := 0 :: 1 :: List.replicate 218 0xff ++ 0 :: SHA1_ASN1 ++ digest
  ((toBytesLe (ofBytesLe padded.reverse ^ d % n)).rightpad 256 0).reverse

/-- Two primes of 1024 bits. -/
def primes : Nat × Nat := (2 ^ 1024 - 105, 3 * 2 ^ 1022 + 1037)

/-- The signature with the private exponent of these primes and the exponent 65537. -/
def productSignature : List UInt8 → List UInt8 :=
  pkcs1v15Signature (primes.1 * primes.2) ((1 + 29717 * ((primes.1 - 1) * (primes.2 - 1))) / 65537)

def productKey : RsaPrivateKey where
  publicKey := ⟨primes.1 * primes.2, 65537⟩
  sign digest :=
    if digest.length = 20 then .ok (productSignature digest) else .error "input must be hashed"

/-- A challenge with a token of one byte repeated. -/
def challenge (byte : UInt8) : AdbMessage := AdbMessage.new .AUTH 1 0 (List.replicate 20 byte)

def deviceCnxn : AdbMessage :=
  AdbMessage.new .CNXN VERSION MAX_PAYLOAD (toBytes "device::features=delayed_ack")

/-- A device that rejects the signature and accepts the key, with other messages in between. -/
def keyAccepted : List AdbMessage :=
  [challenge 1, AdbMessage.new .SYNC 1 0 [], challenge 2, AdbMessage.new .WRTE 1 1 [0], deviceCnxn]

/-- The second challenge is answered with the key, and the device's `CNXN` gives a transport. -/
theorem handshake_spec_key_accepted :
    ∃ text banner backend, encodePublicKey .euclid .standard productKey.publicKey = .ok text ∧
      (createUsbConnection .euclid .standard (UsbConnection.new 512) (fun _ => .ok ()) productKey
        (keyAccepted.map .ok)).2 =
        [cnxn, AdbMessage.new .AUTH AUTH_TYPE_SIGNATURE 0 (productSignature (List.replicate 20 1)),
          AdbMessage.new .AUTH AUTH_TYPE_PUBLICKEY 0 (toBytes text)] ∧
      (createUsbConnection .euclid .standard (UsbConnection.new 512) (fun _ => .ok ()) productKey
        (keyAccepted.map .ok)).1 = .transport backend banner := by
  have hsize : productKey.publicKey.size = ANDROID_KEY_SIZE := by decide +kernel
  obtain ⟨ninv, e, -, -, -, hkey⟩ := encodePublicKey_accepted .euclid .standard hsize
    (by decide +kernel) (by decide +kernel)
  have hdigest : ∀ msg ∈ keyAccepted, msg.isAuth = true → msg.payload.length = 20 := by decide
  obtain ⟨-, hsent, htransport, -⟩ := handshake_spec .euclid .standard (UsbConnection.new 512)
    (fun _ => .ok ()) productKey productSignature _ keyAccepted (fun _ => rfl) hkey
    fun msg hmsg hauth => if_pos (hdigest msg (List.mem_of_find?_eq_some hmsg) hauth)
  have hbanner : HasDelayedAck deviceCnxn ⟨.device, ∅, ["delayed_ack"]⟩ :=
    ⟨"device::features=delayed_ack", rfl, by rfl, by decide⟩
  have hconcludes : Concludes 0 keyAccepted deviceCnxn :=
    ⟨keyAccepted.take 4, [], rfl, rfl, by decide, by decide⟩
  obtain ⟨backend, hbackend⟩ := (htransport _).mpr ⟨deviceCnxn, hconcludes, hbanner⟩
  exact ⟨_, _, backend, hkey, hsent, hbackend⟩

end AdbDaemon.Transport

import Mathlib.Data.Nat.Digits.Defs
import AdbDaemon.SmartSocket.Session

/-!
# Replies and what a client makes of them

Reference: `src/smart_socket/mod.rs`, `handle_service` of `src/smart_socket/services.rs`,
`consume_device_selector` of `src/smart_socket/devices.rs` and `handle_forward` of `src/forward.rs`.

What a client is sent carries no tags: after a status may come another one, a text, an id or the end,
and only the request says which. `replyShape` is what a client may expect after its requests, and
`decode` reads a reply so. `Reads` is what it does in terms of frames, and every step of a session
sends frames that are expected (`SessionInv`), with one exception: a failure while devices are
tracked is put where a text is expected (`replies_decode_iff`).
-/

namespace AdbDaemon.SmartSocket

open Common Connections Forward

/-! ## What a client expects -/

/-- A part of a reply, as a client that knows its request expects it. -/
inductive Item where
  /-- `OKAY`, or `FAIL` with a text that ends the reply. -/
  | status
  | id
  | text
  /-- Any number of texts. -/
  | texts
deriving DecidableEq

/-- After a request for a forward. -/
def commandShape : ForwardCommand → List Item
  | .add left _ _ => if left = .tcp 0 then [.status, .status, .text] else [.status, .status]
  | .remove _ | .removeAll => [.status, .status]
  | .list => [.status, .text]

/-- After a service of the host. -/
def hostShape (service : String) : List Item :=
  match service with
  | "version" | "features" | "devices" | "devices-l" | "get-state" | "reconnect"
  | "reconnect-offline" => [.status, .text]
  | "is-adb-daemon-rs" | "kill" => [.status]
  | "track-devices" | "track-devices-l" => [.status, .texts]
  | "wait-for-any-device" => [.status, .status]
  | service =>
    match ForwardCommand.parse service with
    | .ok (some cmd) => commandShape cmd
    | _ => [.status]

/-- After a service; what a stream of the device carries is not part of the reply. -/
def serviceShape (service : String) : List Item :=
  match stripPrefix "host:" service with
  | none => [.status]
  | some service => hostShape service

/-- After the request for a device of a client's choice. -/
def transportShape (legacy : Bool) : List Item := .status :: if legacy then [] else [.id]

/-- After what a client has said so far; whatever it says next, a status comes first. -/
def replyShape : List String → List Item
  | [] => [.status]
  | request :: services =>
    match select .none request with
    | .malformed => [.status]
    | .service _ service => serviceShape service
    | .transport _ legacy =>
      transportShape legacy ++
        match services with
        | [] => [.status]
        | service :: _ => serviceShape service

/-! ## What a client reads -/

def ofIdBytes (bytes : List UInt8) : Nat := Nat.ofDigits 256 (bytes.map UInt8.toNat)

/-- Read a reply as far as it has come; the fuel is the number of bytes. -/
def decodeFrames : Nat → List Item → List UInt8 → Option (List Frame)
  | _, _, [] => some []
  | 0, _, _ => none
  | _, [], _ => none
  | fuel + 1, .status :: items, bytes =>
    if bytes.take 4 = toBytes "OKAY" then
      (decodeFrames fuel items (bytes.drop 4)).map fun fs => .okay :: fs
    else if bytes.take 4 = toBytes "FAIL" then
      match readProtocolString (bytes.drop 4) with
      | .ok (msg, []) => some (failFrames msg)
      | _ => none
    else none
  | fuel + 1, .id :: items, bytes =>
    if bytes.length < 8 then none
    else
      (decodeFrames fuel items (bytes.drop 8)).map fun fs => .id (ofIdBytes (bytes.take 8)) :: fs
  | fuel + 1, .text :: items, bytes =>
    match readProtocolString bytes with
    | .ok (s, bytes) => (decodeFrames fuel items bytes).map fun fs => .text s :: fs
    | .error _ => none
  | fuel + 1, .texts :: items, bytes =>
    match readProtocolString bytes with
    | .ok (s, bytes) => (decodeFrames fuel (.texts :: items) bytes).map fun fs => .text s :: fs
    | .error _ => none

/-- The frames that a client reads, for the items it expects. -/
def decode (items : List Item) (bytes : List UInt8) : Option (List Frame) :=
  decodeFrames bytes.length items bytes

/-- The bytes of a reply. -/
def encode (fs : List Frame) : List UInt8 := fs.flatMap Frame.encode

/-- Reading frames as a reply of one shape leaves another to be expected. -/
inductive Reads : List Item → List Frame → List Item → Prop
  | nil (items : List Item) : Reads items [] items
  | okay {items rest : List Item} {fs : List Frame} (h : Reads items fs rest) :
      Reads (.status :: items) (.okay :: fs) rest
  | fail {items : List Item} (msg : String) : Reads (.status :: items) (failFrames msg) []
  | id {items rest : List Item} {fs : List Frame} (n : Nat) (h : Reads items fs rest) :
      Reads (.id :: items) (.id n :: fs) rest
  | text {items rest : List Item} {fs : List Frame} (s : String) (h : Reads items fs rest) :
      Reads (.text :: items) (.text s :: fs) rest
  | texts {items rest : List Item} {fs : List Frame} (s : String)
      (h : Reads (.texts :: items) fs rest) : Reads (.texts :: items) (.text s :: fs) rest

/-- The frame fits its place in the encoding. -/
def Frame.Fits : Frame → Prop
  | .okay | .fail => True
  | .id n => n < 2 ^ 64
  | .text s => s.utf8ByteSize < 16 ^ 4

instance : DecidablePred Frame.Fits
  | .okay | .fail => .isTrue trivial
  | .id n => inferInstanceAs (Decidable (n < 2 ^ 64))
  | .text s => inferInstanceAs (Decidable (s.utf8ByteSize < 16 ^ 4))

/-! ## Reading back what is written -/

/-- An id is sent as eight bytes. -/
theorem length_idBytes (n : Nat) : (idBytes n).length = 8 := rfl

/-- An id of 64 bits is read back. -/
theorem ofIdBytes_idBytes {n : Nat} (h : n < 2 ^ 64) : ofIdBytes (idBytes n) = n := by
  have hmod : ∀ v : Nat, (UInt8.ofNat v).toNat = v % 256 := fun v => rfl
  simp only [ofIdBytes, idBytes, List.range, List.range.loop, List.map_cons, List.map_nil, hmod,
    Nat.ofDigits_cons, Nat.ofDigits_nil, Nat.reducePow]
  omega

section
variable (fuel : Nat) (items : List Item) (bytes : List UInt8)

/-- Where nothing is left to read there are no more frames, whatever was expected. -/
theorem decodeFrames_nil : decodeFrames fuel items [] = some [] := by
  cases fuel <;> cases items <;> rfl

/-- `OKAY` is read where a status is expected. -/
theorem decodeFrames_okay :
    decodeFrames (fuel + 1) (.status :: items) (Frame.okay.encode ++ bytes) =
      (decodeFrames fuel items bytes).map fun fs => .okay :: fs := rfl

/-- An id is read where one is expected. -/
theorem decodeFrames_id {n : Nat} (hn : n < 2 ^ 64) :
    decodeFrames (fuel + 1) (.id :: items) ((Frame.id n).encode ++ bytes) =
      (decodeFrames fuel items bytes).map fun fs => .id n :: fs := by
  have hlong : ¬ (idBytes n ++ bytes).length < 8 := by simp [length_idBytes]
  have htake : (idBytes n ++ bytes).take 8 = idBytes n := rfl
  obtain ⟨b, bs, hcons⟩ : ∃ b bs, idBytes n ++ bytes = b :: bs := ⟨_, _, rfl⟩
  rw [Frame.encode, hcons, decodeFrames, ← hcons, if_neg hlong, htake, ofIdBytes_idBytes hn]
  · rfl
  · simp

theorem writeProtocolString_ne_nil (s : String) :
    ∃ b bs, writeProtocolString (toBytes s) ++ bytes = b :: bs := by
  refine List.exists_cons_of_ne_nil fun hnil => ?_
  have hlen := congrArg List.length hnil
  simp [writeProtocolString, asciiBytes, formatHex4] at hlen

/-- A text is read where one is expected. -/
theorem decodeFrames_text {s : String} (hs : s.utf8ByteSize < 16 ^ 4) :
    decodeFrames (fuel + 1) (.text :: items) ((Frame.text s).encode ++ bytes) =
      (decodeFrames fuel items bytes).map fun fs => .text s :: fs := by
  obtain ⟨b, bs, hcons⟩ := writeProtocolString_ne_nil bytes s
  rw [Frame.encode, hcons, decodeFrames, ← hcons, readProtocolString_write hs]
  simp

/-- After a text of many more of them may come. -/
theorem decodeFrames_texts {s : String} (hs : s.utf8ByteSize < 16 ^ 4) :
    decodeFrames (fuel + 1) (.texts :: items) ((Frame.text s).encode ++ bytes) =
      (decodeFrames fuel (.texts :: items) bytes).map fun fs => .text s :: fs := by
  obtain ⟨b, bs, hcons⟩ := writeProtocolString_ne_nil bytes s
  rw [Frame.encode, hcons, decodeFrames, ← hcons, readProtocolString_write hs]
  simp

/-- A failure ends the reply. -/
theorem decodeFrames_fail {msg : String} (hs : msg.utf8ByteSize < 16 ^ 4) :
    decodeFrames (fuel + 1) (.status :: items) (encode (failFrames msg)) =
      some (failFrames msg) := by
  have hread := readProtocolString_write hs []
  rw [List.append_nil] at hread
  have hcons : encode (failFrames msg) = toBytes "FAIL" ++ writeProtocolString (toBytes msg) := by
    simp [encode, failFrames, Frame.encode]
  have htake : (toBytes "FAIL" ++ writeProtocolString (toBytes msg)).take 4 = toBytes "FAIL" := rfl
  have hdrop : (toBytes "FAIL" ++ writeProtocolString (toBytes msg)).drop 4 =
      writeProtocolString (toBytes msg) := rfl
  have hne : toBytes "FAIL" ≠ toBytes "OKAY" := by decide
  obtain ⟨b, bs, hbytes⟩ : ∃ b bs, toBytes "FAIL" ++ writeProtocolString (toBytes msg) = b :: bs :=
    ⟨_, _, rfl⟩
  rw [hcons, hbytes, decodeFrames, ← hbytes, htake, hdrop, if_neg hne, if_pos rfl, hread]
  simp

end

@[simp]
theorem encode_nil : encode [] = [] := rfl

@[simp]
theorem encode_cons (f : Frame) (fs : List Frame) : encode (f :: fs) = f.encode ++ encode fs := rfl

@[simp]
theorem encode_append (fs gs : List Frame) : encode (fs ++ gs) = encode fs ++ encode gs :=
  List.flatMap_append

/-- What is read back in front of `bytes` is what was written, unless it is a failure. -/
theorem decodeFrames_encode {items rest : List Item} {fs : List Frame} (h : Reads items fs rest)
    (hfail : .fail ∉ fs) (hfits : ∀ f ∈ fs, f.Fits) (fuel : Nat) (bytes : List UInt8) :
    decodeFrames (fuel + fs.length) items (encode fs ++ bytes) =
      (decodeFrames fuel rest bytes).map fun gs => fs ++ gs := by
  -- one frame is read, and what follows it is left to `ih`
  have push : ∀ (f : Frame) (fs : List Frame) (res : Option (List Frame)),
      ((res.map fun gs => fs ++ gs).map fun gs => f :: gs) = res.map fun gs => f :: fs ++ gs :=
    fun f fs res => by cases res <;> rfl
  induction h with
  | nil items => simp
  | okay _ ih =>
    simp only [List.mem_cons, not_or, forall_eq_or_imp] at hfail hfits
    rw [encode_cons, List.append_assoc, List.length_cons, ← Nat.add_assoc, decodeFrames_okay,
      ih hfail.2 hfits.2, push]
  | fail msg => exact absurd (by simp [failFrames]) hfail
  | id n _ ih =>
    simp only [List.mem_cons, not_or, forall_eq_or_imp] at hfail hfits
    rw [encode_cons, List.append_assoc, List.length_cons, ← Nat.add_assoc,
      decodeFrames_id _ _ _ hfits.1, ih hfail.2 hfits.2, push]
  | text s _ ih =>
    simp only [List.mem_cons, not_or, forall_eq_or_imp] at hfail hfits
    rw [encode_cons, List.append_assoc, List.length_cons, ← Nat.add_assoc,
      decodeFrames_text _ _ _ hfits.1, ih hfail.2 hfits.2, push]
  | texts s _ ih =>
    simp only [List.mem_cons, not_or, forall_eq_or_imp] at hfail hfits
    rw [encode_cons, List.append_assoc, List.length_cons, ← Nat.add_assoc,
      decodeFrames_texts _ _ _ hfits.1, ih hfail.2 hfits.2, push]

/-! ## Composing replies -/

section
variable {items rest : List Item} {fs : List Frame}

/-- Two parts of a reply are read one after the other, if the first is no failure. -/
theorem Reads.trans (h : Reads items fs rest) (hfail : .fail ∉ fs) {gs : List Frame}
    {rest' : List Item} (h' : Reads rest gs rest') : Reads items (fs ++ gs) rest' := by
  induction h with
  | nil => exact h'
  | okay _ ih => exact .okay (ih (fun hm => hfail (.tail _ hm)) h')
  | fail msg => exact absurd (.head _) hfail
  | id n _ ih => exact .id n (ih (fun hm => hfail (.tail _ hm)) h')
  | text s _ ih => exact .text s (ih (fun hm => hfail (.tail _ hm)) h')
  | texts s _ ih => exact .texts s (ih (fun hm => hfail (.tail _ hm)) h')

/-- More may be expected at the end. -/
theorem Reads.append (h : Reads items fs rest) (hfail : .fail ∉ fs) (more : List Item) :
    Reads (items ++ more) fs (rest ++ more) := by
  induction h with
  | nil => exact .nil _
  | okay _ ih => exact .okay (ih fun hm => hfail (.tail _ hm))
  | fail msg => exact absurd (.head _) hfail
  | id n _ ih => exact .id n (ih fun hm => hfail (.tail _ hm))
  | text s _ ih => exact .text s (ih fun hm => hfail (.tail _ hm))
  | texts s _ ih => exact .texts s (ih fun hm => hfail (.tail _ hm))

/-- Texts without end stay expected. -/
theorem Reads.mem_texts (h : Reads items fs rest) (hfail : .fail ∉ fs) :
    .texts ∈ rest ↔ .texts ∈ items := by
  induction h with
  | nil => exact Iff.rfl
  | okay _ ih | id _ _ ih | text _ _ ih =>
    simpa using ih fun hm => hfail (.tail _ hm)
  | fail msg => exact absurd (.head _) hfail
  | texts s _ ih => exact ih fun hm => hfail (.tail _ hm)

end

/-- The frames are in order so far, and `items` are still expected. -/
structure Awaits (shape : List Item) (fs : List Frame) (items : List Item) : Prop where
  reads : Reads shape fs items
  ok : .fail ∉ fs

/-- Before anything is sent the whole reply is expected. -/
theorem Awaits.nil (items : List Item) : Awaits items [] items := ⟨.nil _, List.not_mem_nil⟩

/-- What is sent next is read as what is still expected. -/
theorem Awaits.send {shape items rest : List Item} {fs gs : List Frame} (h : Awaits shape fs items)
    (h' : Awaits items gs rest) : Awaits shape (fs ++ gs) rest :=
  ⟨h.reads.trans h.ok h'.reads, by simp [h.ok, h'.ok]⟩

/-- A longer reply begins like the shorter one. -/
theorem Awaits.append {shape items : List Item} {fs : List Frame} (h : Awaits shape fs items)
    (more : List Item) : Awaits (shape ++ more) fs (items ++ more) :=
  ⟨h.reads.append h.ok more, h.ok⟩

/-- How a session answers that is not left by its client. -/
inductive Whole (shape : List Item) (fs : List Frame) : Prop
  | closed (h : Awaits shape fs [])
  | failed {pre : List Frame} {items : List Item} {msg : String}
      (h : Awaits shape pre (.status :: items)) (hend : .texts ∉ items)
      (hfs : fs = pre ++ failFrames msg)
  /-- A failure in place of a list of devices. -/
  | untracked {pre : List Frame} {msg : String} (h : Awaits shape pre [.texts])
      (hfs : fs = pre ++ failFrames msg)

/-! ## Every step sends what is expected -/

/-- What a client still expects; once the session is over it is nothing. -/
def Goal.expects : Goal → List Item
  | .transport legacy => transportShape legacy ++ [.status]
  | .stream _ | .wait _ => [.status]
  | .features | .getState | .reconnect => [.status, .text]

/-- What is still to be sent in a stage. -/
def SessionStage.expects : SessionStage → List Item
  | .request | .second | .replaying _ | .opening | .waiting _ => [.status]
  | .picking goal | .upgrading goal => goal.expects
  | .listing _ true | .tracking _ => [.texts]
  | .listing _ false => [.status, .text]
  | .forwarding cmd => commandShape cmd
  | .relaying | .ended | .exited => []

/-- The client has asked for a device of its choice. -/
def Chosen (reqs : List String) (legacy : Bool) : Prop :=
  ∃ request device, reqs = [request] ∧ select .none request = .transport device legacy

/-- Where a session is, after what the client has said and was sent. -/
def SessionLaw (reqs : List String) (fs : List Frame) (s : Session) : Prop :=
  match s.stage with
  | .request => reqs = [] ∧ fs = [] ∧ s.device = .none
  | .picking (.transport legacy) => Chosen reqs legacy ∧ fs = []
  | .second => ∃ legacy, Chosen reqs legacy ∧ Awaits (transportShape legacy) fs []
  | .ended => Whole (replyShape reqs) fs ∨ ∃ items, Awaits (replyShape reqs) fs items
  | stage => Awaits (replyShape reqs) fs stage.expects

/-- A session keeps its law with what it sends, and a last answer makes the reply whole. -/
structure Keeps (reqs : List String) (fs : List Frame) (n : Session × List Frame) : Prop where
  law : SessionLaw reqs (fs ++ n.2) n.1
  whole : n.1.stage.expects = [] → n.2 ≠ [] → Whole (replyShape reqs) (fs ++ n.2)

section
variable {reqs : List String} {fs : List Frame} {s : Session}

/-- A list of devices is expected alone, and otherwise a status comes first. -/
theorem commandShape_cons (cmd : ForwardCommand) :
    ∃ items, commandShape cmd = .status :: items ∧ .texts ∉ items := by
  cases cmd with
  | add left right norebind => by_cases hleft : left = .tcp 0 <;> simp [commandShape, hleft]
  | remove | removeAll | list => simp [commandShape]

/-- Whatever a connection is picked for, a status comes first. -/
theorem Goal.expects_cons (goal : Goal) :
    ∃ items, goal.expects = .status :: items ∧ .texts ∉ items := by
  cases goal with
  | transport legacy => cases legacy <;> simp [Goal.expects, transportShape]
  | _ => simp [Goal.expects]

/-- A stage expects lists of devices, or a status first. -/
theorem SessionStage.expects_cases {stage : SessionStage} (h : stage.expects ≠ []) :
    stage.expects = [.texts] ∨ ∃ items, stage.expects = .status :: items ∧ .texts ∉ items := by
  cases stage with
  | picking goal | upgrading goal => exact .inr goal.expects_cons
  | forwarding cmd => exact .inr (commandShape_cons cmd)
  | listing long tracking => cases tracking <;> simp [expects]
  | tracking => exact .inl rfl
  | relaying | ended | exited => exact absurd rfl h
  | _ => exact .inr ⟨[], rfl, List.not_mem_nil⟩

/-- After the choice of a device a status is expected, of the service to come. -/
theorem replyShape_chosen {legacy : Bool} (h : Chosen reqs legacy) :
    replyShape reqs = transportShape legacy ++ [.status] := by
  obtain ⟨request, device, rfl, hsel⟩ := h
  simp only [replyShape, hsel]

/-- In every stage the frames so far are in order. -/
theorem SessionLaw.awaits (h : SessionLaw reqs fs s) (hlive : s.stage ≠ .ended) :
    Awaits (replyShape reqs) fs s.stage.expects := by
  obtain ⟨device, stage⟩ := s
  match stage with
  | .request =>
    obtain ⟨rfl, rfl, -⟩ := h
    exact .nil _
  | .picking (.transport legacy) =>
    obtain ⟨hchosen, rfl⟩ := h
    rw [replyShape_chosen hchosen]
    exact .nil _
  | .second =>
    obtain ⟨legacy, hchosen, hawaits⟩ := h
    rw [replyShape_chosen hchosen]
    exact hawaits.append _
  | .ended => exact absurd rfl hlive
  | .picking (.stream _) | .picking .features | .picking .getState | .picking .reconnect
  | .picking (.wait _) | .replaying _ | .upgrading _ | .opening | .listing _ _ | .tracking _
  | .waiting _ | .forwarding _ | .relaying | .exited => exact h

/-- With a whole reply a session may end. -/
theorem Whole.keeps {device : DeviceSelector} {gs : List Frame}
    (h : Whole (replyShape reqs) (fs ++ gs)) : Keeps reqs fs (⟨device, .ended⟩, gs) :=
  ⟨.inl h, fun _ _ => h⟩

/-- A failure may stand for every status. -/
theorem keeps_failed {items : List Item} (h : Awaits (replyShape reqs) fs (.status :: items))
    (hend : .texts ∉ items) (msg : String) : Keeps reqs fs (s.fail msg) :=
  Whole.keeps (.failed h hend rfl)

/-- A failure can be answered in every stage that expects something. -/
theorem keeps_fail (h : Awaits (replyShape reqs) fs s.stage.expects) (hne : s.stage.expects ≠ [])
    (msg : String) : Keeps reqs fs (s.fail msg) := by
  obtain hexp | ⟨items, hexp, hend⟩ := SessionStage.expects_cases hne
  · rw [hexp] at h
    exact Whole.keeps (.untracked h rfl)
  · rw [hexp] at h
    exact keeps_failed h hend msg

/-- The end of a session with a reply as it should be. -/
theorem keeps_ended {items : List Item} {gs : List Frame} {device : DeviceSelector}
    (h : Awaits (replyShape reqs) fs items) (hreads : Reads items gs []) (hok : .fail ∉ gs) :
    Keeps reqs fs (⟨device, .ended⟩, gs) :=
  Whole.keeps (.closed (h.send ⟨hreads, hok⟩))

/-- A session that goes on without an answer, or is left by its client. -/
theorem keeps_silent {stage : SessionStage} {device : DeviceSelector}
    (h : SessionLaw reqs fs ⟨device, stage⟩) : Keeps reqs fs (⟨device, stage⟩, []) :=
  ⟨by rwa [List.append_nil], fun _ hne => absurd rfl hne⟩

/-- A session that is left by its client ends without an answer. -/
theorem keeps_left {items : List Item} {device : DeviceSelector}
    (h : Awaits (replyShape reqs) fs items) : Keeps reqs fs (⟨device, .ended⟩, []) :=
  keeps_silent (.inr ⟨items, h⟩)

/-- A string that is not read is answered by a failure, unless the client's stream has ended. -/
theorem keeps_readFailed (h : Awaits (replyShape reqs) fs s.stage.expects)
    (hne : s.stage.expects ≠ []) (err : ReadError) : Keeps reqs fs (s.readFailed err) := by
  cases err with
  | unexpectedEof => exact keeps_left h
  | _ => exact keeps_fail h hne _

/-- An answer after which more is to come. -/
theorem keeps_going {items : List Item} {gs : List Frame} {n : Session}
    (h : Awaits (replyShape reqs) fs items) (hreads : Awaits items gs n.stage.expects)
    (hlaw : Awaits (replyShape reqs) (fs ++ gs) n.stage.expects → SessionLaw reqs (fs ++ gs) n)
    (hne : n.stage.expects ≠ []) : Keeps reqs fs (n, gs) :=
  ⟨hlaw (h.send hreads), fun hnil => absurd hnil hne⟩

/-- Each service of the host begins its reply as its shape says. -/
theorem keeps_hostService {service : String} (h : Awaits (replyShape reqs) fs (hostShape service)) :
    Keeps reqs fs (s.hostService service) := by
  unfold Session.hostService
  split
  -- the services that are answered at once
  case h_1 | h_12 => exact keeps_ended h (.okay (.text _ (.nil _))) (by simp [okayFrames])
  case h_2 => exact keeps_ended h (.okay (.nil _)) (by simp)
  case h_3 =>
    have hwhole := h.send ⟨.okay (.nil _), by simp⟩
    exact ⟨hwhole, fun _ _ => .closed hwhole⟩
  -- those that need a connection, or the table
  case h_4 | h_5 | h_6 | h_9 | h_11 => exact keeps_silent h
  -- those that begin with `OKAY`
  case h_7 | h_8 | h_10 => exact keeps_going h ⟨.okay (.nil _), by simp⟩ id (List.cons_ne_nil _ _)
  case h_13 =>
    simp only [hostShape] at h
    split
    · rename_i report hparse
      simp only [hparse] at h
      exact keeps_failed h List.not_mem_nil _
    · rename_i hparse
      simp only [hparse] at h
      exact keeps_failed h List.not_mem_nil _
    · rename_i cmd hparse
      simp only [hparse] at h
      exact keeps_silent h

/-- A service of the device begins with a status, and its stream is not part of the reply. -/
theorem keeps_service {service : String} (h : Awaits (replyShape reqs) fs (serviceShape service)) :
    Keeps reqs fs (s.service service) := by
  unfold Session.service
  cases hhost : stripPrefix "host:" service with
  | none =>
    simp only [serviceShape, hhost] at h
    exact keeps_silent h
  | some service =>
    simp only [serviceShape, hhost] at h
    exact keeps_hostService h

/-- The first string of a client. -/
theorem keeps_request (hdevice : s.device = .none) (request : String) :
    Keeps [request] [] (s.request request) := by
  unfold Session.request
  rw [hdevice]
  cases hsel : select .none request with
  | malformed =>
    have hshape : replyShape [request] = [.status] := by simp only [replyShape, hsel]
    exact keeps_failed (hshape ▸ .nil _) List.not_mem_nil _
  | transport device legacy => exact keeps_silent ⟨⟨request, device, rfl, hsel⟩, rfl⟩
  | service device service =>
    apply keeps_service
    simp only [replyShape, hsel]
    exact .nil _

/-- The service that follows the request for a device. -/
theorem keeps_second {legacy : Bool} (hchosen : Chosen reqs legacy)
    (h : Awaits (transportShape legacy) fs []) (service : String) :
    Keeps (reqs ++ [service]) fs (s.service service) := by
  obtain ⟨request, device, rfl, hsel⟩ := hchosen
  apply keeps_service
  simp only [List.singleton_append, replyShape, hsel]
  exact h.append _

/-- What follows a pick, for each goal: a failure, an answer that ends the session, or a stage that
expects the same items as before. -/
theorem keeps_picked {goal : Goal} (h : SessionLaw reqs fs s) (hstage : s.stage = .picking goal)
    (pick : Except PickDeviceError Connection) : Keeps reqs fs (s.picked goal pick) := by
  have hawaits : Awaits (replyShape reqs) fs goal.expects := by
    have hlive := h.awaits (by simp [hstage])
    rwa [hstage] at hlive
  obtain ⟨items, hexp, hend⟩ := goal.expects_cons
  cases pick with
  | error err =>
    have hfailed : Keeps reqs fs (s.fail err.toString) :=
      keeps_failed (by rwa [hexp] at hawaits) hend _
    cases goal with
    | wait selector =>
      cases err with
      -- `wait-for` goes on waiting
      | noDevices | notFound => exact keeps_silent hawaits
      | notSelected | moreThanOne => exact hfailed
    | _ => exact hfailed
  | ok conn =>
    cases goal with
    | transport legacy =>
      simp only [SessionLaw, hstage] at h
      obtain ⟨hchosen, rfl⟩ := h
      refine ⟨⟨legacy, hchosen, ?_⟩, fun hnil => by cases hnil⟩
      cases legacy with
      | true => exact ⟨.okay (.nil _), by simp [Session.picked]⟩
      | false => exact ⟨.okay (.id _ (.nil _)), by simp [Session.picked]⟩
    | stream | features | reconnect => exact keeps_silent hawaits
    | getState => exact keeps_ended hawaits (.okay (.text _ (.nil _))) (by simp [okayFrames])
    | wait selector =>
      by_cases hdevice : conn.banner.deviceType = .device
      · simp only [Session.picked, if_pos hdevice]
        exact keeps_ended hawaits (.okay (.nil _)) (by simp)
      · simp only [Session.picked, if_neg hdevice]
        exact keeps_silent hawaits

/-- The answer of `handle_forward` to a command is the one that it asks for. -/
theorem keeps_forwarded {cmd : ForwardCommand} (h : Awaits (replyShape reqs) fs (commandShape cmd))
    {m m' : ForwardingMgr} {env : Env} {pick : Except PickDeviceError Connection} {fresh : UInt16}
    {reply : ForwardReply} (hcall : m.handleCommand env cmd pick fresh = some (m', reply))
    {n : Session × List Frame} (hn : s.forwarded reply = some n) : Keeps reqs fs n := by
  obtain ⟨items, hexp, hend⟩ := commandShape_cons cmd
  have hfailed : ∀ msg, Keeps reqs fs (s.fail msg) := fun msg =>
    keeps_failed (by rwa [hexp] at h) hend msg
  cases cmd with
  | add left right norebind =>
    simp only [ForwardingMgr.handleCommand] at hcall
    split at hcall
    · cases hcall
      cases hn
      exact hfailed _
    · rename_i port
      split at hcall
      · cases hcall
        cases hn
        exact hfailed _
      · have hcases := ForwardingMgr.add_cases hcall
        cases hcases with
        | rebind hport =>
          cases hn
          have hleft : ¬ Proto.tcp port = Proto.tcp 0 := by simpa using hport
          rw [commandShape, if_neg hleft] at h
          exact keeps_ended h (.okay (.okay (.nil _))) (by simp)
        | norebind | occupied =>
          cases hn
          exact hfailed _
        | insert =>
          cases hn
          -- only for `tcp:0` is the port sent back
          by_cases hport : port = 0
          · subst hport
            rw [commandShape, if_pos rfl] at h
            exact keeps_ended h (.okay (.okay (.text _ (.nil _)))) (by simp)
          · have hleft : ¬ Proto.tcp port = Proto.tcp 0 := by simpa using hport
            rw [commandShape, if_neg hleft] at h
            rw [if_neg hport]
            exact keeps_ended h (.okay (.okay (.nil _))) (by simp)
  | remove | removeAll =>
    cases hcall
    cases hn
    exact keeps_ended h (.okay (.okay (.nil _))) (by simp)
  | list =>
    cases hcall
    cases hn
    exact keeps_ended h (.okay (.text _ (.nil _))) (by simp [okayFrames])

/-- The steps after the requests are read: each sends a part of the reply that is expected next,
fails, or sends nothing and expects the same. -/
theorem keeps_answer {a : SessionAct} {n : Session × List Frame} (h : SessionLaw reqs fs s)
    (hn : s.answer a = some n) : Keeps reqs fs n := by
  obtain ⟨device, stage⟩ := s
  cases a with
  | read res => cases hn
  | pick found =>
    cases stage with
    | picking goal =>
      cases hn
      exact keeps_picked h rfl _
    | _ => cases hn
  | replay forwards =>
    cases stage with
    | replaying service =>
      simp only [Session.answer] at hn
      split at hn
      · cases hn
        exact keeps_failed h List.not_mem_nil _
      · cases hn
        exact keeps_silent h
    | _ => cases hn
  | upgrade banner =>
    cases stage with
    | upgrading goal =>
      cases banner with
      | none =>
        cases hn
        obtain ⟨items, hexp, hend⟩ := goal.expects_cons
        have hawaits : Awaits (replyShape reqs) fs goal.expects := h
        rw [hexp] at hawaits
        exact keeps_failed hawaits hend _
      | some banner =>
        cases goal with
        | stream service =>
          cases hn
          exact keeps_silent h
        | features | reconnect =>
          cases hn
          exact keeps_ended h (.okay (.text _ (.nil _))) (by simp [okayFrames])
        | _ => cases hn
    | _ => cases hn
  | openSocket opening =>
    cases stage with
    | opening =>
      simp only [Session.answer] at hn
      split at hn
      · cases hn
        exact keeps_failed h List.not_mem_nil _
      · cases hn
        have hwhole := h.send ⟨.okay (.nil _), by simp⟩
        exact ⟨hwhole, fun _ _ => .closed hwhole⟩
    | _ => cases hn
  | list found =>
    cases stage with
    | listing long tracking =>
      cases tracking with
      | true =>
        cases hn
        exact keeps_going h ⟨.texts _ (.nil _), by simp⟩ id (List.cons_ne_nil _ _)
      | false =>
        cases hn
        exact keeps_ended h (.okay (.text _ (.nil _))) (by simp [okayFrames])
    | _ => cases hn
  | forward mgr env found fresh =>
    cases stage with
    | forwarding cmd =>
      simp only [Session.answer] at hn
      split at hn
      · cases hn
      · rename_i hcall
        exact keeps_forwarded h hcall hn
    | _ => cases hn
  | update =>
    cases stage with
    | tracking long | waiting selector =>
      cases hn
      exact keeps_silent h
    | _ => cases hn
  | waitFailed msg =>
    cases stage with
    | tracking long =>
      cases hn
      exact Whole.keeps (.untracked h rfl)
    | waiting selector =>
      cases hn
      exact keeps_failed h List.not_mem_nil _
    | _ => cases hn
  | eof =>
    cases stage with
    | tracking long =>
      cases hn
      exact keeps_left h
    | waiting selector =>
      cases hn
      exact keeps_ended h (.okay (.nil _)) (by simp)
    | _ => cases hn
  -- the client is gone, so nothing is sent any more
  | broken =>
    have hgone : stage ≠ .ended → Keeps reqs fs (⟨device, .ended⟩, []) := fun hlive =>
      keeps_left (h.awaits hlive)
    cases stage with
    | ended | exited | relaying => cases hn
    | _ =>
      cases hn
      exact hgone (by simp)

end

@[simp]
theorem requests_append (tr : List SessionEvent) (e : SessionEvent) :
    requests (tr ++ [e]) = requests tr ++ e.received.toList := by
  cases h : e.received <;> simp [requests, h]

@[simp]
theorem frames_append (tr : List SessionEvent) (e : SessionEvent) :
    frames (tr ++ [e]) = frames tr ++ e.sent := by
  simp [frames]

/-- Every step keeps the law: what was sent so far, and what the stage still expects, are the reply
to the requests. -/
theorem SessionLaw.step {tr : List SessionEvent} {s s' : Session} {a : SessionAct} {e : SessionEvent}
    (h : SessionLaw (requests tr) (frames tr) s) (hstep : s.step a = some (s', e)) :
    Keeps (requests (tr ++ [e])) (frames tr) (s', e.sent) := by
  rw [requests_append]
  have hanswer : ∀ {n : Option (Session × List Frame)}, s.answer a = n →
      (n.map fun n => (n.1, (⟨none, n.2⟩ : SessionEvent))) = some (s', e) →
      Keeps (requests tr ++ e.received.toList) (frames tr) (s', e.sent) := by
    rintro (- | n) hn hsome
    · cases hsome
    · cases hsome
      rw [Option.toList_none, List.append_nil]
      exact keeps_answer h hn
  unfold Session.step at hstep
  split at hstep
  · -- a string is not read
    rename_i err hstage
    have hawaits := h.awaits (by simp [hstage])
    cases hstep
    rw [Option.toList_none, List.append_nil]
    exact keeps_readFailed hawaits (by simp [hstage, SessionStage.expects]) err
  · rename_i err hstage
    have hawaits := h.awaits (by simp [hstage])
    cases hstep
    rw [Option.toList_none, List.append_nil]
    exact keeps_readFailed hawaits (by simp [hstage, SessionStage.expects]) err
  · rename_i service hstage
    simp only [SessionLaw, hstage] at h
    obtain ⟨hreqs, hfs, hdevice⟩ := h
    cases hstep
    rw [hreqs, hfs]
    exact keeps_request hdevice service
  · rename_i service hstage
    simp only [SessionLaw, hstage] at h
    obtain ⟨legacy, hchosen, hawaits⟩ := h
    cases hstep
    exact keeps_second hchosen hawaits service
  · -- no other step reads a string
    exact hanswer rfl hstep

/-- The law holds in every state of every session. -/
theorem sessionLaw_of_run {tr : List SessionEvent} {s : Session}
    (h : sessionMachine.Run .new tr s) : SessionLaw (requests tr) (frames tr) s := by
  induction h with
  | nil => exact ⟨rfl, rfl, rfl⟩
  | snoc _ hstep ih =>
    rw [frames_append]
    exact (ih.step hstep).law

/-! ## What a client makes of it -/

/-- Every frame takes at least one byte, so there is fuel for all of them. -/
theorem length_le_encode (fs : List Frame) : fs.length ≤ (encode fs).length := by
  induction fs with
  | nil => exact Nat.le_refl 0
  | cons f fs ih =>
    have hf : 1 ≤ f.encode.length := by
      cases f with
      | okay | fail => decide
      | id n => exact Nat.le_of_ble_eq_true rfl
      | text s =>
        obtain ⟨b, bs, hcons⟩ := writeProtocolString_ne_nil [] s
        rw [List.append_nil] at hcons
        rw [Frame.encode, hcons]
        simp
    rw [encode_cons, List.length_append, List.length_cons]
    omega

/-- A status is no length of a text. -/
theorem readProtocolString_fail (bytes : List UInt8) (r : String × List UInt8) :
    readProtocolString (toBytes "FAIL" ++ bytes) ≠ .ok r := by
  intro h
  obtain ⟨s, rest⟩ := r
  obtain ⟨head, hfour, hlen, hbytes⟩ := readProtocolString_eq_ok_iff.mp h
  have hhead : toBytes "FAIL" = toBytes head :=
    (List.append_inj hbytes (by rw [show (toBytes head).length = 4 from hfour]; rfl)).1
  have hutf8 : fromUtf8 (toBytes "FAIL") .utf8 = .ok head := fromUtf8_eq_ok_iff.mpr hhead
  cases (fromUtf8_eq_ok_iff.mpr rfl).symm.trans hutf8
  have hbad : parseHex (2 ^ 64 - 1) "FAIL" = .error .invalidDigit := by decide
  rw [hbad] at hlen
  cases hlen

/-- A failure is not read where a text is expected. -/
theorem decodeFrames_untracked (fuel : Nat) (msg : String) :
    decodeFrames fuel [.texts] (encode (failFrames msg)) = none := by
  have hcons : encode (failFrames msg) = toBytes "FAIL" ++ writeProtocolString (toBytes msg) := by
    simp [encode, failFrames, Frame.encode]
  obtain ⟨b, bs, hbytes⟩ : ∃ b bs, toBytes "FAIL" ++ writeProtocolString (toBytes msg) = b :: bs :=
    ⟨_, _, rfl⟩
  cases fuel with
  | zero =>
    rw [hcons, hbytes]
    rfl
  | succ fuel =>
    rw [hcons, hbytes, decodeFrames, ← hbytes]
    · split
      · rename_i hread
        exact absurd hread (readProtocolString_fail _ _)
      · rfl
    · simp

section
variable {shape items : List Item} {fs : List Frame}

/-- What follows the frames so far is read as what is still expected. -/
theorem decode_awaits (h : Awaits shape fs items) (hfits : ∀ f ∈ fs, f.Fits) (gs : List Frame) :
    ∃ k, gs.length ≤ k ∧
      decode shape (encode (fs ++ gs)) =
        (decodeFrames k items (encode gs)).map fun more => fs ++ more := by
  obtain ⟨k, hk⟩ := Nat.exists_eq_add_of_le (length_le_encode (fs ++ gs))
  rw [List.length_append] at hk
  refine ⟨gs.length + k, by omega, ?_⟩
  have hfuel : (encode (fs ++ gs)).length = gs.length + k + fs.length := by omega
  rw [decode, hfuel, encode_append, decodeFrames_encode h.reads h.ok hfits]

/-- A reply without a failure is read back as far as it has come. -/
theorem Awaits.decode (h : Awaits shape fs items) (hfits : ∀ f ∈ fs, f.Fits) :
    decode shape (encode fs) = some fs := by
  obtain ⟨k, -, hdecode⟩ := decode_awaits h hfits []
  rw [List.append_nil, encode_nil, decodeFrames_nil] at hdecode
  rw [hdecode]
  simp

/-- A whole reply is read back, unless it is a failure in place of a list. -/
theorem Whole.decode_iff (h : Whole shape fs) (hfits : ∀ f ∈ fs, f.Fits) :
    SmartSocket.decode shape (encode fs) = some fs ↔ ¬(.texts ∈ shape ∧ .fail ∈ fs) := by
  cases h with
  | closed h => simp [h.decode hfits, h.ok]
  | @failed pre items msg h hend hfs =>
    subst hfs
    have hpre : ∀ f ∈ pre, f.Fits := fun f hf => hfits f (List.mem_append_left _ hf)
    have hmsg : (Frame.text msg).Fits := hfits _ (by simp [failFrames])
    obtain ⟨k, hk, hdecode⟩ := decode_awaits h hpre (failFrames msg)
    obtain ⟨k, rfl⟩ : ∃ j, k = j + 1 := Nat.exists_eq_succ_of_ne_zero (by
      have htwo : (failFrames msg).length = 2 := rfl
      omega)
    have hshape : .texts ∉ shape := by
      rw [← h.reads.mem_texts h.ok]
      simpa using hend
    rw [hdecode, decodeFrames_fail _ _ hmsg]
    simp [hshape]
  | @untracked pre msg h hfs =>
    subst hfs
    have hpre : ∀ f ∈ pre, f.Fits := fun f hf => hfits f (List.mem_append_left _ hf)
    obtain ⟨k, hk, hdecode⟩ := decode_awaits h hpre (failFrames msg)
    have hshape : .texts ∈ shape := (h.reads.mem_texts h.ok).mp (by simp)
    rw [hdecode, decodeFrames_untracked]
    simp [hshape, failFrames]

end

/-- At every moment a client that knows its requests reads back exactly what it was sent, unless its
session has failed while it was tracking devices. -/
theorem replies_decode_iff {tr : List SessionEvent} {s : Session}
    (h : sessionMachine.Run .new tr s) (hfits : ∀ f ∈ frames tr, f.Fits) :
    decode (replyShape (requests tr)) (encode (frames tr)) = some (frames tr) ↔
      ¬(.texts ∈ replyShape (requests tr) ∧ .fail ∈ frames tr) := by
  have hlaw := sessionLaw_of_run h
  have hawaits : ∀ {items}, Awaits (replyShape (requests tr)) (frames tr) items →
      (decode (replyShape (requests tr)) (encode (frames tr)) = some (frames tr) ↔
        ¬(.texts ∈ replyShape (requests tr) ∧ .fail ∈ frames tr)) := fun hawaits => by
    simp [hawaits.decode hfits, hawaits.ok]
  by_cases hlive : s.stage = .ended
  · simp only [SessionLaw, hlive] at hlaw
    obtain hwhole | ⟨items, hlaw⟩ := hlaw
    · exact hwhole.decode_iff hfits
    · exact hawaits hlaw
  · exact hawaits (hlaw.awaits hlive)

/-- A client that tracks devices and says something is answered in the middle of its lists. -/
def nudgedTracker : List SessionAct :=
  [.read (.ok "host:track-devices"), .list [], .waitFailed "should not read anything"]

def nudgedTrackerTrace : List SessionEvent :=
  [⟨some "host:track-devices", [.okay]⟩, ⟨none, [.text ""]⟩,
    ⟨none, failFrames "should not read anything"⟩]

/-- The session is one of the machine. -/
theorem exists_run_nudgedTracker : ∃ s, sessionMachine.Run .new nudgedTrackerTrace s := by
  refine ⟨⟨.any, .ended⟩, Machine.run_of_exec nudgedTracker ?_⟩
  rfl

/-- Its client does not read back what it was sent. -/
theorem replies_decode_iff_nudgedTracker :
    decode (replyShape (requests nudgedTrackerTrace)) (encode (frames nudgedTrackerTrace)) ≠
      some (frames nudgedTrackerTrace) := by
  obtain ⟨s, hrun⟩ := exists_run_nudgedTracker
  have hfits : ∀ f ∈ frames nudgedTrackerTrace, f.Fits := by decide
  rw [Ne, replies_decode_iff hrun hfits, not_not]
  decide

/-! ## How a session ends -/

/-- The client has gone: a write to it fails, or its stream is read to the end. -/
def SessionAct.departs : SessionAct → Bool
  | .read (.error .unexpectedEof) | .eof | .broken => true
  | _ => false

/-- A session that is over has told its client so. -/
def Speaks (n : Session × List Frame) : Prop := n.1.stage.expects = [] → n.2 ≠ []

/-- As long as something is expected, the session is not over. -/
theorem Speaks.of_live {n : Session × List Frame} (h : n.1.stage.expects ≠ []) : Speaks n :=
  fun hover => absurd hover h

/-- A step that sends something tells the client so. -/
theorem Speaks.of_sent {n : Session × List Frame} {f : Frame} {fs : List Frame}
    (h : n.2 = f :: fs) : Speaks n := fun _ hnil => List.cons_ne_nil f fs (h.symm.trans hnil)

section
variable (s : Session)

theorem Session.fail_speaks (msg : String) : Speaks (s.fail msg) := .of_sent rfl

/-- Every command is answered by a status at least. -/
theorem forwarding_live (cmd : ForwardCommand) : (SessionStage.forwarding cmd).expects ≠ [] := by
  obtain ⟨items, hexp, -⟩ := commandShape_cons cmd
  rw [SessionStage.expects, hexp]
  exact List.cons_ne_nil _ _

/-- No service of the host hangs up on a client without a word. -/
theorem Session.hostService_speaks (service : String) : Speaks (s.hostService service) := by
  unfold Session.hostService
  split
  -- answered at once
  case h_1 | h_2 | h_3 | h_12 => exact .of_sent rfl
  -- the stage that follows has its own answer
  case h_4 | h_5 | h_6 | h_7 | h_8 | h_9 | h_10 | h_11 => exact .of_live (List.cons_ne_nil _ _)
  case h_13 =>
    split
    · exact s.fail_speaks _
    · exact s.fail_speaks _
    · exact .of_live (forwarding_live _)

/-- No service hangs up without a word. -/
theorem Session.service_speaks (service : String) : Speaks (s.service service) := by
  unfold Session.service
  cases stripPrefix "host:" service with
  | none => exact .of_live (List.cons_ne_nil _ _)
  | some service => exact s.hostService_speaks service

/-- No request is left without an answer or a stage that gives one. -/
theorem Session.request_speaks (service : String) : Speaks (s.request service) := by
  unfold Session.request
  cases select s.device service with
  | malformed => exact s.fail_speaks _
  | transport device legacy => exact .of_live (List.cons_ne_nil _ _)
  | service device service => exact Session.service_speaks _ service

/-- What follows a pick answers, or goes on to where it is answered. -/
theorem Session.picked_speaks (goal : Goal) (pick : Except PickDeviceError Connection) :
    Speaks (s.picked goal pick) := by
  cases pick with
  | error err =>
    cases goal with
    | wait selector =>
      cases err with
      | noDevices | notFound => exact .of_live (List.cons_ne_nil _ _)
      | notSelected | moreThanOne => exact s.fail_speaks _
    | _ => exact s.fail_speaks _
  | ok conn =>
    cases goal with
    | transport | getState => exact .of_sent rfl
    | stream | features | reconnect => exact .of_live (List.cons_ne_nil _ _)
    | wait selector =>
      by_cases hdevice : conn.banner.deviceType = .device
      · simp only [Session.picked, if_pos hdevice]
        exact .of_sent rfl
      · simp only [Session.picked, if_neg hdevice]
        exact .of_live (List.cons_ne_nil _ _)

theorem Session.forwarded_speaks {reply : ForwardReply} {n : Session × List Frame}
    (h : s.forwarded reply = some n) : Speaks n := by
  cases reply with
  | notHandled => cases h
  | okay allocated =>
    cases h
    exact .of_sent rfl
  | listed text =>
    cases h
    exact .of_sent rfl
  | failed report =>
    cases h
    exact s.fail_speaks _

/-- A step after the requests: the tracking of devices ends in silence at the client's own end, and
every other stage when a write fails. -/
theorem Session.answer_speaks {a : SessionAct} {n : Session × List Frame}
    (h : s.answer a = some n) : Speaks n ∨ a.departs = true := by
  obtain ⟨device, stage⟩ := s
  cases a with
  | read res => cases h
  -- the two steps in which the client has left
  | eof | broken => exact .inr rfl
  | pick found =>
    cases stage with
    | picking goal =>
      cases h
      exact .inl (Session.picked_speaks _ goal _)
    | _ => cases h
  | replay forwards =>
    cases stage with
    | replaying service =>
      simp only [Session.answer] at h
      split at h
      · cases h
        exact .inl (Session.fail_speaks _ _)
      · cases h
        exact .inl (.of_live (List.cons_ne_nil _ _))
    | _ => cases h
  | upgrade banner =>
    cases stage with
    | upgrading goal =>
      cases banner with
      | none =>
        cases h
        exact .inl (Session.fail_speaks _ _)
      | some banner =>
        cases goal with
        | stream service =>
          cases h
          exact .inl (.of_live (List.cons_ne_nil _ _))
        | features | reconnect =>
          cases h
          exact .inl (.of_sent rfl)
        | _ => cases h
    | _ => cases h
  | openSocket opening =>
    cases stage with
    | opening =>
      simp only [Session.answer] at h
      split at h
      · cases h
        exact .inl (Session.fail_speaks _ _)
      · cases h
        exact .inl (.of_sent rfl)
    | _ => cases h
  | list found =>
    cases stage with
    | listing long tracking =>
      cases tracking <;> cases h <;> exact .inl (.of_sent rfl)
    | _ => cases h
  | forward mgr env found fresh =>
    cases stage with
    | forwarding cmd =>
      simp only [Session.answer] at h
      split at h
      · cases h
      · exact .inl (Session.forwarded_speaks _ h)
    | _ => cases h
  | update =>
    cases stage with
    | tracking long | waiting selector =>
      cases h
      exact .inl (.of_live (List.cons_ne_nil _ _))
    | _ => cases h
  | waitFailed msg =>
    cases stage with
    | tracking long | waiting selector =>
      cases h
      exact .inl (Session.fail_speaks _ _)
    | _ => cases h

end

/-- A step that ends a session without a word is the departure of the client. -/
theorem Session.departs_of_silent {s s' : Session} {a : SessionAct} {e : SessionEvent}
    (hstep : s.step a = some (s', e)) (hover : s'.stage.expects = []) (hsent : e.sent = []) :
    a.departs = true := by
  -- of the errors of a read only the early end is not answered
  have hread : ∀ err : ReadError, (s.readFailed err).2 = [] →
      (SessionAct.read (.error err)).departs = true := fun err hnil => by
    cases err with
    | unexpectedEof => rfl
    | _ => cases hnil
  unfold Session.step at hstep
  split at hstep
  · cases hstep
    exact hread _ hsent
  · cases hstep
    exact hread _ hsent
  · cases hstep
    exact absurd hsent (s.request_speaks _ hover)
  · cases hstep
    exact absurd hsent (s.service_speaks _ hover)
  · obtain ⟨n, hanswer, hn⟩ := Option.map_eq_some_iff.mp hstep
    cases hn
    exact (s.answer_speaks hanswer).resolve_left fun hspeaks => hspeaks hover hsent

/-- The last answer to a client makes its reply whole, and a session that ends without an answer is
left by its client. -/
theorem reply_whole {tr : List SessionEvent} {s s' : Session} {a : SessionAct} {e : SessionEvent}
    (h : sessionMachine.Run .new tr s) (hstep : sessionMachine.step s a = some (s', e))
    (hover : s'.stage = .ended ∨ s'.stage = .relaying ∨ s'.stage = .exited) :
    (e.sent ≠ [] → Reads (replyShape (requests (tr ++ [e]))) (frames (tr ++ [e])) [] ∨
      .texts ∈ replyShape (requests (tr ++ [e])) ∧ .fail ∈ frames (tr ++ [e])) ∧
    (e.sent = [] → a.departs = true) := by
  have hkeeps := (sessionLaw_of_run h).step hstep
  have hexp : s'.stage.expects = [] := by
    obtain hover | hover | hover := hover <;> rw [hover] <;> rfl
  refine ⟨fun hsent => ?_, Session.departs_of_silent hstep hexp⟩
  rw [frames_append]
  cases hkeeps.whole hexp hsent with
  | closed h => exact .inl h.reads
  | failed h _ hfs =>
    rw [hfs]
    exact .inl (h.reads.trans h.ok (.fail _))
  | untracked h hfs =>
    rw [hfs]
    exact .inr ⟨(h.reads.mem_texts h.ok).mp (by simp), by simp [failFrames]⟩

/-- A client that waits for a device, and goes before there is one. -/
def leftWaiting : List SessionAct := [.read (.ok "host:wait-for-any-device"), .pick []]

def leftWaitingTrace : List SessionEvent :=
  [⟨some "host:wait-for-any-device", [.okay]⟩, ⟨none, []⟩]

theorem exists_run_leftWaiting :
    sessionMachine.Run .new leftWaitingTrace ⟨.any, .waiting .any⟩ := by
  refine Machine.run_of_exec leftWaiting ?_
  rfl

/-- An answer at once, and two ways to stop waiting: the second `OKAY`, and a write that fails. -/
theorem reply_whole_version :
    Reads (replyShape ["host:version"]) [.okay, .text "0029"] [] ∧
      Reads (replyShape ["host:wait-for-any-device"]) [.okay, .okay] [] ∧
      SessionAct.broken.departs = true := by
  have hversion : sessionMachine.step .new (.read (.ok "host:version")) =
      some (⟨.any, .ended⟩, ⟨some "host:version", okayFrames "0029"⟩) := rfl
  have heof : sessionMachine.step ⟨.any, .waiting .any⟩ .eof =
      some (⟨.any, .ended⟩, ⟨none, [.okay]⟩) := rfl
  have hbroken : sessionMachine.step ⟨.any, .waiting .any⟩ .broken =
      some (⟨.any, .ended⟩, ⟨none, []⟩) := rfl
  have hrun := exists_run_leftWaiting
  refine ⟨?_, ?_, (reply_whole hrun hbroken (.inl rfl)).2 rfl⟩
  · obtain hreads | ⟨htexts, -⟩ := (reply_whole .nil hversion (.inl rfl)).1 (List.cons_ne_nil _ _)
    · exact hreads
    · exact absurd htexts (by decide)
  · obtain hreads | ⟨htexts, -⟩ := (reply_whole hrun heof (.inl rfl)).1 (List.cons_ne_nil _ _)
    · exact hreads
    · exact absurd htexts (by decide)

end AdbDaemon.SmartSocket

import AdbDaemon.Transport.UsbRead

/-!
# Framing of the USB output

Reference: `UsbConnection::write_message` in `packages/transport/src/connection/usb.rs` and
`ConnectionExt::write_message_async` in `packages/transport/src/transport.rs`.

A receiver sees packets and has to find the ends of transfers: a packet shorter than `packetSize`
ends one. A header is always short. A payload whose length is a multiple of the packet size is
followed by a transfer without bytes, which is the zero-length packet that ends it; any other
payload ends short, and an empty one is not sent at all.

`frame` is a transfer as the receiver needs it. `split_frame` says that frames are told apart
whatever follows, `writeMessage_submits` that `write_message` submits frames, and
`usbWriter_decoded` is the result over every schedule of writers.
-/

namespace AdbDaemon.Transport

open Common

/-! ## The wire -/

/-- The packets of one submitted transfer; a transfer without bytes is a zero-length packet. -/
def transferPackets (packetSize : Nat) (bytes : List UInt8) : List (List UInt8) :=
  if bytes = [] then [[]] else packets packetSize bytes

/-- A transfer whose end is visible: after a full last packet comes a zero-length one. -/
def frame (packetSize : Nat) (bytes : List UInt8) : List (List UInt8) :=
  packets packetSize bytes ++ if bytes.length % packetSize = 0 then [[]] else []

/-- The transfers of one message, as the receiver is to see them. -/
def messageTransfers (m : AdbMessage) : List (List UInt8) :=
  m.header.toVec :: if m.payload = [] then [] else [m.payload]

/-! ## The receiver -/

/-- Put packets together to transfers, with the bytes of a transfer that has not ended. -/
def splitTransfers (packetSize : Nat) :
    List UInt8 → List (List UInt8) → List (List UInt8) × List UInt8
  | buf, [] => ([], buf)
  | buf, p :: ps =>
    if p.length < packetSize then
      let (transfers, rest) := splitTransfers packetSize [] ps
      ((buf ++ p) :: transfers, rest)
    else splitTransfers packetSize (buf ++ p) ps

/-- Read one transfer as a header and, if it announces bytes, one further transfer as payload. -/
def readMessages : List (List UInt8) → Option (List AdbMessage)
  | [] => some []
  | t :: transfers =>
    match AdbMessageHeader.read t with
    | .error _ => none
    | .ok header =>
      if header.dataLength = 0 then (readMessages transfers).map fun msgs => ⟨header, []⟩ :: msgs
      else
        match transfers with
        | [] => none
        | payload :: transfers =>
          (readMessages transfers).map fun msgs => ⟨header, payload⟩ :: msgs

/-- What the receiver makes of the packets; `none` if it cannot read them to the end. -/
def decode (packetSize : Nat) (wire : List (List UInt8)) : Option (List AdbMessage) :=
  match splitTransfers packetSize [] wire with
  | (transfers, []) => readMessages transfers
  | _ => none

/-! ## Frames are told apart -/

theorem frame_of_length_lt {P : Nat} {bytes : List UInt8} (h : bytes.length < P) :
    frame P bytes = [bytes] := by
  have hP : 0 < P := by omega
  rcases eq_or_ne bytes [] with rfl | hne
  · simp [frame]
  · have hmod : bytes.length % P ≠ 0 := by
      rw [Nat.mod_eq_of_lt h]
      exact Nat.ne_of_gt (List.length_pos_iff.mpr hne)
    rw [frame, packets_of_length_le hP hne (Nat.le_of_lt h), if_neg hmod, List.append_nil]

/-- A longer transfer begins with a full packet. -/
theorem frame_of_length_ge {P : Nat} (hP : 0 < P) {bytes : List UInt8} (h : P ≤ bytes.length) :
    frame P bytes = bytes.take P :: frame P (bytes.drop P) := by
  have hne : bytes ≠ [] := by
    rintro rfl
    simp at h
    omega
  have hmod : bytes.length % P = (bytes.drop P).length % P := by
    rw [List.length_drop]
    exact Nat.mod_eq_sub_mod h
  rw [frame, packets_ne_nil hP hne, hmod, List.cons_append, frame]

/-- A frame is one transfer of the receiver, whatever follows it. -/
theorem split_frame {P : Nat} (hP : 0 < P) (bytes buf : List UInt8) (rest : List (List UInt8)) :
    splitTransfers P buf (frame P bytes ++ rest) =
      ((buf ++ bytes) :: (splitTransfers P [] rest).1, (splitTransfers P [] rest).2) := by
  induction hn : bytes.length using Nat.strongRecOn generalizing bytes buf with
  | _ n ih =>
    rcases Nat.lt_or_ge bytes.length P with hlt | hge
    · rw [frame_of_length_lt hlt, List.singleton_append, splitTransfers, if_pos hlt]
    · -- the first packet is full, and the rest is a shorter frame
      have hfull : ¬ (bytes.take P).length < P := by
        rw [List.length_take]
        omega
      have hlen : (bytes.drop P).length < n := by
        rw [List.length_drop]
        omega
      rw [frame_of_length_ge hP hge, List.cons_append, splitTransfers, if_neg hfull,
        ih _ hlen (bytes.drop P) (buf ++ bytes.take P) rfl, List.append_assoc,
        List.take_append_drop]

/-- Transfers are told apart by their short last packets. -/
theorem split_frames {P : Nat} (hP : 0 < P) (transfers : List (List UInt8)) :
    splitTransfers P [] (transfers.flatMap (frame P)) = (transfers, []) := by
  induction transfers with
  | nil => rfl
  | cons t transfers ih => rw [List.flatMap_cons, split_frame hP, ih, List.nil_append]

/-! ## What `write_message` submits -/

/-- A message built by `AdbMessage::new` whose length the header can hold. -/
def Built (m : AdbMessage) : Prop :=
  ∃ command arg0 arg1 payload, payload.length < 2 ^ 32 ∧ m = AdbMessage.new command arg0 arg1 payload

/-- A message of `AdbMessage::new` has a header that fits its payload. -/
theorem Built.wellFormed {m : AdbMessage} (h : Built m) : WellFormed m := by
  obtain ⟨command, arg0, arg1, payload, hlen, rfl⟩ := h
  exact UInt32.toNat_ofNat_of_lt' hlen

/-- The transfers of well-formed messages are read back. -/
theorem readMessages_transfers {msgs : List AdbMessage} (h : ∀ m ∈ msgs, WellFormed m) :
    readMessages (msgs.flatMap messageTransfers) = some msgs := by
  induction msgs with
  | nil => rfl
  | cons m msgs ih =>
    have hm : m.header.dataLength.toNat = m.payload.length := h m (by simp)
    have ih := ih fun m' hm' => h m' (List.mem_cons_of_mem _ hm')
    rw [List.flatMap_cons, messageTransfers]
    by_cases hnil : m.payload = []
    · have hzero : m.header.dataLength = 0 := by
        rw [← UInt32.toNat_inj, hm, hnil]
        rfl
      rw [if_pos hnil, List.singleton_append, readMessages]
      simp only [AdbMessageHeader.read_toVec, hzero, if_true, ih, Option.map_some, ← hnil]
    · have hpos : m.header.dataLength ≠ 0 := by
        intro hzero
        rw [hzero] at hm
        exact hnil (List.length_eq_zero_iff.mp hm.symm)
      rw [if_neg hnil, List.cons_append, List.singleton_append, readMessages]
      simp only [AdbMessageHeader.read_toVec, hpos, if_false, ih, Option.map_some]

/-- `u32::is_multiple_of` decides as the lengths do, for a packet size that is not truncated. -/
theorem dataLength_mod {m : AdbMessage} (hm : WellFormed m) {P : Nat} (hP : P < 2 ^ 32) :
    m.header.dataLength % UInt32.ofNat P = 0 ↔ m.payload.length % P = 0 := by
  rw [← UInt32.toNat_inj, UInt32.toNat_mod, UInt32.toNat_ofNat_of_lt' hP, hm]
  rfl

/-- The frames of one message. -/
def messageFrames (packetSize : Nat) (m : AdbMessage) : List (List UInt8) :=
  (messageTransfers m).flatMap (frame packetSize)

/-- A header is a frame by itself. -/
theorem frame_header {P : Nat} (hP : AdbMessageHeader.LENGTH < P) (header : AdbMessageHeader) :
    transferPackets P header.toVec = frame P header.toVec := by
  have hlt : header.toVec.length < P := by rwa [AdbMessageHeader.length_toVec]
  have hne : header.toVec ≠ [] := by
    intro hnil
    have hlen := header.length_toVec
    rw [hnil] at hlen
    exact absurd hlen (by decide)
  rw [transferPackets, if_neg hne, frame_of_length_lt hlt,
    packets_of_length_le (Nat.zero_lt_of_lt hP) hne (Nat.le_of_lt hlt)]

/-- A payload is a frame with the transfer that follows it. -/
theorem frame_payload {P : Nat} {payload : List UInt8} (hne : payload ≠ []) :
    frame P payload =
      transferPackets P payload ++ if payload.length % P = 0 then transferPackets P [] else [] := by
  rw [frame, transferPackets, if_neg hne, transferPackets, if_pos rfl]

/-- On a flushed connection `write_message` submits the frames of its message and nothing else. -/
theorem writeMessage_submits {c : UsbConnection} (hflushed : c.outEndpoint.pending = 0)
    (hP : AdbMessageHeader.LENGTH < c.packetSize) (hmax : c.packetSize < 2 ^ 32) {m : AdbMessage}
    (hm : WellFormed m) :
    ∃ c', c.writeMessage m = some c' ∧ c'.packetSize = c.packetSize ∧
      c'.outEndpoint.submitted.flatMap (transferPackets c.packetSize) =
        messageFrames c.packetSize m := by
  have hempty : c.outEndpoint.submitted = [] := List.length_eq_zero_iff.mp hflushed
  have hheader := frame_header hP m.header
  rw [UsbConnection.writeMessage, if_pos hflushed]
  refine ⟨_, rfl, rfl, ?_⟩
  by_cases hnil : m.payload = []
  · simp [messageFrames, messageTransfers, hnil, OutEndpoint.submit, hempty, hheader]
  · have hpayload := frame_payload (P := c.packetSize) hnil
    simp only [hnil, if_false, dataLength_mod hm hmax]
    split
    · rename_i hmod
      simp [messageFrames, messageTransfers, hnil, OutEndpoint.submit, hempty, hheader, hpayload,
        hmod]
    · rename_i hmod
      simp [messageFrames, messageTransfers, hnil, OutEndpoint.submit, hempty, hheader, hpayload,
        hmod]

/-! ## The writers -/

/-- The connection under its writers, and the packets submitted so far. -/
structure UsbWriter where
  conn : UsbConnection
  wire : List (List UInt8)

inductive UsbWriter.Act where
  /-- A task polls a flush. -/
  | flush
  /-- A task writes a message: it flushes first, and goes on under the same guard. -/
  | write (task : Nat) (msg : AdbMessage)
  | complete (c : Except TransferError Unit)

inductive UsbWriter.Event where
  | wrote (task : Nat) (msg : AdbMessage)
  | internal

/-- A task flushes or writes, or a transfer completes. -/
def UsbWriter.step (s : UsbWriter) : UsbWriter.Act → Option (UsbWriter × UsbWriter.Event)
  | .flush => some ({ s with conn := s.conn.pollFlush.2 }, .internal)
  | .write task msg =>
    match s.conn.pollFlush with
    | (.ready (.ok ()), conn) =>
      match conn.writeMessage msg with
      | none => none
      | some conn' =>
        -- all that was submitted before has been handed back
        some (⟨conn', s.wire ++ conn'.outEndpoint.submitted.flatMap
          (transferPackets conn'.packetSize)⟩, .wrote task msg)
    | (_, conn) => some ({ s with conn }, .internal)
  | .complete c =>
    some ({ s with conn := { s.conn with outEndpoint := s.conn.outEndpoint.complete c } }, .internal)

/-- The writing end, used by any tasks. -/
def usbWriter : Machine UsbWriter UsbWriter.Act UsbWriter.Event := ⟨UsbWriter.step⟩

def UsbWriter.Event.msg? : UsbWriter.Event → Option AdbMessage
  | .wrote _ msg => some msg
  | .internal => none

/-- The messages written, in the order of the calls. -/
def written (tr : List UsbWriter.Event) : List AdbMessage := tr.filterMap UsbWriter.Event.msg?

def UsbWriter.init (packetSize : Nat) : UsbWriter := ⟨UsbConnection.new packetSize, []⟩

theorem written_append (tr tr' : List UsbWriter.Event) :
    written (tr ++ tr') = written tr ++ written tr' := List.filterMap_append

/-- The packets so far are the frames of the messages written, one message after the other. -/
structure WriteInv (P : Nat) (tr : List UsbWriter.Event) (s : UsbWriter) : Prop where
  packetSize : s.conn.packetSize = P
  wire : (∀ m ∈ written tr, Built m) → s.wire = (written tr).flatMap (messageFrames P)

/-- A flush does not change the size of the packets. -/
theorem UsbConnection.pollFlush_packetSize (c : UsbConnection) :
    c.pollFlush.2.packetSize = c.packetSize := rfl

/-- A step that writes nothing keeps the invariant. -/
theorem WriteInv.internal {P : Nat} {tr : List UsbWriter.Event} {s : UsbWriter}
    (h : WriteInv P tr s) {conn : UsbConnection} (hconn : conn.packetSize = s.conn.packetSize) :
    WriteInv P (tr ++ [.internal]) { s with conn } := by
  have htr : written (tr ++ [.internal]) = written tr := by
    rw [written_append]
    exact List.append_nil _
  refine ⟨hconn.trans h.packetSize, ?_⟩
  rw [htr]
  exact h.wire

/-- A message that is written comes to the end of what the device will decode. -/
theorem WriteInv.wrote {P : Nat} (hP : AdbMessageHeader.LENGTH < P) (hmax : P < 2 ^ 32)
    {tr : List UsbWriter.Event} {s : UsbWriter} (h : WriteInv P tr s) {task : Nat}
    {msg : AdbMessage} {conn conn' : UsbConnection}
    (hflush : s.conn.pollFlush = (.ready (.ok ()), conn)) (hwrite : conn.writeMessage msg = some conn') :
    WriteInv P (tr ++ [.wrote task msg])
      ⟨conn', s.wire ++ conn'.outEndpoint.submitted.flatMap (transferPackets conn'.packetSize)⟩ := by
  have hsize : conn.packetSize = P := by
    rw [← h.packetSize, ← s.conn.pollFlush_packetSize, hflush]
  have hsize' : conn'.packetSize = conn.packetSize := by
    simp only [UsbConnection.writeMessage, Option.ite_none_right_eq_some, Option.some.injEq] at hwrite
    rw [← hwrite.2]
  have hflushed : conn.outEndpoint.pending = 0 := by
    simp only [UsbConnection.pollFlush, Prod.mk.injEq] at hflush
    rw [← hflush.2]
    exact UsbConnection.flushLoop_ok (Prod.ext hflush.1 rfl)
  refine ⟨hsize'.trans hsize, fun hbuilt => ?_⟩
  rw [written_append] at hbuilt ⊢
  have hold := h.wire fun m hm => hbuilt m (List.mem_append_left _ hm)
  have hm : WellFormed msg := (hbuilt msg (List.mem_append_right _ (by simp [written,
    UsbWriter.Event.msg?]))).wellFormed
  obtain ⟨c, hc, -, hsub⟩ := writeMessage_submits hflushed (hsize ▸ hP) (hsize ▸ hmax) hm
  obtain rfl : c = conn' := Option.some.inj (hc.symm.trans hwrite)
  rw [hold, List.flatMap_append, hsize', hsub, hsize]
  simp [written, UsbWriter.Event.msg?]

/-- Every step keeps the invariant; only a write changes what was submitted. -/
theorem WriteInv.step {P : Nat} (hP : AdbMessageHeader.LENGTH < P) (hmax : P < 2 ^ 32)
    {tr : List UsbWriter.Event} {s s' : UsbWriter} {a : UsbWriter.Act} {e : UsbWriter.Event}
    (h : WriteInv P tr s) (hs : usbWriter.step s a = some (s', e)) : WriteInv P (tr ++ [e]) s' := by
  cases a with
  | flush =>
    cases hs
    exact h.internal s.conn.pollFlush_packetSize
  | complete c =>
    cases hs
    exact h.internal rfl
  | write task msg =>
    simp only [usbWriter, UsbWriter.step] at hs
    split at hs
    · rename_i conn hflush
      split at hs
      · exact absurd hs (by simp)
      · rename_i conn' hwrite
        cases hs
        exact h.wrote hP hmax hflush hwrite
    · rename_i conn hflush
      cases hs
      refine h.internal ?_
      rw [← s.conn.pollFlush_packetSize, hflush]

/-- **The writers are read back.** For every packet size above the length of a header (an endpoint
descriptor has 16 bits for it; all that matters is that `as u32` does not truncate it), and every
schedule of tasks that write messages and of completions: the packets submitted are the frames of
the messages in the order of the calls, each message's in one piece; the receiver finds exactly
their transfers; and it reads exactly the messages. -/
theorem usbWriter_decoded (P : Nat) (hP : 24 < P) (hdescriptor : P < 2 ^ 32)
    (tr : List UsbWriter.Event) (s : UsbWriter) (hrun : usbWriter.Run (UsbWriter.init P) tr s)
    (hbuilt : ∀ m ∈ written tr, Built m) :
    s.wire = (written tr).flatMap (messageFrames P) ∧
      splitTransfers P [] s.wire = ((written tr).flatMap messageTransfers, []) ∧
      decode P s.wire = some (written tr) := by
  have hinv : WriteInv P tr s := by
    refine hrun.invariant (WriteInv P) ⟨rfl, fun _ => rfl⟩ ?_
    exact fun tr s a s' e _ h hs => h.step hP hdescriptor hs
  have hwire := hinv.wire hbuilt
  have hsplit : splitTransfers P [] s.wire = ((written tr).flatMap messageTransfers, []) := by
    rw [← split_frames (Nat.zero_lt_of_lt hP), List.flatMap_assoc, hwire]
    rfl
  refine ⟨hwire, hsplit, ?_⟩
  rw [decode, hsplit]
  exact readMessages_transfers fun m hm => (hbuilt m hm).wellFormed

/-- Two tasks write: a payload of exactly one packet, and a message without payload. -/
theorem usbWriter_decoded_two :
    ∃ tr s, usbWriter.Run (UsbWriter.init 25) tr s ∧
      s.wire.map List.length = [24, 25, 0, 24] ∧ (written tr).length = 2 ∧
      decode 25 s.wire = some (written tr) := by
  obtain ⟨s, tr, hrun, htest⟩ := Machine.exists_run_of_exec (M := usbWriter) (s := UsbWriter.init 25)
    [.write 0 (AdbMessage.new .WRTE 1 2 (List.replicate 25 7)), .complete (.ok ()),
      .complete (.ok ()), .flush, .complete (.ok ()), .write 1 (AdbMessage.new .CLSE 3 4 [])]
    (fun s tr => decide (s.wire.map List.length = [24, 25, 0, 24] ∧
      written tr = [AdbMessage.new .WRTE 1 2 (List.replicate 25 7), AdbMessage.new .CLSE 3 4 []]))
    (by decide)
  obtain ⟨hwire, hwritten⟩ := of_decide_eq_true htest
  refine ⟨tr, s, hrun, hwire, by rw [hwritten]; rfl, ?_⟩
  refine (usbWriter_decoded 25 (by decide) (by decide) tr s hrun ?_).2.2
  intro m hm
  rw [hwritten] at hm
  rcases List.mem_pair.mp hm with rfl | rfl
  · exact ⟨.WRTE, 1, 2, List.replicate 25 7, by decide, rfl⟩
  · exact ⟨.CLSE, 3, 4, [], by decide, rfl⟩

end AdbDaemon.Transport

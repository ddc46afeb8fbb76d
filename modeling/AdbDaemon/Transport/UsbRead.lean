import AdbDaemon.Common.Machine
import AdbDaemon.Transport.Usb

/-!
# Framing of the USB input

Reference: `UsbConnection::poll_read_message` in `packages/transport/src/connection/usb.rs`.

The device sends a header as one transfer and a non-empty payload as another, cut into packets of
`packetSize` bytes with no zero-length packet after a full one. The reader keeps up to two buffers
submitted, of different sizes, and a header it has already taken. `Stage` lists the six
configurations of wire, endpoint and reader that can occur between two steps; `poll_stage` and
`receive_stage` are the step lemmas, and `usbReader_returns_sent` the result over every schedule.
-/

namespace AdbDaemon.Transport

open Common

/-! ## The wire -/

/-- Cut bytes into packets; the fuel is the number of bytes. -/
def cutPackets (packetSize : Nat) : Nat → List UInt8 → List (List UInt8)
  | 0, _ => []
  | _ + 1, [] => []
  | fuel + 1, b :: bytes =>
    (b :: bytes).take packetSize :: cutPackets packetSize fuel ((b :: bytes).drop packetSize)

/-- One transfer of a device that sends no zero-length packet. -/
def packets (packetSize : Nat) (bytes : List UInt8) : List (List UInt8) :=
  cutPackets packetSize bytes.length bytes

/-- The packets of one message. -/
def messagePackets (packetSize : Nat) (m : AdbMessage) : List (List UInt8) :=
  packets packetSize m.header.toVec ++ packets packetSize m.payload

/-- The packets of a list of messages. -/
def wireOf (packetSize : Nat) (msgs : List AdbMessage) : List (List UInt8) :=
  msgs.flatMap (messagePackets packetSize)

/-- Spare fuel changes nothing. -/
theorem cutPackets_fuel {packetSize : Nat} (hp : 0 < packetSize) (fuel : Nat) (bytes : List UInt8)
    (h : bytes.length ≤ fuel) : cutPackets packetSize fuel bytes = packets packetSize bytes := by
  induction fuel using Nat.strongRecOn generalizing bytes with
  | _ fuel ih =>
    match fuel, bytes with
    | 0, [] => rfl
    | _ + 1, [] => rfl
    | fuel + 1, b :: bytes =>
      have hlen : ((b :: bytes).drop packetSize).length ≤ bytes.length := by
        simp only [List.length_drop, List.length_cons]
        omega
      have hle : bytes.length ≤ fuel := by simpa using h
      simp only [packets, List.length_cons, cutPackets]
      rw [ih fuel (by omega) _ (by omega)]
      rcases Nat.lt_or_ge bytes.length (fuel + 1) with hlt | hge
      · rw [ih bytes.length (by omega) _ hlen]
      · omega

@[simp] theorem packets_nil (packetSize : Nat) : packets packetSize [] = [] := rfl

theorem packets_ne_nil {packetSize : Nat} (hp : 0 < packetSize) {bytes : List UInt8}
    (h : bytes ≠ []) :
    packets packetSize bytes =
      bytes.take packetSize :: packets packetSize (bytes.drop packetSize) := by
  match bytes, h with
  | b :: bytes, _ =>
    have hlen : ((b :: bytes).drop packetSize).length ≤ bytes.length := by
      simp only [List.length_drop, List.length_cons]
      omega
    rw [packets, List.length_cons, cutPackets, cutPackets_fuel hp _ _ hlen]

/-- What fits into one packet is sent as one. -/
theorem packets_of_length_le {packetSize : Nat} (hp : 0 < packetSize) {bytes : List UInt8}
    (h : bytes ≠ []) (hle : bytes.length ≤ packetSize) : packets packetSize bytes = [bytes] := by
  rw [packets_ne_nil hp h, List.take_of_length_le hle, List.drop_eq_nil_of_le hle, packets_nil]

/-- A header is a single packet. -/
theorem messagePackets_eq {packetSize : Nat} (hp : AdbMessageHeader.LENGTH ≤ packetSize)
    (m : AdbMessage) :
    messagePackets packetSize m = m.header.toVec :: packets packetSize m.payload := by
  have hlen := m.header.length_toVec
  have hne : m.header.toVec ≠ [] := by
    intro h
    rw [h] at hlen
    exact absurd hlen (by decide)
  have hpos : 0 < packetSize := Nat.lt_of_lt_of_le (by decide) hp
  rw [messagePackets, packets_of_length_le hpos hne (by omega), List.singleton_append]

/-! ## The reader as a machine -/

/-- A message as a device sends it: the header announces the length of the payload. -/
def WellFormed (m : AdbMessage) : Prop := m.header.dataLength.toNat = m.payload.length

instance (m : AdbMessage) : Decidable (WellFormed m) := inferInstanceAs (Decidable (_ = _))

/-- The connection, and the packets that are still on the wire. -/
structure UsbReader where
  conn : UsbConnection
  wire : List (List UInt8)

inductive UsbReader.Act where
  /-- The next packet reaches the endpoint. -/
  | packet
  /-- `poll_read_message`. -/
  | poll
  /-- The future of `read_message_async` is dropped; it owns nothing but the borrow. -/
  | dropFuture
deriving DecidableEq

inductive UsbReader.Event where
  | packet
  | polled (res : Poll (Except Error AdbMessage))
  | droppedFuture

/-- A packet arrives, the connection is polled, or the future is dropped. -/
def UsbReader.step (s : UsbReader) : UsbReader.Act → Option (UsbReader × UsbReader.Event)
  | .packet =>
    match s.wire with
    | [] => none
    | p :: wire =>
      match s.conn.inEndpoint.receive s.conn.packetSize p with
      | none => none
      | some inEndpoint => some ({ conn := { s.conn with inEndpoint }, wire }, .packet)
  | .poll =>
    let (res, conn) := s.conn.pollReadMessage
    some ({ s with conn }, .polled res)
  | .dropFuture => some (s, .droppedFuture)

/-- The reading end, with a device that sends the packets of whole messages. -/
def usbReader : Machine UsbReader UsbReader.Act UsbReader.Event := ⟨UsbReader.step⟩

/-- The messages a trace of polls returned. -/
def returned (tr : List UsbReader.Event) : List (Except Error AdbMessage) :=
  tr.filterMap fun
    | .polled (.ready res) => some res
    | _ => none

/-- A fresh connection facing a device that has `msgs` to send. -/
def UsbReader.init (packetSize : Nat) (msgs : List AdbMessage) : UsbReader where
  conn := UsbConnection.new packetSize
  wire := wireOf packetSize msgs

/-! ## The configurations between two steps -/

/-- The buffer that receives headers. -/
abbrev headerBuffer (packetSize : Nat) : Buffer := Buffer.new packetSize

/-- The buffer that receives the payload of `m`, with the bytes that have arrived. -/
abbrev payloadBuffer (packetSize : Nat) (m : AdbMessage) (data : List UInt8) : Buffer :=
  ⟨UsbConnection.nextMultipleOf m.header.dataLength.toNat packetSize, data⟩

/-- The configurations of endpoint, taken header and wire when the messages `rest` are still to be
returned. -/
inductive Stage (P : Nat) : List AdbMessage → InEndpoint → Option AdbMessageHeader →
    List (List UInt8) → Prop
  /-- Nothing submitted yet. -/
  | idle (rest : List AdbMessage) : Stage P rest ⟨[], []⟩ none (wireOf P rest)
  /-- Waiting for a header. -/
  | header (rest : List AdbMessage) : Stage P rest ⟨[headerBuffer P], []⟩ none (wireOf P rest)
  /-- A header has arrived. -/
  | headerDone (m : AdbMessage) (rest : List AdbMessage) (len : Nat) (hlen : len = P) :
      Stage P (m :: rest) ⟨[], [.ok ⟨len, m.header.toVec⟩]⟩ none (packets P m.payload ++ wireOf P rest)
  /-- The header is taken and its payload is arriving, a whole number of packets so far. -/
  | payload (m : AdbMessage) (rest : List AdbMessage) (got todo : List UInt8)
      (hm : m.payload = got ++ todo) (hgot : P ∣ got.length) (htodo : todo ≠ []) :
      Stage P (m :: rest) ⟨[payloadBuffer P m got, headerBuffer P], []⟩ (some m.header)
        (packets P todo ++ wireOf P rest)
  /-- The payload has arrived. -/
  | payloadDone (m : AdbMessage) (rest : List AdbMessage) :
      Stage P (m :: rest) ⟨[headerBuffer P], [.ok (payloadBuffer P m m.payload)]⟩ (some m.header)
        (wireOf P rest)
  /-- The payload and the next header have arrived. -/
  | bothDone (m m' : AdbMessage) (rest : List AdbMessage) :
      Stage P (m :: m' :: rest)
        ⟨[], [.ok (payloadBuffer P m m.payload), .ok ⟨P, m'.header.toVec⟩]⟩ (some m.header)
        (packets P m'.payload ++ wireOf P rest)

/-! ## Step lemmas -/

theorem dvd_nextMultipleOf {n k : Nat} (h : k ∣ n) : UsbConnection.nextMultipleOf n k = n := by
  rw [UsbConnection.nextMultipleOf, if_pos (Nat.mod_eq_zero_of_dvd h)]

/-- A buffer is long enough for what it is asked for. -/
theorem le_nextMultipleOf (n k : Nat) : n ≤ UsbConnection.nextMultipleOf n k := by
  unfold UsbConnection.nextMultipleOf
  split <;> omega

/-- A packet can be received while a buffer is submitted. -/
theorem receive_of_queue (P : Nat) (p : List UInt8) {e : InEndpoint} (h : e.queue ≠ []) :
    ∃ e', e.receive P p = some e' := by
  obtain ⟨buf, queue, hq⟩ := List.exists_cons_of_ne_nil h
  simp only [InEndpoint.receive, hq]
  split
  · exact ⟨_, rfl⟩
  · exact ⟨_, rfl⟩

/-- A header packet completes the header buffer: it is short, or it fills the buffer. -/
theorem receive_header {P : Nat} (hP : AdbMessageHeader.LENGTH ≤ P) (h : AdbMessageHeader)
    (completed : List (Except TransferError Buffer)) :
    InEndpoint.receive P h.toVec ⟨[headerBuffer P], completed⟩ =
      some ⟨[], completed ++ [.ok ⟨P, h.toVec⟩]⟩ := by
  simp only [InEndpoint.receive, Buffer.new, List.nil_append, h.length_toVec]
  rw [if_pos]
  rcases Nat.lt_or_eq_of_le hP with hlt | heq
  · exact .inl hlt
  · exact .inr (Nat.le_of_eq heq.symm)

/-- A payload packet completes the payload buffer exactly when it is the last one. -/
theorem receive_payload {P : Nat} {m : AdbMessage} (hm : WellFormed m)
    {got todo : List UInt8} (hpay : m.payload = got ++ todo) (hgot : P ∣ got.length)
    (queue : List Buffer) :
    InEndpoint.receive P (todo.take P) ⟨payloadBuffer P m got :: queue, []⟩ =
      if todo.length ≤ P then some ⟨queue, [.ok (payloadBuffer P m m.payload)]⟩
      else some ⟨payloadBuffer P m (got ++ todo.take P) :: queue, []⟩ := by
  have hlen : m.header.dataLength.toNat = got.length + todo.length := by
    rw [hm, hpay, List.length_append]
  simp only [InEndpoint.receive, List.length_take, List.length_append, List.nil_append]
  by_cases hle : todo.length ≤ P
  · rw [if_pos hle, if_pos ?_, List.take_of_length_le hle, hpay]
    rcases Nat.lt_or_ge todo.length P with hlt | hge
    · left
      omega
    · -- the last packet is full: the announced length is a multiple of the packet size
      right
      have hdvd : P ∣ m.header.dataLength.toNat := by
        rw [hlen, Nat.le_antisymm hle hge]
        exact Nat.dvd_add hgot (Nat.dvd_refl P)
      rw [dvd_nextMultipleOf hdvd, hlen]
      omega
  · rw [if_neg hle, if_neg ?_]
    have hbound := le_nextMultipleOf m.header.dataLength.toNat P
    omega

/-- A packet moves one configuration to another, for the same messages: a header is completed, or a
payload is, or it has grown by one packet. -/
theorem receive_stage {P : Nat} (hP : AdbMessageHeader.LENGTH ≤ P) {rest : List AdbMessage}
    (hrest : ∀ m ∈ rest, WellFormed m) {e e' : InEndpoint} {h : Option AdbMessageHeader}
    {p : List UInt8} {wire : List (List UInt8)} (hst : Stage P rest e h (p :: wire))
    (hrecv : e.receive P p = some e') : Stage P rest e' h wire := by
  have hpos : 0 < P := Nat.lt_of_lt_of_le (by decide) hP
  generalize hw : p :: wire = w at hst
  cases hst with
  | idle => simp [InEndpoint.receive] at hrecv
  | headerDone => simp [InEndpoint.receive] at hrecv
  | bothDone => simp [InEndpoint.receive] at hrecv
  | header rest =>
    match rest with
    | [] => simp [wireOf] at hw
    | m :: rest =>
      simp only [wireOf, List.flatMap_cons, messagePackets_eq hP, List.cons_append,
        List.cons.injEq] at hw
      obtain ⟨rfl, rfl⟩ := hw
      rw [receive_header hP, Option.some.injEq] at hrecv
      subst hrecv
      exact .headerDone m rest P rfl
  | payloadDone m rest =>
    match rest with
    | [] => simp [wireOf] at hw
    | m' :: rest =>
      simp only [wireOf, List.flatMap_cons, messagePackets_eq hP, List.cons_append,
        List.cons.injEq] at hw
      obtain ⟨rfl, rfl⟩ := hw
      rw [receive_header hP, Option.some.injEq] at hrecv
      subst hrecv
      exact .bothDone m m' rest
  | payload m rest got todo hm hgot htodo =>
    rw [packets_ne_nil hpos htodo, List.cons_append, List.cons.injEq] at hw
    obtain ⟨rfl, rfl⟩ := hw
    rw [receive_payload (hrest m (by simp)) hm hgot] at hrecv
    split at hrecv
    · -- the last packet of the payload, or one in the middle of it
      rename_i hle
      obtain rfl := Option.some.inj hrecv
      rw [List.drop_eq_nil_of_le hle, packets_nil, List.nil_append]
      exact .payloadDone m rest
    · rename_i hle
      obtain rfl := Option.some.inj hrecv
      refine .payload m rest _ _ (by rw [List.append_assoc, List.take_append_drop]; exact hm) ?_ ?_
      · rw [List.length_append, List.length_take, Nat.min_eq_left (by omega)]
        exact Nat.dvd_add hgot (Nat.dvd_refl P)
      · intro hnil
        have := congrArg List.length hnil
        simp only [List.length_drop, List.length_nil] at this
        omega

/-- What a poll returns and leaves behind: the next message, or `Pending` with the same messages
still to come, nothing complete, and a buffer for the next packet. -/
def PollSpec (P : Nat) (rest : List AdbMessage) (wire : List (List UInt8))
    (r : Poll (Except Error AdbMessage) × UsbConnection) : Prop :=
  r.2.packetSize = P ∧
    ((∃ m rest', rest = m :: rest' ∧ r.1 = .ready (.ok m) ∧
        Stage P rest' r.2.inEndpoint r.2.inHeader wire) ∨
      (r.1 = .pending ∧ Stage P rest r.2.inEndpoint r.2.inHeader wire ∧
        r.2.inEndpoint.completed = [] ∧ r.2.inEndpoint.queue ≠ []))

/-- With a buffer submitted, a poll goes straight to its loop. -/
theorem pollReadMessage_of_pending {c : UsbConnection} (h : c.inEndpoint.pending ≠ 0) :
    c.pollReadMessage = c.readLoop c.inEndpoint.completed := by
  rw [UsbConnection.pollReadMessage, if_neg h]

/-- The reader at a completed header, with no header taken: it returns a message without payload, or
submits a buffer for the payload. -/
theorem readLoop_header {P : Nat} {m : AdbMessage} (hm : WellFormed m) (rest : List AdbMessage)
    (c : UsbConnection) (hc : c.packetSize = P) (hq : c.inEndpoint.queue = [])
    (hh : c.inHeader = none) :
    PollSpec P (m :: rest) (packets P m.payload ++ wireOf P rest)
      (c.readLoop [.ok ⟨P, m.header.toVec⟩]) := by
  by_cases hlen : m.header.dataLength.toNat = 0
  · have hpay : m.payload = [] := List.eq_nil_of_length_eq_zero (by rw [← hm, hlen])
    have hres : c.readLoop [.ok ⟨P, m.header.toVec⟩] =
        (.ready (.ok m), { c with inEndpoint := ⟨[headerBuffer P], []⟩ }) := by
      simp only [UsbConnection.readLoop, hh, AdbMessageHeader.read_toVec, hlen, InEndpoint.submit, hq,
        Nat.lt_irrefl, if_true, if_false, List.nil_append, Prod.mk.injEq, Poll.ready.injEq,
        Except.ok.injEq, and_true]
      rw [← hpay]
    rw [hres, hpay, packets_nil, List.nil_append]
    exact ⟨hc, .inl ⟨m, rest, rfl, rfl, by rw [hh]; exact .header rest⟩⟩
  · have hpay : m.payload ≠ [] := by
      intro h
      exact hlen (by rw [hm, h, List.length_nil])
    have hres : c.readLoop [.ok ⟨P, m.header.toVec⟩] =
        (.pending, { c with
          inEndpoint := ⟨[payloadBuffer P m [], headerBuffer P], []⟩,
          inHeader := some m.header }) := by
      simp only [UsbConnection.readLoop, hh, AdbMessageHeader.read_toVec, if_pos (Nat.pos_of_ne_zero hlen),
        if_neg hlen, InEndpoint.submit, hq, hc, Buffer.new, List.nil_append, List.cons_append]
    rw [hres]
    exact ⟨hc, .inr ⟨rfl, .payload m rest [] m.payload rfl (by simp) hpay, rfl, by simp⟩⟩

/-- Every poll between two steps returns the next message or waits for more packets. -/
theorem poll_stage {P : Nat} {rest : List AdbMessage} (hrest : ∀ m ∈ rest, WellFormed m)
    (c : UsbConnection) (hc : c.packetSize = P) {wire : List (List UInt8)}
    (hst : Stage P rest c.inEndpoint c.inHeader wire) : PollSpec P rest wire c.pollReadMessage := by
  generalize he : c.inEndpoint = e at hst
  generalize hh : c.inHeader = h at hst
  cases hst with
  | idle rest =>
    have hres : c.pollReadMessage = (.pending, { c with inEndpoint := ⟨[headerBuffer P], []⟩ }) := by
      simp only [UsbConnection.pollReadMessage, InEndpoint.pending, he, List.length_nil, if_true,
        InEndpoint.submit, List.nil_append, UsbConnection.readLoop, Buffer.new, hc]
    rw [hres]
    exact ⟨hc, .inr ⟨rfl, by rw [hh]; exact .header rest, rfl, by simp⟩⟩
  | header rest =>
    rw [pollReadMessage_of_pending (by simp [InEndpoint.pending, he]), he]
    exact ⟨hc, .inr ⟨rfl, by rw [UsbConnection.readLoop, he, hh]; exact .header rest, rfl,
      by simp [UsbConnection.readLoop, he]⟩⟩
  | headerDone m rest len hlen =>
    rw [pollReadMessage_of_pending (by simp [InEndpoint.pending, he]), he, hlen]
    exact readLoop_header (hrest m (by simp)) rest c hc (by rw [he]) hh
  | payload m rest got todo hm hgot htodo =>
    rw [pollReadMessage_of_pending (by simp [InEndpoint.pending, he]), he]
    exact ⟨hc, .inr ⟨rfl, by
      rw [UsbConnection.readLoop, he, hh]
      exact .payload m rest got todo hm hgot htodo, rfl, by simp [UsbConnection.readLoop, he]⟩⟩
  | payloadDone m rest =>
    rw [pollReadMessage_of_pending (by simp [InEndpoint.pending, he]), he]
    simp only [UsbConnection.readLoop, hh, he]
    exact ⟨hc, .inl ⟨m, rest, rfl, rfl, .header rest⟩⟩
  | bothDone m m' rest =>
    rw [pollReadMessage_of_pending (by simp [InEndpoint.pending, he]), he]
    simp only [UsbConnection.readLoop, hh, he]
    exact ⟨hc, .inl ⟨m, m' :: rest, rfl, rfl, .headerDone m' rest P rfl⟩⟩

/-! ## Every schedule -/

/-- What holds after every schedule: the messages returned are a prefix of those sent, and the
configuration is one of those of the remaining messages. -/
def ReadInv (P : Nat) (msgs : List AdbMessage) (tr : List UsbReader.Event) (s : UsbReader) : Prop :=
  s.conn.packetSize = P ∧ ∃ done rest, msgs = done ++ rest ∧ returned tr = done.map .ok ∧
    Stage P rest s.conn.inEndpoint s.conn.inHeader s.wire

/-- What the reader has returned, with one more poll. -/
theorem returned_snoc_polled (tr : List UsbReader.Event) (r : Except Error AdbMessage) :
    returned (tr ++ [.polled (.ready r)]) = returned tr ++ [r] := by
  simp [returned]

/-- Every step keeps the invariant, each stage of the reader by its own lemma. -/
theorem readInv_step {P : Nat} (hP : AdbMessageHeader.LENGTH ≤ P) {msgs : List AdbMessage}
    (hmsgs : ∀ m ∈ msgs, WellFormed m) {tr : List UsbReader.Event} {s s' : UsbReader}
    {a : UsbReader.Act} {e : UsbReader.Event} (hinv : ReadInv P msgs tr s)
    (hstep : usbReader.step s a = some (s', e)) : ReadInv P msgs (tr ++ [e]) s' := by
  obtain ⟨hc, done, rest, hsplit, hret, hst⟩ := hinv
  have hrest : ∀ m ∈ rest, WellFormed m := fun m hm => hmsgs m (by rw [hsplit]; simp [hm])
  cases a with
  | packet =>
    simp only [usbReader, UsbReader.step] at hstep
    split at hstep
    · simp at hstep
    · rename_i p wire hwire
      split at hstep
      · simp at hstep
      · rename_i inEndpoint hrecv
        simp only [Option.some.injEq, Prod.mk.injEq] at hstep
        obtain ⟨rfl, rfl⟩ := hstep
        rw [hwire] at hst
        rw [hc] at hrecv
        exact ⟨hc, done, rest, hsplit, by simpa [returned] using hret,
          receive_stage hP hrest hst hrecv⟩
  | poll =>
    simp only [usbReader, UsbReader.step, Option.some.injEq, Prod.mk.injEq] at hstep
    obtain ⟨rfl, rfl⟩ := hstep
    obtain ⟨hc', hpoll⟩ := poll_stage hrest s.conn hc hst
    refine ⟨hc', ?_⟩
    rcases hpoll with ⟨m, rest', hm, hres, hst'⟩ | ⟨hres, hst', -⟩
    · -- one more message has come out whole
      refine ⟨done ++ [m], rest', ?_, ?_, hst'⟩
      · rw [hsplit, hm, List.append_assoc, List.singleton_append]
      · rw [hres, returned_snoc_polled, hret, List.map_append, List.map_singleton]
    · refine ⟨done, rest, hsplit, ?_, hst'⟩
      rw [hres]
      simpa [returned] using hret
  | dropFuture =>
    simp only [usbReader, UsbReader.step, Option.some.injEq, Prod.mk.injEq] at hstep
    obtain ⟨rfl, rfl⟩ := hstep
    exact ⟨hc, done, rest, hsplit, by simpa [returned] using hret, hst⟩

/-- A configuration whose wire is empty and in which nothing is complete has nothing left to
return. -/
theorem Stage.rest_nil {P : Nat} (hP : AdbMessageHeader.LENGTH ≤ P) {rest : List AdbMessage}
    {e : InEndpoint} {h : Option AdbMessageHeader} {wire : List (List UInt8)}
    (hst : Stage P rest e h wire) (hwire : wire = []) (hdone : e.completed = []) : rest = [] := by
  have hpos : 0 < P := Nat.lt_of_lt_of_le (by decide) hP
  cases hst with
  | idle rest =>
    match rest with
    | [] => rfl
    | m :: rest => simp [wireOf, messagePackets_eq hP] at hwire
  | header rest =>
    match rest with
    | [] => rfl
    | m :: rest => simp [wireOf, messagePackets_eq hP] at hwire
  | headerDone => simp at hdone
  | payload m rest got todo hm hgot htodo => simp [packets_ne_nil hpos htodo] at hwire
  | payloadDone => simp at hdone
  | bothDone => simp at hdone

/-- **The reader returns what was sent.** For every packet size from 24 up, every list of messages
and every schedule of packets, polls and dropped read futures: the messages returned so far are the
first ones of the list, in order and unaltered; a poll that finds nothing while no packet is left on
the wire has returned all of them; and a poll that finds nothing leaves a buffer submitted, so that
the next packet on the wire can always be received. -/
theorem usbReader_returns_sent (P : Nat) (hP : 24 ≤ P) (msgs : List AdbMessage)
    (hmsgs : ∀ m ∈ msgs, WellFormed m) (tr : List UsbReader.Event) (s : UsbReader)
    (hrun : usbReader.Run (UsbReader.init P msgs) tr s) :
    (∃ rest, msgs.map Except.ok = returned tr ++ rest) ∧
      (∀ conn, s.conn.pollReadMessage = (.pending, conn) →
        (s.wire = [] → returned tr = msgs.map Except.ok) ∧
        (s.wire ≠ [] → (usbReader.step { s with conn } .packet).isSome)) := by
  have hinv : ReadInv P msgs tr s := by
    refine Machine.Run.invariant (ReadInv P msgs) ⟨rfl, [], msgs, rfl, rfl, .idle msgs⟩ ?_ hrun
    exact fun tr s a s' e _ hinv hstep => readInv_step hP hmsgs hinv hstep
  obtain ⟨hc, done, rest, hsplit, hret, hst⟩ := hinv
  have hrest : ∀ m ∈ rest, WellFormed m := fun m hm => hmsgs m (by rw [hsplit]; simp [hm])
  refine ⟨⟨rest.map .ok, by rw [hsplit, hret, List.map_append]⟩, ?_⟩
  intro conn hpoll
  obtain ⟨hc', hspec⟩ := poll_stage hrest s.conn hc hst
  rw [hpoll] at hspec hc'
  rcases hspec with ⟨m, rest', -, hres, -⟩ | ⟨-, hst', hcompleted, hqueue⟩
  · simp at hres
  · constructor
    · intro hwire
      have hnil := hst'.rest_nil hP hwire hcompleted
      rw [hret, hsplit, hnil, List.append_nil]
    · intro hwire
      obtain ⟨p, wire, hpw⟩ := List.exists_cons_of_ne_nil hwire
      obtain ⟨e, he⟩ := receive_of_queue conn.packetSize p hqueue
      simp [usbReader, UsbReader.step, hpw, he]

/-- Two messages, one with a payload of exactly one packet, read with a poll after every packet. -/
theorem usbReader_returns_sent_two :
    ∃ s tr, usbReader.Run (UsbReader.init 24 [AdbMessage.new .WRTE 1 2 (List.replicate 24 7),
        AdbMessage.new .CLSE 1 2 []]) tr s ∧
      returned tr = [.ok (AdbMessage.new .WRTE 1 2 (List.replicate 24 7)),
        .ok (AdbMessage.new .CLSE 1 2 [])] := by
  let msgs := [AdbMessage.new .WRTE 1 2 (List.replicate 24 7), AdbMessage.new .CLSE 1 2 []]
  obtain ⟨s, tr, hrun, htest⟩ := Machine.exists_run_of_exec (M := usbReader)
    (s := UsbReader.init 24 msgs)
    [.poll, .packet, .poll, .dropFuture, .packet, .poll, .packet, .poll]
    (fun s _ => decide (s.wire = [] ∧ s.conn.pollReadMessage.1 = .pending)) (by decide)
  obtain ⟨hwire, hpoll⟩ := of_decide_eq_true htest
  refine ⟨s, tr, hrun, ?_⟩
  exact ((usbReader_returns_sent 24 (by decide) msgs (by decide) tr s hrun).2
    s.conn.pollReadMessage.2 (Prod.ext hpoll rfl)).1 hwire

end AdbDaemon.Transport

import AdbDaemon.Transport.LinkStreams
import AdbDaemon.Transport.Submit
import AdbDaemon.Transport.UsbRead

/-!
# The link over USB packets

Reference: `packages/transport/src/connection/usb.rs`, `packages/transport/src/transport.rs`,
`packages/transport/src/socket.rs`.

`wireMachine` is the host of `linkMachine` over its USB endpoints: what it submits goes out in
packets, from which the device puts messages together, and the messages of the device come in
packets, which fill the buffers of the reader. `wire_simulation` matches its steps by those of
`linkMachine`, so whatever holds of the streams over messages holds of them over packets
(`wire_streams_intact`).

The input side of the connection is kept apart from the host: only `poll_read_message` touches it.
-/

namespace AdbDaemon.Transport

open Common

/-! ## The machine -/

/-- The host, the packets on the wire in both directions, what the device has put together so far,
and the ids it was told. -/
structure WireSt where
  host : TransportBackend
  inEndpoint : InEndpoint
  inHeader : Option AdbMessageHeader
  /-- Packets of the device that the endpoint has not received. -/
  toHost : List (List UInt8)
  /-- Packets that the device has not received. -/
  toDevice : List (List UInt8)
  /-- Packets that the device has received and not put together. -/
  got : List (List UInt8)
  /-- The ids the device has been told. -/
  told : List UInt32

/-- The steps of the host, of its reader task, of the device and of the wire. -/
inductive WireAct where
  /-- A step of the host other than one of its reader task. -/
  | host (a : HostAct)
  /-- The next packet reaches the endpoint. -/
  | packetIn
  /-- The reader task polls for a message and dispatches it. -/
  | read
  /-- The next packet reaches the device. -/
  | packetOut
  | send (msg : AdbMessage)

/-- What happens at the level of messages. -/
abbrev WireEvent : Type := Option LinkEvent

/-- The packets of the transfers on the endpoint. -/
def TransportBackend.submitted (b : TransportBackend) : List (List UInt8) :=
  match b.shared.connection with
  | none => []
  | some c => c.outEndpoint.submitted.flatMap (transferPackets c.packetSize)

namespace WireSt

/-- A new connection, and nothing on the wire. -/
def new (packetSize : Nat) : WireSt where
  host := TransportBackend.new (UsbConnection.new packetSize)
  inEndpoint := ⟨[], []⟩
  inHeader := none
  toHost := []
  toDevice := []
  got := []
  told := []

/-- The connection with its input side. -/
def input (s : WireSt) (c : UsbConnection) : UsbConnection :=
  { c with inEndpoint := s.inEndpoint, inHeader := s.inHeader }

/-- The reader task, at `read_message_async` and then `handle_message`. -/
def read (s : WireSt) : Option (WireSt × WireEvent) :=
  match s.host.shared.connection, s.host.removing with
  | some c, none =>
    let (res, c) := (s.input c).pollReadMessage
    let s := { s with inEndpoint := c.inEndpoint, inHeader := c.inHeader }
    match res with
    | .pending => some (s, none)
    | .ready (.error err) => some ({ s with host := s.host.fail err }, none)
    | .ready (.ok msg) =>
      match hostMachine.step s.host (.dispatch msg) with
      | none => none
      | some (host, e) => some ({ s with host }, some ⟨e, []⟩)
  | _, _ => none

/-- The device receives a packet; with the last one of a message it has the message. -/
def packetOut (s : WireSt) (packetSize : Nat) : Option (WireSt × WireEvent) :=
  match s.toDevice with
  | [] => none
  | p :: toDevice =>
    match decode packetSize (s.got ++ [p]) with
    | some [msg] =>
      let told := if msg.announces then msg.header.arg0 :: s.told else s.told
      some ({ s with toDevice, got := [], told }, some ⟨.internal, receiveStreams msg⟩)
    | _ => some ({ s with toDevice, got := s.got ++ [p] }, none)

/-- One step; the packets of a message travel one by one. -/
def step (packetSize : Nat) (s : WireSt) : WireAct → Option (WireSt × WireEvent)
  | .host a =>
    if a.isDispatch then none
    else
      match hostMachine.step s.host a with
      | none => none
      | some (host, e) =>
        -- all that was submitted before has been handed back
        let packets := if e.sent = [] then [] else host.submitted
        some ({ s with host, toDevice := s.toDevice ++ packets }, some ⟨e, e.streams s.host⟩)
  | .packetIn =>
    match s.toHost with
    | [] => none
    | p :: toHost =>
      match s.inEndpoint.receive packetSize p with
      | none => none
      | some inEndpoint => some ({ s with inEndpoint, toHost }, none)
  | .read => s.read
  | .packetOut => s.packetOut packetSize
  | .send msg =>
    if WellFormed msg ∧ (msg.isReply = true → msg.header.arg1 ∈ s.told) then
      some ({ s with toHost := s.toHost ++ messagePackets packetSize msg },
        some ⟨.internal, sendStreams msg⟩)
    else none

end WireSt

/-- The host and its device, with the packets between them. -/
def wireMachine (packetSize : Nat) : Machine WireSt WireAct WireEvent := ⟨WireSt.step packetSize⟩

/-- Every service that is opened fits. -/
def WireAct.Serves : WireAct → Prop
  | .host a => ServiceFits a
  | _ => True

instance : (a : WireAct) → Decidable a.Serves
  | .host a => inferInstanceAs (Decidable (ServiceFits a))
  | .packetIn | .read | .packetOut | .send _ => .isTrue trivial

/-- The id of a new socket is not the one after the last. -/
def WireEvent.Unwrapped (b : TransportBackend) : WireEvent → Prop
  | some e => IdNotWrapped b e.host
  | none => True

instance (b : TransportBackend) : (e : WireEvent) → Decidable (WireEvent.Unwrapped b e)
  | some e => inferInstanceAs (Decidable (IdNotWrapped b e.host))
  | none => .isTrue trivial

/-- The schedules in which the host does not run out of ids and opens services that fit. -/
def servingWire (packetSize : Nat) : Machine WireSt WireAct WireEvent :=
  (wireMachine packetSize).restrict fun s a e => WireEvent.Unwrapped s.host e ∧ a.Serves

/-! ## What the device puts together -/

/-- All packets of a frame but the last are full. -/
theorem length_of_frame {P : Nat} (hP : 0 < P) {bytes : List UInt8} {pre post : List (List UInt8)}
    (h : frame P bytes = pre ++ post) (hpost : post ≠ []) : ∀ p ∈ pre, p.length = P := by
  induction pre generalizing bytes with
  | nil => simp
  | cons p pre ih =>
    obtain hlt | hge := Nat.lt_or_ge bytes.length P
    · rw [frame_of_length_lt hlt, List.cons_append, List.cons.injEq] at h
      exact absurd (List.append_eq_nil_iff.mp h.2.symm).2 hpost
    · rw [frame_of_length_ge hP hge, List.cons_append, List.cons.injEq] at h
      intro q hq
      obtain rfl | hq := List.mem_cons.mp hq
      · rw [← h.1, List.length_take]
        omega
      · exact ih h.2 q hq

/-- Full packets are put together to no transfer. -/
theorem splitTransfers_full {P : Nat} (buf : List UInt8) {ps : List (List UInt8)}
    (h : ∀ p ∈ ps, p.length = P) : splitTransfers P buf ps = ([], buf ++ ps.flatten) := by
  induction ps generalizing buf with
  | nil => simp [splitTransfers]
  | cons p ps ih =>
    have hp : ¬ p.length < P := by
      rw [h p (.head _)]
      omega
    rw [splitTransfers, if_neg hp, ih _ fun q hq => h q (.tail _ hq), List.flatten_cons,
      List.append_assoc]

/-- The packets of a message are decoded as the message. -/
theorem decode_messageFrames {P : Nat} (hP : 0 < P) {m : AdbMessage} (hm : WellFormed m) :
    decode P (messageFrames P m) = some [m] := by
  have hread : readMessages ([m].flatMap messageTransfers) = some [m] :=
    readMessages_transfers (by simpa using hm)
  rw [List.flatMap_singleton] at hread
  rw [decode, messageFrames, split_frames hP]
  exact hread

/-- The packets of a message: the header, and the payload if there is one. -/
theorem messageFrames_eq {P : Nat} (hP : AdbMessageHeader.LENGTH < P) (m : AdbMessage) :
    messageFrames P m = m.header.toVec :: if m.payload = [] then [] else frame P m.payload := by
  have hheader : frame P m.header.toVec = [m.header.toVec] :=
    frame_of_length_lt (by rwa [AdbMessageHeader.length_toVec])
  by_cases hnil : m.payload = []
  · simp [messageFrames, messageTransfers, hheader, hnil]
  · simp [messageFrames, messageTransfers, hheader, hnil]

/-- A message that has not come to its end is put together to nothing. -/
theorem decode_partial {P : Nat} (hP : AdbMessageHeader.LENGTH < P) {m : AdbMessage}
    (hm : WellFormed m) {pre post : List (List UInt8)} (h : messageFrames P m = pre ++ post)
    (hpre : pre ≠ []) (hpost : post ≠ []) : decode P pre = none := by
  obtain ⟨p, pre, rfl⟩ := List.exists_cons_of_ne_nil hpre
  rw [messageFrames_eq hP, List.cons_append, List.cons.injEq] at h
  obtain ⟨rfl, h⟩ := h
  by_cases hnil : m.payload = []
  · rw [if_pos hnil] at h
    exact absurd (List.append_eq_nil_iff.mp h.symm).2 hpost
  · rw [if_neg hnil] at h
    have hshort : m.header.toVec.length < P := by rwa [AdbMessageHeader.length_toVec]
    have hfull := length_of_frame (Nat.zero_lt_of_lt hP) h hpost
    rw [decode, splitTransfers, if_pos hshort, splitTransfers_full [] hfull]
    cases pre with
    | nil =>
      have hpos : m.header.dataLength ≠ 0 := by
        intro hzero
        rw [WellFormed, hzero] at hm
        exact hnil (List.length_eq_zero_iff.mp hm.symm)
      simp [readMessages, AdbMessageHeader.read_toVec, hpos]
    | cons q pre =>
      have hq := hfull q (.head _)
      obtain ⟨b, bs, rfl⟩ : ∃ b bs, q = b :: bs := by
        apply List.exists_cons_of_length_pos
        omega
      rfl

/-! ## The packets carry the messages -/

/-- The device sends another message: its packets go behind those on the wire, and the configuration
of the reader stays. -/
theorem Stage.send {P : Nat} {rest : List AdbMessage} {e : InEndpoint}
    {h : Option AdbMessageHeader} {wire : List (List UInt8)} (hst : Stage P rest e h wire)
    (msg : AdbMessage) : Stage P (rest ++ [msg]) e h (wire ++ messagePackets P msg) := by
  have hwire : ∀ rest, wireOf P rest ++ messagePackets P msg = wireOf P (rest ++ [msg]) := by
    intro rest
    simp [wireOf]
  cases hst with
  | idle rest =>
    rw [hwire]
    exact .idle _
  | header rest =>
    rw [hwire]
    exact .header _
  | headerDone m rest len hlen =>
    rw [List.append_assoc, hwire]
    exact .headerDone m _ len hlen
  | payload m rest got todo hm hgot htodo =>
    rw [List.append_assoc, hwire]
    exact .payload m _ got todo hm hgot htodo
  | payloadDone m rest =>
    rw [hwire]
    exact .payloadDone m _
  | bothDone m m' rest =>
    rw [List.append_assoc, hwire]
    exact .bothDone m m' _

/-- What the packets on their way and the buffers of the reader carry. -/
structure WireRel (P : Nat) (s : WireSt) (t : LinkSt) : Prop where
  host : t.host = s.host
  told : t.told = s.told
  out : OutLaw P s.host.shared
  fits : UnsentFit s.host
  isNew : UnsentNew s.host
  /-- The device is somewhere in the packets of the first message. -/
  toDevice : s.got ++ s.toDevice = t.toDevice.flatMap (messageFrames P)
  formedOut : ∀ m ∈ t.toDevice, WellFormed m
  got : s.got = [] ∨ ∃ m rest post, t.toDevice = m :: rest ∧ messageFrames P m = s.got ++ post ∧
    post ≠ []
  toHost : s.host.shared.connection ≠ none → Stage P t.toHost s.inEndpoint s.inHeader s.toHost
  formedIn : ∀ m ∈ t.toHost, WellFormed m

theorem wireRel_new (P : Nat) : WireRel P (WireSt.new P) (LinkSt.new (UsbConnection.new P)) where
  host := rfl
  told := rfl
  out := by
    intro c hc
    obtain rfl : UsbConnection.new P = c := Option.some.inj hc
    exact ⟨rfl, Nat.le_refl _⟩
  fits := ⟨by simp [WireSt.new, TransportBackend.new], by simp [WireSt.new, TransportBackend.new]⟩
  isNew := .new _
  toDevice := rfl
  formedOut := by simp [LinkSt.new]
  got := .inl rfl
  toHost := fun _ => .idle []
  formedIn := by simp [LinkSt.new]

section
variable {P : Nat} {s s' : WireSt} {t : LinkSt} {e : WireEvent}

/-- The packets that a step of the host puts on their way are those of its message. -/
theorem submitted_of_puts (hP : AdbMessageHeader.LENGTH < P) (hmax : P < 2 ^ 32)
    {b b' : TransportBackend} {sent : List AdbMessage} (h : Puts P b.shared b'.shared sent)
    (hformed : ∀ m ∈ sent, WellFormed m) :
    (if sent = [] then [] else b'.submitted) = sent.flatMap (messageFrames P) := by
  obtain rfl | ⟨m, rfl, c, c', hpend, -, hsize, hput, hconn⟩ := h.sent
  · rfl
  · rw [if_neg (List.cons_ne_nil _ _), List.flatMap_singleton]
    subst hsize
    obtain ⟨c'', hput', hsize', hsub⟩ :=
      writeMessage_submits hpend hP hmax (hformed m (List.mem_singleton_self _))
    cases hput.symm.trans hput'
    rw [TransportBackend.submitted, hconn]
    simp only
    rw [hsize', hsub]

/-- A step of the host other than one of its reader task. -/
theorem WireRel.host_step (hP : AdbMessageHeader.LENGTH < P) (hmax : P < 2 ^ 32) (h : WireRel P s t)
    {a : HostAct} {host : TransportBackend} {e : HostEvent} (hdispatch : a.isDispatch = false)
    (hfits : ServiceFits a) (hs : hostMachine.step s.host a = some (host, e)) :
    ∃ t', linkMachine.step t (.host a) = some (t', ⟨e, e.streams s.host⟩) ∧
      WireRel P
        { s with host, toDevice := s.toDevice ++ if e.sent = [] then [] else host.submitted }
        t' := by
  have hputs := host_puts h.out hs
  have hstep := hostStep_of_step hs
  have hformed : ∀ m ∈ e.sent, WellFormed m := fun m hm =>
    (h.isNew.sent hstep hm).wellFormed (h.fits.sent hstep hm)
  refine ⟨{ t with host, toDevice := t.toDevice ++ e.sent }, ?_, ?_⟩
  · show LinkSt.step t (.host a) = _
    rw [LinkSt.step, if_neg (by simp [hdispatch]), h.host, hs]
  · refine ⟨rfl, h.told, hputs.law, h.fits.step hs hfits, h.isNew.step hstep, ?_, ?_, ?_, ?_,
      h.formedIn⟩
    · rw [submitted_of_puts hP hmax hputs hformed, ← List.append_assoc, h.toDevice,
        List.flatMap_append]
    · intro m hm
      obtain hm | hm := List.mem_append.mp hm
      · exact h.formedOut m hm
      · exact hformed m hm
    · obtain hnil | ⟨m, rest, post, ht, hpost⟩ := h.got
      · exact .inl hnil
      · refine .inr ⟨m, rest ++ e.sent, post, ?_, hpost⟩
        rw [ht, List.cons_append]
    · exact fun hconn => h.toHost fun hnone => hconn (hputs.gone hnone)

/-- A dispatch of the reader task. -/
theorem WireRel.deliver (h : WireRel P s t) {msg : AdbMessage} {rest : List AdbMessage}
    {host : TransportBackend} {e : HostEvent} (ht : t.toHost = msg :: rest)
    (hs : hostMachine.step s.host (.dispatch msg) = some (host, e)) :
    ∃ t', linkMachine.step t .deliver = some (t', ⟨e, []⟩) ∧
      ∀ inEndpoint inHeader, Stage P rest inEndpoint inHeader s.toHost →
        WireRel P { s with host, inEndpoint, inHeader } t' := by
  have hputs := host_puts h.out hs
  have hstep := hostStep_of_step hs
  refine ⟨{ t with host, toHost := rest }, ?_, fun inEndpoint inHeader hst => ?_⟩
  · show LinkSt.step t .deliver = _
    rw [LinkSt.step, ht]
    simp only [h.host, hs]
  · exact ⟨rfl, h.told, hputs.law, h.fits.step hs trivial, h.isNew.step hstep, h.toDevice,
      h.formedOut, h.got, fun _ => hst, fun m hm => h.formedIn m (ht ▸ List.mem_cons_of_mem _ hm)⟩

/-- What a step of the wire is at the level of messages: a step of the link, or nothing. -/
def LinkMatch (P : Nat) (s' : WireSt) (t : LinkSt) : WireEvent → Prop
  | none => WireRel P s' t
  | some e => ∃ a t', linkMachine.step t a = some (t', e) ∧ WireRel P s' t'

/-- The reader task polls: with a whole message in its buffers it dispatches, which is a delivery of
the link, and otherwise only buffers move. -/
theorem WireRel.read_step (h : WireRel P s t) (hs : s.read = some (s', e)) :
    LinkMatch P s' t e := by
  unfold WireSt.read at hs
  split at hs
  · rename_i c hconn hidle
    have hsize := (h.out c hconn).1
    have hst := h.toHost (by simp [hconn])
    obtain ⟨-, hpoll⟩ := poll_stage h.formedIn (s.input c) hsize hst
    obtain ⟨m, rest, ht, hres, hst'⟩ | ⟨hres, hst', -⟩ := hpoll
    · -- a message is complete
      simp only [hres] at hs
      split at hs
      · cases hs
      · rename_i host e hdispatch
        cases hs
        obtain ⟨t', hdeliver, hrel⟩ := h.deliver ht hdispatch
        exact ⟨.deliver, t', hdeliver, hrel _ _ hst'⟩
    · simp only [hres] at hs
      cases hs
      exact { h with toHost := fun _ => hst' }
  · cases hs

/-- A packet that reaches the endpoint moves nothing at the level of messages. -/
theorem WireRel.packetIn_step (hP : AdbMessageHeader.LENGTH < P) (h : WireRel P s t)
    (hs : s.step P .packetIn = some (s', e)) : LinkMatch P s' t e := by
  simp only [WireSt.step] at hs
  split at hs
  · cases hs
  · rename_i p wire hwire
    split at hs
    · cases hs
    · rename_i inEndpoint hrecv
      cases hs
      refine { h with toHost := fun hconn => ?_ }
      have hst := h.toHost hconn
      rw [hwire] at hst
      exact receive_stage (Nat.le_of_lt hP) h.formedIn hst hrecv

/-- The next packet is one of the first message on its way. -/
theorem WireRel.head (hP : AdbMessageHeader.LENGTH < P) (h : WireRel P s t) {p : List UInt8}
    {toDevice : List (List UInt8)} (hwire : s.toDevice = p :: toDevice) :
    ∃ m rest post, t.toDevice = m :: rest ∧ messageFrames P m = s.got ++ p :: post := by
  have hall := h.toDevice
  rw [hwire] at hall
  obtain ⟨m, rest, q, post, ht, hm⟩ : ∃ m rest q post, t.toDevice = m :: rest ∧
      messageFrames P m = s.got ++ q :: post := by
    obtain hnil | ⟨m, rest, post, ht, hm, hpost⟩ := h.got
    · cases ht : t.toDevice with
      | nil => simp [ht] at hall
      | cons m rest =>
        rw [hnil]
        exact ⟨m, rest, _, _, rfl, messageFrames_eq hP m⟩
    · obtain ⟨q, post, rfl⟩ := List.exists_cons_of_ne_nil hpost
      exact ⟨m, rest, q, post, ht, hm⟩
  rw [ht, List.flatMap_cons, hm, List.append_assoc, List.cons_append] at hall
  obtain ⟨rfl, -⟩ := List.cons.inj (List.append_cancel_left hall)
  exact ⟨m, rest, post, ht, hm⟩

/-- A packet that reaches the device is a message received if it is the last one of it, and nothing
otherwise. -/
theorem WireRel.packetOut_step (hP : AdbMessageHeader.LENGTH < P) (h : WireRel P s t)
    (hs : s.packetOut P = some (s', e)) : LinkMatch P s' t e := by
  unfold WireSt.packetOut at hs
  split at hs
  · cases hs
  · rename_i p toDevice hwire
    obtain ⟨m, rest, post, ht, hm⟩ := h.head hP hwire
    have hformed := h.formedOut m (ht ▸ List.mem_cons_self)
    have hrest : toDevice = post ++ rest.flatMap (messageFrames P) := by
      have hall := h.toDevice
      rw [hwire, ht, List.flatMap_cons, hm, List.append_assoc, List.cons_append] at hall
      exact (List.cons.inj (List.append_cancel_left hall)).2
    obtain rfl | hpost := eq_or_ne post []
    · -- it is the last of them
      have hdecode : decode P (s.got ++ [p]) = some [m] := by
        rw [← hm]
        exact decode_messageFrames (Nat.zero_lt_of_lt hP) hformed
      rw [hdecode] at hs
      cases hs
      refine ⟨.receive, { t with
        toDevice := rest
        told := if m.announces then m.header.arg0 :: t.told else t.told }, ?_, ?_⟩
      · show LinkSt.step t .receive = _
        rw [LinkSt.step, ht]
      · refine { h with
          told := by simp only [h.told]
          toDevice := ?_
          formedOut := fun m' hm' => h.formedOut m' (ht ▸ List.mem_cons_of_mem _ hm')
          got := .inl rfl }
        simpa using hrest
    · have hdecode : decode P (s.got ++ [p]) = none := by
        have hcut : messageFrames P m = (s.got ++ [p]) ++ post := by
          rw [hm, List.append_assoc, List.singleton_append]
        exact decode_partial hP hformed hcut (by simp) hpost
      rw [hdecode] at hs
      cases hs
      refine { h with
        toDevice := ?_
        got := .inr ⟨m, rest, post, ht, ?_, hpost⟩ }
      · rw [List.append_assoc, List.singleton_append, ← hwire]
        exact h.toDevice
      · rw [hm, List.append_assoc, List.singleton_append]

/-- A message of the device enters the wire with all its packets. -/
theorem WireRel.send_step (h : WireRel P s t) {msg : AdbMessage}
    (hs : s.step P (.send msg) = some (s', e)) : LinkMatch P s' t e := by
  simp only [WireSt.step, Option.ite_none_right_eq_some, Option.some.injEq, Prod.mk.injEq] at hs
  obtain ⟨⟨hformed, htold⟩, rfl, rfl⟩ := hs
  refine ⟨.send msg, { t with toHost := t.toHost ++ [msg] }, ?_, ?_⟩
  · show LinkSt.step t (.send msg) = _
    rw [LinkSt.step, if_pos (by rwa [h.told])]
  · refine { h with
      toHost := fun hconn => (h.toHost hconn).send msg
      formedIn := fun m hm => ?_ }
    obtain hm | hm := List.mem_append.mp hm
    · exact h.formedIn m hm
    · rw [List.mem_singleton.mp hm]
      exact hformed

/-- Every step over packets is matched by one of the link, or by none. -/
theorem WireRel.step (hP : AdbMessageHeader.LENGTH < P) (hmax : P < 2 ^ 32) (h : WireRel P s t)
    {a : WireAct} (hs : s.step P a = some (s', e)) (hserves : a.Serves) : LinkMatch P s' t e := by
  cases a with
  | host a =>
    simp only [WireSt.step] at hs
    split at hs
    · cases hs
    · rename_i hdispatch
      split at hs
      · cases hs
      · rename_i host e hstep
        cases hs
        obtain ⟨t', hlink, hrel⟩ := h.host_step hP hmax (by simpa using hdispatch) hserves hstep
        exact ⟨.host a, t', hlink, hrel⟩
  | packetIn => exact h.packetIn_step hP hs
  | read => exact h.read_step hs
  | packetOut => exact h.packetOut_step hP hs
  | send msg => exact h.send_step hs

end

/-- The packets are simulated by the messages. -/
theorem wire_simulation {P : Nat} (hP : AdbMessageHeader.LENGTH < P) (hmax : P < 2 ^ 32) :
    Machine.Simulation (servingWire P) unwrappedLink Option.toList (WireRel P) where
  step := by
    intro s s' t a e hrel hs
    obtain ⟨hs, hwrap, hserves⟩ := Machine.restrict_step.mp hs
    have hmatch := hrel.step hP hmax hs hserves
    cases e with
    | none => exact ⟨t, .nil, hmatch⟩
    | some e =>
      obtain ⟨a', t', hlink, hrel'⟩ := hmatch
      refine ⟨t', .single (a := a') ?_, hrel'⟩
      exact Machine.restrict_step.mpr ⟨hlink, by rw [hrel.host]; exact hwrap⟩

/-! ## What arrives -/

namespace WireRel
variable {P : Nat} {s : WireSt} {t : LinkSt}

/-- The device puts together everything that it receives. -/
theorem toDevice_nil (hP : AdbMessageHeader.LENGTH < P) (h : WireRel P s t) (hs : s.toDevice = []) :
    t.toDevice = [] := by
  have hall := h.toDevice
  rw [hs, List.append_nil] at hall
  obtain hnil | ⟨m, rest, post, ht, hm, hpost⟩ := h.got
  · cases ht : t.toDevice with
    | nil => rfl
    | cons m rest => simp [hnil, ht, messageFrames_eq hP] at hall
  · rw [ht, List.flatMap_cons, hm, List.append_assoc, List.self_eq_append_right,
      List.append_eq_nil_iff] at hall
    exact absurd hall.1 hpost

end WireRel

/-- **What arrives in packets.** In every schedule of the tasks and of the packets: at either end of
every stream the bytes read are a prefix of the bytes written at the other end, and the end of a
stream is told only after all of its bytes, as in `StreamsIntact`. A device that has received every
packet has read everything that was written, and when every packet has reached the host and every
completed buffer its reader, an open socket has buffered whatever was not read. -/
structure PacketsIntact (s : WireSt) (acts : List StreamEvent) : Prop where
  inOrder : ∀ d, PipeAct.taken (actsOf d acts) <+: PipeAct.written (actsOf d acts)
  deviceEnd : ∀ id pre post, acts = pre ++ (.toDevice id, .eof) :: post →
    PipeAct.taken (actsOf (.toDevice id) pre) = PipeAct.written (actsOf (.toDevice id) acts)
  hostEnd : ∀ id pre post, acts = pre ++ (.toHost id, .eof) :: post →
    (actsOf (.toHost id) pre).any PipeAct.isAbandon = false →
      PipeAct.taken (actsOf (.toHost id) pre) = PipeAct.written (actsOf (.toHost id) acts)
  deviceDrained : s.toDevice = [] → ∀ id,
    PipeAct.taken (actsOf (.toDevice id) acts) = PipeAct.written (actsOf (.toDevice id) acts)
  hostDrained : s.host.shared.connection ≠ none → s.toHost = [] → s.inEndpoint.completed = [] →
    ∀ (r : Nat) (k : Sock), s.host.backends[r]? = some k → k.phase ≠ .dropped →
      k.state.closed = false →
        PipeAct.taken (actsOf (.toHost k.localId) acts) ++ k.state.unread =
          PipeAct.written (actsOf (.toHost k.localId) acts)

/-- **The link over packets carries the streams.** -/
theorem wire_streams_intact (P : Nat) (hP : AdbMessageHeader.LENGTH < P) (hmax : P < 2 ^ 32)
    (tr : List WireEvent) (s : WireSt) (hrun : (servingWire P).Run (WireSt.new P) tr s) :
    PacketsIntact s ((tr.flatMap Option.toList).flatMap LinkEvent.streams) := by
  obtain ⟨t, hlink, hwire⟩ := (wire_simulation hP hmax).run (wireRel_new P) hrun
  obtain ⟨p, hpipes, hrel⟩ := link_simulation.run (linkRel_new _) hlink
  have hintact := hrel.intact hpipes (not_abandoned_of_run hlink)
  refine ⟨hintact.inOrder, hintact.deviceEnd, hintact.hostEnd, fun hnil id => ?_,
    fun hconn hnil hdone r k hr hph hcl => ?_⟩
  · have hrest := hintact.deviceRest id
    rwa [hwire.toDevice_nil hP hnil, show wrteFrom id [] = [] from rfl, List.append_nil] at hrest
  · have hto : t.toHost = [] := (hwire.toHost hconn).rest_nil (Nat.le_of_lt hP) hnil hdone
    have hrest := hintact.hostRest r k (hwire.host ▸ hr) hph hcl
    rwa [hto, show PipeAct.written (inFlight k.localId []) = [] from rfl, List.append_nil] at hrest

/-- The streams of this run are intact. -/
theorem wire_streams_intact_closedStream : ∃ s, PacketsIntact s closedStream := by
  obtain ⟨s, tr, hrun, htest⟩ := Machine.exists_run_of_exec (M := servingWire 64)
    (s := WireSt.new 64)
    [.host (.openSocket "x"), .host (.sock 0 .poll), .host (.complete (.ok ())),
      .host (.complete (.ok ())), .host (.sock 0 .poll), .packetOut, .packetOut, .read,
      .send (AdbMessage.new .OKAY 7 1 (toLeBytes 100)), .packetIn, .read, .packetIn, .read,
      .host (.sock 0 .poll), .host (.sock 0 (.write [9, 8] true)), .packetOut, .packetOut,
      .send (AdbMessage.new .WRTE 7 1 [1, 2]), .send (AdbMessage.new .CLSE 7 1 []), .packetIn,
      .read, .packetIn, .packetIn, .read, .read, .host .removeClosed, .host (.complete (.ok ())),
      .host (.complete (.ok ())), .host (.sock 0 (.read 4)), .host (.sock 0 (.read 4))]
    (fun _ tr => decide ((tr.flatMap Option.toList).flatMap LinkEvent.streams = closedStream))
    (by decide +kernel)
  refine ⟨s, ?_⟩
  rw [← of_decide_eq_true htest]
  exact wire_streams_intact 64 (by decide) (by decide) tr s hrun

end AdbDaemon.Transport

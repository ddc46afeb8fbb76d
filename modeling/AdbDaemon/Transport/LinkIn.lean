import AdbDaemon.Transport.Link

/-!
# The streams to the host

Reference: `packages/transport/src/transport.rs`, `packages/transport/src/socket.rs`.

`InRel` says where the bytes of a stream to the host are: in the read buffer of its socket, and in
messages on their way. Every step of the link keeps it, with a pipe that takes the steps the link
shows.
-/

namespace AdbDaemon.Transport

open Common

/-! ## Where the bytes are -/

/-- What the messages in flight will do to a stream to the host. -/
def inFlight (id : UInt32) (msgs : List AdbMessage) : List (PipeAct UInt8) :=
  actsOf (.toHost id) (msgs.flatMap sendStreams)

/-- What is on its way, of two queues one after the other. -/
theorem inFlight_append (id : UInt32) (msgs msgs' : List AdbMessage) :
    inFlight id (msgs ++ msgs') = inFlight id msgs ++ inFlight id msgs' := by
  rw [inFlight, List.flatMap_append, actsOf_append, inFlight, inFlight]

theorem inFlight_singleton (id : UInt32) (msg : AdbMessage) :
    inFlight id [msg] = actsOf (.toHost id) (sendStreams msg) := by
  rw [inFlight, List.flatMap_singleton]

/-- A message that is not about the stream does nothing to it. -/
theorem inFlight_other {id : UInt32} {msg : AdbMessage}
    (h : msg.isReply = true → msg.header.arg1 ≠ id) : inFlight id [msg] = [] := by
  rw [inFlight_singleton, sendStreams]
  split
  · rename_i hcmd
    have hne := h (by simp [AdbMessage.isReply, hcmd])
    simp [actsOf, hne]
  · rename_i hcmd
    have hne := h (by simp [AdbMessage.isReply, hcmd])
    simp [actsOf, hne]
  · rfl

/-- An `OKAY` carries no bytes of the stream. -/
theorem inFlight_okay (id : UInt32) {msg : AdbMessage} (hcmd : msg.header.command = .OKAY) :
    inFlight id [msg] = [] := by
  simp [inFlight_singleton, sendStreams, hcmd, actsOf]

/-- A message writes to a stream, ends it, or does neither. -/
theorem inFlight_cases (id : UInt32) (msg : AdbMessage) :
    inFlight id [msg] = [] ∨ inFlight id [msg] = [.write msg.payload] ∨
      inFlight id [msg] = [.finish] := by
  rw [inFlight_singleton, sendStreams]
  split
  · rw [actsOf_singleton]
    split
    · exact .inr (.inl rfl)
    · exact .inl rfl
  · rw [actsOf_singleton]
    split
    · exact .inr (.inr rfl)
    · exact .inl rfl
  · exact .inl rfl

theorem inFlight_wrte {msg : AdbMessage} (hcmd : msg.header.command = .WRTE) :
    inFlight msg.header.arg1 [msg] = [.write msg.payload] := by
  simp [inFlight_singleton, sendStreams, hcmd, actsOf]

theorem inFlight_clse {msg : AdbMessage} (hcmd : msg.header.command = .CLSE) :
    inFlight msg.header.arg1 [msg] = [.finish] := by
  simp [inFlight_singleton, sendStreams, hcmd, actsOf]

/-- The pipe to the host: nothing of it exists before its socket; while messages are handed to the
socket, the pipe holds what the socket has buffered and what is in flight; later at least what the
socket has buffered. -/
inductive InRel (s : LinkSt) (id : UInt32) (q : Pipe UInt8) : Prop
  | unknown (hnot : ¬ s.host.Knows id) (hq : q = .empty)
  | attached {r : Nat} {k : Sock} (hr : s.host.backends[r]? = some k) (hid : k.localId = id)
      (hentry : s.host.sockets id = some r) (hrem : s.host.removing ≠ some id)
      (hqueue : q.queue = k.state.unread ++ PipeAct.written (inFlight id s.toHost))
      (hfin : q.finished = (inFlight id s.toHost).any PipeAct.isFinish)
      (hclosed : k.state.closed = true → q.abandoned = true)
  | detached {r : Nat} {k : Sock} (hr : s.host.backends[r]? = some k) (hid : k.localId = id)
      (hnot : s.host.sockets id = none ∨ s.host.removing = some id)
      (hqueue : k.state.unread <+: q.queue)
      (hend : k.phase = .dropped ∨ q.abandoned = true ∨
        k.state.closed = true ∧ q.finished = true ∧ q.queue = k.state.unread)

/-! ## Streams of one socket -/

/-- What a step of a socket does to the stream to the host. -/
inductive Takes (k : Sock) (st : State) (e : SockEvent) : Prop
  | nothing (hacts : actsOf (.toHost k.localId) (e.streams k.localId) = [])
      (hunread : st.unread = k.state.unread) (hclosed : st.closed = k.state.closed)
  | read {bytes : List UInt8}
      (hacts : actsOf (.toHost k.localId) (e.streams k.localId) = [.read bytes])
      (hbytes : bytes <+: k.state.unread) (hunread : st.unread = k.state.unread.drop bytes.length)
      (hclosed : st.closed = k.state.closed)
  | eof (hacts : actsOf (.toHost k.localId) (e.streams k.localId) = [.read [], .eof])
      (hphase : k.phase ≠ .dropped) (hnil : k.state.unread = []) (hunread : st.unread = [])
      (hwas : k.state.closed = true) (hclosed : st.closed = true)
  | shutdown (hacts : actsOf (.toHost k.localId) (e.streams k.localId) = [.abandon])
      (hunread : st.unread = k.state.unread)

/-- A read that finds nothing is told of the end. -/
theorem actsOf_toHost_read (localId : UInt32) (n : Nat) (bytes : List UInt8)
    (sent : List AdbMessage) :
    actsOf (.toHost localId) (SockEvent.streams localId (.read n (.ready (.ok bytes)) sent)) =
      .read bytes :: if 0 < n ∧ bytes = [] then [.eof] else [] := by
  simp only [SockEvent.streams]
  split <;> simp [actsOf]

/-- A read takes from the buffer, and finds it empty only after the end. -/
theorem takes_of_read {k : Sock} {n : Nat} {sent : List AdbMessage} (hph : k.phase = .idle)
    (h : 0 < n → k.state.readable n = [] → k.state.closed = true) :
    Takes k (k.state.afterRead n) (.read n (.ready (.ok (k.state.readable n))) sent) := by
  have hacts := actsOf_toHost_read k.localId n (k.state.readable n) sent
  have hunread := unread_afterRead k.state n
  by_cases heof : 0 < n ∧ k.state.readable n = []
  · have hnil : k.state.unread = [] := by
      obtain hzero | hnil := List.take_eq_nil_iff.mp heof.2
      · omega
      · exact hnil
    have hcl := h heof.1 heof.2
    rw [if_pos heof, heof.2] at hacts
    rw [heof.2]
    refine .eof hacts (by rw [hph]; simp) hnil ?_ hcl hcl
    rw [hunread, hnil, List.drop_nil]
  · rw [if_neg heof] at hacts
    refine .read hacts (List.take_prefix _ _) ?_ rfl
    rw [hunread, State.readable, List.length_take]
    obtain hle | hle := Nat.le_total n k.state.unread.length
    · rw [Nat.min_eq_left hle]
    · rw [Nat.min_eq_right hle, List.drop_eq_nil_of_le hle, List.drop_length]

/-- Every step of a socket takes from its buffer what it shows. -/
theorem SockStep.takes {k : Sock} {sh sh' : Shared} {st : State} {ph : Phase} {e : SockEvent}
    (h : SockStep k sh sh' st ph e) : Takes k st e := by
  cases h with
  | submit | pollWriting | opened | pollWaiting | shutdownFlush | close | closeLost | closePanic
  | markNone | dropNone =>
    exact .nothing rfl rfl rfl
  -- from here the host reads no more, whatever the device sends
  | mark | drop => exact .shutdown (by simp [SockEvent.streams, actsOf]) rfl
  | op hph hpoll hst =>
    cases e with
    | read n o sent =>
      cases hst with
      | readStopped ho =>
        refine .nothing ?_ rfl rfl
        cases o with
        | ready res =>
          cases res with
          | ok bytes => exact absurd rfl (ho bytes)
          | error => rfl
        | _ => rfl
      | readEmpty hcl hb =>
        refine .nothing rfl ?_ rfl
        obtain hzero | hnil := List.take_eq_nil_iff.mp hb
        · rw [unread_afterRead, hzero, List.drop_zero]
        · rw [unread_afterRead, hnil, List.drop_nil]
      | readClosed hcl => exact takes_of_read hph fun _ _ => hcl
      | readBytes hcl hb => exact takes_of_read hph fun _ h => absurd h hb
    | wrote buf o sent =>
      cases hst with
      | writeStopped ho =>
        exact .nothing (by rw [streams_wrote_stopped _ ho]; rfl) rfl rfl
      | write => exact .nothing (by simp [SockEvent.streams, actsOf]) rfl rfl
    | flushed o =>
      cases hst
      exact .nothing rfl rfl rfl
    | polled | waited | shutdownFlushed | shutdownMarked | shutdownWritten | dropped => cases hpoll

/-- The pipe can take such a step: it holds what the socket has buffered, followed by the same bytes
as before. -/
theorem Takes.exec {k : Sock} {st : State} {e : SockEvent} (h : Takes k st e) {q : Pipe UInt8}
    {rest : List UInt8} (hqueue : q.queue = k.state.unread ++ rest)
    (hend : k.phase ≠ .dropped → k.state.closed = true →
      q.abandoned = true ∨ q.finished = true ∧ rest = []) :
    ∃ q', q.exec (actsOf (.toHost k.localId) (e.streams k.localId)) = some q' ∧
      q'.queue = st.unread ++ rest ∧ q'.finished = q.finished ∧
      (q.abandoned = true → q'.abandoned = true) ∧
      (st.closed = true → k.state.closed = true ∨ q'.abandoned = true) := by
  cases h with
  | nothing hacts hunread hclosed =>
    refine ⟨q, by rw [hacts]; rfl, ?_, rfl, id, fun hcl => .inl (hclosed ▸ hcl)⟩
    rw [hqueue, hunread]
  | @read bytes hacts hbytes hunread hclosed =>
    have hle : bytes <+: q.queue := hqueue ▸ hbytes.trans (List.prefix_append _ _)
    refine ⟨{ q with queue := q.queue.drop bytes.length }, ?_, ?_, rfl, id,
      fun hcl => .inl (hclosed ▸ hcl)⟩
    · simp only [hacts, Pipe.exec, Pipe.step, if_pos hle, Option.bind_some]
    · rw [hunread, hqueue, List.drop_append_of_le_length hbytes.length_le]
  -- the socket is closed and has nothing unread, so by `hend` the pipe is at its end
  | eof hacts hphase hnil hunread hwas hclosed =>
    refine ⟨q, ?_, ?_, rfl, id, fun _ => .inl hwas⟩
    · have hdone : q.abandoned = true ∨ q.finished = true ∧ q.queue = [] := by
        refine (hend hphase hwas).imp_right fun h => ⟨h.1, ?_⟩
        rw [hqueue, hnil, h.2, List.append_nil]
      simp [hacts, Pipe.exec, Pipe.step, hdone]
    · rw [hqueue, hunread, hnil]
  | shutdown hacts hunread =>
    refine ⟨{ q with abandoned := true }, by rw [hacts]; rfl, ?_, rfl, fun _ => rfl,
      fun _ => .inr rfl⟩
    rw [hunread]
    exact hqueue

/-! ## A step of the host -/

section Host

variable {s : LinkSt} {host : TransportBackend} {e : HostEvent} {id : UInt32} {q : Pipe UInt8}

/-- Nothing is on its way for an id that no message names. -/
theorem inFlight_eq_nil {msgs : List AdbMessage}
    (h : ∀ m ∈ msgs, m.isReply = true → m.header.arg1 ≠ id) : inFlight id msgs = [] := by
  induction msgs with
  | nil => rfl
  | cons m msgs ih =>
    rw [← List.singleton_append, inFlight_append, inFlight_other (h m List.mem_cons_self),
      ih fun m' hm' => h m' (List.mem_cons_of_mem _ hm')]
    rfl

/-- A socket that gets no more messages gets none later. -/
theorem detached_step {b b' : TransportBackend} (h : HostStep b b' e) (hknown : id ≠ b.lastId)
    (hnot : b.sockets id = none ∨ b.removing = some id) :
    b'.sockets id = none ∨ b'.removing = some id := by
  cases hentry : b'.sockets id with
  | none => exact .inl rfl
  | some r =>
    obtain ⟨hold, hrem⟩ | ⟨-, hlast, -⟩ := h.table hentry
    · rw [hold] at hnot
      exact .inr (hrem (hnot.resolve_left (by simp)))
    · exact absurd hlast hknown

/-- The pipe of a socket in the table holds what is buffered and what is on its way. -/
theorem InRel.queue_of_entry {r : Nat} {k : Sock} (h : InRel s k.localId q)
    (htable : TableLaw s.host) (hr : s.host.backends[r]? = some k)
    (hentry : s.host.sockets k.localId = some r) (hrem : s.host.removing ≠ some k.localId) :
    q.queue = k.state.unread ++ PipeAct.written (inFlight k.localId s.toHost) := by
  cases h with
  | unknown hnot => exact absurd ⟨r, k, hr, rfl⟩ hnot
  | attached hr' hid' _ _ hqueue =>
    obtain ⟨-, rfl⟩ := htable.unique hr' hr hid'
    exact hqueue
  | detached hr' hid' hnot =>
    obtain hnone | hremoving := hnot
    · rw [hnone] at hentry
      cases hentry
    · exact absurd hremoving hrem

/-- Nothing of a stream exists before its socket, and the socket is created with an empty buffer. -/
theorem InRel.hostStep_unknown (hlaw : LinkLaw s) (hs : HostStep s.host host e)
    (hnot : ¬ s.host.Knows id) {toDevice : List AdbMessage} :
    actsOf (.toHost id) (e.streams s.host) = [] ∧
      InRel { s with host, toDevice } id .empty := by
  have hin : inFlight id s.toHost = [] := by
    refine inFlight_eq_nil fun m hm hreply hid => hnot ?_
    rw [← hid]
    exact hlaw.toHost m hm hreply
  refine ⟨(streams_of_other hs fun r k hr hid => (hnot ⟨r, k, hr, hid⟩).elim).1, ?_⟩
  by_cases hknows : host.Knows id
  · obtain ⟨r, k, hr, hid⟩ := hknows
    obtain ⟨hlen, rfl, hnew⟩ | ⟨k₀, hr₀, hid₀, -⟩ := hs.socket hr
    · obtain ⟨-, -, -, hentry⟩ | ⟨hne, -⟩ := hs.lastId
      · -- the id is that of the socket created in this step
        have hlast : k.localId = s.host.lastId := by cases hnew <;> rfl
        obtain ⟨rid, ack, hst⟩ := hnew.state
        refine .attached hr hid ?_ ?_ ?_ ?_ ?_
        · rw [← hid, hlast, hlen]
          exact hentry
        · intro hrem
          obtain hold | hnone := hs.removing (by simp)
          · obtain ⟨r', k', hr', hid', -⟩ := hlaw.table.removing id (hold.symm.trans hrem)
            exact hnot ⟨r', k', hr', hid'⟩
          · rw [hnone] at hrem
            cases hrem
        · simp [Pipe.empty, hst, State.unread, State.new, hin, PipeAct.written]
        · simp [Pipe.empty, hin]
        · simp [hst, State.new]
      · exact absurd rfl (hne r)
    · exact absurd ⟨r, k₀, hr₀, hid₀.symm.trans hid⟩ hnot
  · exact .unknown hknows rfl

/-- A step of the task of a socket that is handed messages. -/
theorem InRel.hostStep_sock (hlaw : LinkLaw s) {r : Nat} {k : Sock} {e' : SockEvent}
    (hs : HostStep s.host host (.sock r e')) (hr : s.host.backends[r]? = some k)
    (hid : k.localId = id) (h : InRel s id q) {toDevice : List AdbMessage} :
    ∃ q', q.exec (actsOf (.toHost id) (e'.streams id)) = some q' ∧
      InRel { s with host, toDevice } id q' := by
  obtain ⟨k₀, k', hr₀, hr', hid', hsock⟩ := hs.of_sock
  obtain rfl : k₀ = k := Option.some.inj (hr₀.symm.trans hr)
  subst hid
  have hmono := (hsock.stateStep).closed_mono
  cases h with
  | unknown hnot => exact absurd ⟨r, k₀, hr, rfl⟩ hnot
  | @attached r₁ k₁ hr₁ hid₁ hentry hrem hqueue hfin hclosed =>
    obtain ⟨rfl, rfl⟩ := hlaw.table.unique hr₁ hr hid₁
    obtain ⟨q', hexec, hqueue', hfin', hab', hcl'⟩ :=
      hsock.takes.exec hqueue fun _ hcl => .inl (hclosed hcl)
    refine ⟨q', hexec, ?_⟩
    -- a drop takes the entry out of the table, any other step leaves it
    by_cases hdrop : ∃ m, e' = .dropped m
    · obtain ⟨m, rfl⟩ := hdrop
      refine .detached hr' hid' (.inl (hs.sockets_of_dropped hr)) ?_ (.inl (hsock.of_dropped rfl).1)
      rw [hqueue']
      exact List.prefix_append _ _
    · refine .attached hr' hid' ?_ ?_ hqueue' (hfin'.trans hfin) ?_
      · obtain hkept | ⟨-, he⟩ | ⟨r₂, k₂, m, -, -, he⟩ | hrem' := hs.table_kept k₁.localId
        · exact hkept.trans hentry
        · cases he
        · cases he
          exact absurd ⟨m, rfl⟩ hdrop
        · exact absurd hrem' hrem
      · obtain hold | hnone := hs.removing (by simp)
        · rw [hold]
          exact hrem
        · simp [hnone]
      · intro hcl
        obtain hwas | hab := hcl' hcl
        · exact hab' (hclosed hwas)
        · exact hab
  | @detached r₁ k₁ hr₁ hid₁ hnot hqueue hend =>
    obtain ⟨rfl, rfl⟩ := hlaw.table.unique hr₁ hr hid₁
    obtain ⟨rest, hrest⟩ := hqueue
    have hlive := hsock.not_dropped
    have hend := hend.resolve_left hlive
    have hdone : q.abandoned = true ∨ q.finished = true ∧ rest = [] := by
      refine hend.imp_right fun h => ⟨h.2.1, ?_⟩
      rw [h.2.2] at hrest
      exact List.append_right_eq_self.mp hrest
    obtain ⟨q', hexec, hqueue', hfin', hab', hcl'⟩ := hsock.takes.exec hrest.symm fun _ _ => hdone
    refine ⟨q', hexec, .detached hr' hid' (detached_step hs (hlaw.table.ne_lastId hr) hnot)
      ⟨rest, hqueue'.symm⟩ (.inr ?_)⟩
    obtain hab | ⟨hcl, hfin, hnil⟩ := hend
    · exact .inl (hab' hab)
    · refine .inr ⟨hmono hcl, hfin'.trans hfin, ?_⟩
      rw [hnil] at hrest
      rw [hqueue', List.append_right_eq_self.mp hrest, List.append_nil]

/-- A step that is not one of the socket leaves the pipe as it is. -/
theorem InRel.hostStep_other (hlaw : LinkLaw s) (hs : HostStep s.host host e)
    (hnot : ∀ r msg, e ≠ .handled r msg)
    (hother : ∀ (r : Nat) (k : Sock), s.host.backends[r]? = some k → k.localId = id →
      ∀ e', e ≠ .sock r e') (h : InRel s id q) {toDevice : List AdbMessage} :
    InRel { s with host, toDevice } id q := by
  -- the socket is where and as it was
  have hsame : ∀ {r : Nat} {k : Sock}, s.host.backends[r]? = some k → k.localId = id →
      host.backends[r]? = some k := by
    intro r k hr hid
    obtain ⟨k', hr', -, -⟩ := hs.backend hr
    obtain ⟨hlen, -, -⟩ | ⟨k₀, hr₀, -, hcase⟩ := hs.socket hr'
    · exact absurd hlen (List.getElem?_eq_some_iff.mp hr).1.ne
    · obtain rfl : k₀ = k := Option.some.inj (hr₀.symm.trans hr)
      obtain ⟨rfl, -⟩ | ⟨e', rfl, -⟩ | ⟨m, rfl, -⟩ := hcase
      · exact hr'
      · exact absurd rfl (hother r k₀ hr hid e')
      · exact absurd rfl (hnot r m)
  cases h with
  | unknown hunknown hq =>
    subst hq
    exact (hostStep_unknown hlaw hs hunknown).2
  | @attached r k hr hid hentry hrem hqueue hfin hclosed =>
    refine .attached (hsame hr hid) hid ?_ ?_ hqueue hfin hclosed
    · obtain hkept | ⟨hlast, -⟩ | ⟨r', k', m, hr', hid', he⟩ | hrem' := hs.table_kept id
      · exact hkept.trans hentry
      · exact absurd (hid.trans hlast) (hlaw.table.ne_lastId hr)
      · exact absurd he (hother r' k' hr' hid' _)
      · exact absurd hrem' hrem
    · obtain hold | hnone := hs.removing hnot
      · rw [hold]
        exact hrem
      · simp [hnone]
  | @detached r k hr hid hgone hqueue hend =>
    refine .detached (hsame hr hid) hid (detached_step hs ?_ hgone) hqueue hend
    rw [← hid]
    exact hlaw.table.ne_lastId hr

/-- A step of the host, of this socket or another. -/
theorem InRel.hostStep (h : InRel s id q) (hlaw : LinkLaw s) (hs : HostStep s.host host e)
    (hnot : ∀ r msg, e ≠ .handled r msg) {toDevice : List AdbMessage} :
    ∃ q', q.exec (actsOf (.toHost id) (e.streams s.host)) = some q' ∧
      InRel { s with host, toDevice } id q' := by
  by_cases hmine : ∃ (r : Nat) (k : Sock) (e' : SockEvent), s.host.backends[r]? = some k ∧
      k.localId = id ∧ e = .sock r e'
  · obtain ⟨r, k, e', hr, hid, rfl⟩ := hmine
    have hidOf : s.host.idOf r = id := by
      rw [TransportBackend.idOf, hr]
      exact hid
    simp only [HostEvent.streams, hidOf]
    exact h.hostStep_sock hlaw hs hr hid
  · have hother : ∀ (r : Nat) (k : Sock), s.host.backends[r]? = some k → k.localId = id →
        ∀ e', e ≠ .sock r e' := fun r k hr hid e' he => hmine ⟨r, k, e', hr, hid, he⟩
    refine ⟨q, ?_, h.hostStep_other hlaw hs hnot hother⟩
    rw [(streams_of_other hs hother).1]
    rfl

end Host

/-! ## A message on its way to the host -/

section ToHost

variable {s s' : LinkSt} {id : UInt32} {q : Pipe UInt8} {msg : AdbMessage}

/-- What matters of the state to a stream to the host. -/
theorem InRel.congr (h : InRel s id q) (hbackends : s'.host.backends = s.host.backends)
    (hsockets : s'.host.sockets = s.host.sockets) (hremoving : s'.host.removing = s.host.removing)
    (hin : inFlight id s'.toHost = inFlight id s.toHost) : InRel s' id q := by
  cases h with
  | unknown hnot hq =>
    refine .unknown ?_ hq
    rwa [TransportBackend.Knows, hbackends]
  | attached hr hid hentry hrem hqueue hfin hclosed =>
    refine .attached (hbackends ▸ hr) hid (hsockets ▸ hentry) (hremoving ▸ hrem) ?_ ?_ hclosed
    · rw [hin, hqueue]
    · rw [hin, hfin]
  | detached hr hid hnot hqueue hend =>
    exact .detached (hbackends ▸ hr) hid (by rwa [hsockets, hremoving]) hqueue hend

/-- A message moves from the link into the read buffer, or ends the stream. -/
theorem handled_inFlight {st st' : State} (hm : handleMessage msg st = .ready (.ok st'))
    (rest : List (PipeAct UInt8)) :
    (st'.closed = st.closed ∧
        st.unread ++ PipeAct.written (inFlight msg.header.arg1 [msg] ++ rest) =
          st'.unread ++ PipeAct.written rest ∧
        (inFlight msg.header.arg1 [msg] ++ rest).any PipeAct.isFinish =
          rest.any PipeAct.isFinish) ∨
      (st'.closed = true ∧
        st.unread ++ PipeAct.written (inFlight msg.header.arg1 [msg] ++ rest) = st'.unread ∧
        (inFlight msg.header.arg1 [msg] ++ rest).any PipeAct.isFinish = true) := by
  obtain ⟨hcmd, avail, -, rfl⟩ | ⟨hcmd, rfl⟩ | ⟨hcmd, rfl⟩ := handleMessage_cases _ hm
  · rw [inFlight_okay _ hcmd]
    exact .inl ⟨rfl, rfl, rfl⟩
  · rw [inFlight_wrte hcmd]
    refine .inl ⟨rfl, ?_, rfl⟩
    simp [State.unread, PipeAct.written]
  · rw [inFlight_clse hcmd]
    exact .inr ⟨rfl, List.append_nil _, rfl⟩

/-- The pipe of a socket that is handed the next message holds the same bytes as before. -/
theorem InRel.handled {toHost : List AdbMessage} {r : Nat} {k : Sock} {state : State}
    (h : InRel s msg.header.arg1 q) (hnames : TableNames s.host) (hto : s.toHost = msg :: toHost)
    (hidle : s.host.removing = none) (hentry : s.host.sockets msg.header.arg1 = some r)
    (hr : s.host.backends[r]? = some k) (hm : handleMessage msg k.state = .ready (.ok state)) :
    InRel
      { s with
        host := { s.host with
          backends := s.host.backends.set r { k with state }
          removing := if state.closed then some msg.header.arg1 else none }
        toHost }
      msg.header.arg1 q := by
  have hr' := getElem?_set_of_some hr { k with state }
  cases h with
  | @attached r₁ k₁ hr₁ hid hentry₁ hrem hqueue hfin hclosed =>
    obtain rfl : r₁ = r := Option.some.inj (hentry₁.symm.trans hentry)
    obtain rfl : k₁ = k := Option.some.inj (hr₁.symm.trans hr)
    rw [hto, ← List.singleton_append, inFlight_append] at hqueue hfin
    obtain ⟨hsame, hmoved, hfin'⟩ | ⟨hcl, hmoved, hfin'⟩ :=
      handled_inFlight hm (inFlight msg.header.arg1 toHost)
    · cases hcl : state.closed with
      | true =>
        -- the host had closed the socket, which is removed with the first message
        refine .detached hr' hid (.inr rfl) ?_ (.inr (.inl (hclosed (hsame ▸ hcl))))
        rw [hqueue, hmoved]
        exact List.prefix_append _ _
      | false =>
        refine .attached hr' hid hentry ?_ (hqueue.trans hmoved) (hfin.trans hfin') fun h => ?_
        · simp
        · exact hclosed (hsame ▸ h)
    · refine .detached hr' hid (.inr (if_pos hcl)) ?_
        (.inr (.inr ⟨hcl, hfin.trans hfin', hqueue.trans hmoved⟩))
      rw [hqueue, hmoved]
  | unknown hnot hq =>
    obtain ⟨k', hk', hid⟩ := hnames _ _ hentry
    exact absurd ⟨r, k', hk', hid⟩ hnot
  | detached hr₁ hid hnot hqueue hend =>
    obtain hnone | hrem := hnot
    · rw [hnone] at hentry
      cases hentry
    · rw [hidle] at hrem
      cases hrem

/-- Handing a message to one socket does nothing to the stream of another. -/
theorem InRel.handled_other {toHost : List AdbMessage} {r : Nat} {k : Sock} {state : State}
    (h : InRel s id q) (hne : msg.header.arg1 ≠ id) (hnames : TableNames s.host)
    (hto : s.toHost = msg :: toHost)
    (hidle : s.host.removing = none) (hentry : s.host.sockets msg.header.arg1 = some r)
    (hr : s.host.backends[r]? = some k) :
    InRel
      { s with
        host := { s.host with
          backends := s.host.backends.set r { k with state }
          removing := if state.closed then some msg.header.arg1 else none }
        toHost }
      id q := by
  have hin : inFlight id s.toHost = inFlight id toHost := by
    rw [hto, ← List.singleton_append, inFlight_append, inFlight_other fun _ => hne]
    rfl
  obtain ⟨k₀, hr₀, hid₀⟩ := hnames _ _ hentry
  obtain rfl : k₀ = k := Option.some.inj (hr₀.symm.trans hr)
  have hother : ∀ {r' : Nat} {k' : Sock}, s.host.backends[r']? = some k' → k'.localId = id →
      (s.host.backends.set r { k₀ with state })[r']? = some k' := by
    intro r' k' hr' hid'
    rw [List.getElem?_set_ne]
    · exact hr'
    · rintro rfl
      obtain rfl : k₀ = k' := Option.some.inj (hr.symm.trans hr')
      exact hne (hid₀.symm.trans hid')
  have hrem' : (if state.closed then some msg.header.arg1 else none) ≠ some id := by
    split
    · exact fun heq => hne (Option.some.inj heq)
    · simp
  cases h with
  | unknown hnot hq =>
    refine .unknown ?_ hq
    rintro ⟨r', k', hr', hid'⟩
    by_cases heq : r = r'
    · subst heq
      obtain rfl := Option.some.inj ((getElem?_set_of_some hr _).symm.trans hr')
      exact hne (hid₀.symm.trans hid')
    · rw [List.getElem?_set_ne heq] at hr'
      exact hnot ⟨r', k', hr', hid'⟩
  | attached hr' hid' hentry' hrem hqueue hfin hclosed =>
    exact .attached (hother hr' hid') hid' hentry' hrem' (hin ▸ hqueue) (hin ▸ hfin) hclosed
  | detached hr' hid' hnot hqueue hend =>
    refine .detached (hother hr' hid') hid' (.inl ?_) hqueue hend
    refine hnot.resolve_right fun hrem => ?_
    rw [hidle] at hrem
    cases hrem

/-- The pipe does not see that a message has arrived: its bytes only change from the wire to the
buffer. -/
theorem InRel.deliver {toHost : List AdbMessage} {host : TransportBackend} {e : HostEvent}
    (h : InRel s id q) (hnames : TableNames s.host) (hto : s.toHost = msg :: toHost)
    (hs : hostMachine.step s.host (.dispatch msg) = some (host, e)) :
    InRel { s with host, toHost } id q := by
  have hin : inFlight id [msg] = [] → inFlight id toHost = inFlight id s.toHost := by
    intro hnil
    rw [hto, ← List.singleton_append (l := toHost), inFlight_append, hnil, List.nil_append]
  cases hreply : msg.isReply with
  | false =>
    obtain ⟨-, hbackends, hsockets, hremoving⟩ := dispatch_other hreply hs
    exact h.congr hbackends hsockets hremoving (hin (inFlight_other fun h => by simp [hreply] at h))
  | true =>
    obtain ⟨hidle, hcase⟩ := socketDispatch_of_step hreply hs
    -- a reply to this stream, or to another
    by_cases hid : msg.header.arg1 = id
    · subst hid
      cases hcase with
      | unknown hnone =>
        cases h with
        | unknown hnot hq => exact .unknown hnot hq
        | attached _ _ hentry =>
          rw [hnone] at hentry
          cases hentry
        | detached hr hid hnot hqueue hend => exact .detached hr hid hnot hqueue hend
      | handled hentry hr hm => exact h.handled hnames hto hidle hentry hr hm
      | rejected hcmd => exact h.congr rfl rfl rfl (hin (inFlight_okay _ hcmd))
    · have hnil := inFlight_other fun _ : msg.isReply = true => hid
      cases hcase with
      | unknown => exact h.congr rfl rfl rfl (hin hnil)
      | handled hentry hr hm => exact h.handled_other hid hnames hto hidle hentry hr
      | rejected => exact h.congr rfl rfl rfl (hin hnil)

/-- What the device sends is written into the pipe. -/
theorem exec_inFlight {acts : List (PipeAct UInt8)} {unread : List UInt8}
    (hqueue : q.queue = unread ++ PipeAct.written acts)
    (hfin : q.finished = acts.any PipeAct.isFinish) (id : UInt32) (msg : AdbMessage) :
    ∃ q', q.exec (inFlight id [msg]) = some q' ∧
      q'.queue = unread ++ PipeAct.written (acts ++ inFlight id [msg]) ∧
      q'.finished = (acts ++ inFlight id [msg]).any PipeAct.isFinish ∧
      q'.abandoned = q.abandoned := by
  obtain hnil | hwrite | hfinish := inFlight_cases id msg
  · rw [hnil, List.append_nil]
    exact ⟨q, rfl, hqueue, hfin, rfl⟩
  · rw [hwrite]
    refine ⟨_, rfl, ?_, ?_, ?_⟩ <;> cases hf : q.finished <;>
      simp [PipeAct.written_append, PipeAct.written, PipeAct.isFinish, ← hfin, hf, hqueue]
  · rw [hfinish]
    refine ⟨_, rfl, ?_, ?_, rfl⟩ <;>
      simp [PipeAct.written_append, PipeAct.written, PipeAct.isFinish, hqueue]

/-- A message of the device enters the pipe at once, though the host has yet to dispatch it: it
counts as on its way. -/
theorem InRel.send (h : InRel s id q) (hlaw : LinkLaw s)
    (htold : msg.isReply = true → msg.header.arg1 ∈ s.told) :
    ∃ q', q.exec (inFlight id [msg]) = some q' ∧
      InRel { s with toHost := s.toHost ++ [msg] } id q' := by
  cases h with
  | unknown hnot hq =>
    refine ⟨q, ?_, .unknown hnot hq⟩
    have hother : msg.isReply = true → msg.header.arg1 ≠ id := by
      rintro hreply rfl
      exact hnot (hlaw.told _ (htold hreply))
    rw [inFlight_other hother]
    rfl
  | attached hr hid hentry hrem hqueue hfin hclosed =>
    obtain ⟨q', hexec, hqueue', hfin', hab⟩ := exec_inFlight hqueue hfin id msg
    refine ⟨q', hexec, .attached hr hid hentry hrem ?_ ?_ fun hcl => hab ▸ hclosed hcl⟩
    · rw [hqueue', inFlight_append]
    · rw [hfin', inFlight_append]
  | @detached r k hr hid hnot hqueue hend =>
    -- what comes too late is queued, or was sent after the device's own `CLSE`
    obtain hnil | hwrite | hfinish := inFlight_cases id msg
    · exact ⟨q, by rw [hnil]; rfl, .detached hr hid hnot hqueue hend⟩
    · rw [hwrite]
      refine ⟨_, rfl, .detached hr hid hnot ?_ ?_⟩
      · split
        · exact hqueue
        · exact hqueue.trans (List.prefix_append _ _)
      · refine hend.imp_right fun h => ?_
        obtain hab | ⟨hcl, hfin, hall⟩ := h
        · left
          split <;> exact hab
        · right
          rw [if_pos hfin]
          exact ⟨hcl, hfin, hall⟩
    · rw [hfinish]
      refine ⟨_, rfl, .detached hr hid hnot hqueue ?_⟩
      exact hend.imp_right fun h => h.imp_right fun h' => ⟨h'.1, rfl, h'.2.2⟩

end ToHost

end AdbDaemon.Transport

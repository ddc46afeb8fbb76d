import AdbDaemon.Transport.Usb

/-!
# The socket operations

Reference: `packages/transport/src/socket.rs`.

Each operation is a function of the socket's `State` and of the shared connection, as it runs
between taking and releasing the state lock. A `Cursor` of the read buffer is kept as the bytes it
has not read yet, and whether `write_throttle` ticks is an argument. `acknowledged` is a `usize` and
its increment wraps, as in a release build.

`pollRead_cases`, `pollWrite_cases`, `pollFlush_cases` and `handleMessage_cases` say once what each
operation can do; everything else is derived from them.
-/

namespace AdbDaemon.Transport

def DELAYED_ACK_BYTES : UInt32 := 33554432

def MAX_PAYLOAD : UInt32 := 1048576

/-- `usize::MAX + 1`. -/
def USIZE_MODULUS : Nat := 2 ^ 64

/-- `SocketBackend`'s state under its lock. -/
structure State where
  remoteId : UInt32
  closed : Bool
  readBuffer : List (List UInt8)
  initialAcknowledgment : Nat
  acknowledged : Nat
deriving DecidableEq

/-- The state `Socket::new` starts with. -/
def State.new (remoteId : UInt32) (acknowledged : Nat) : State where
  remoteId := remoteId
  closed := false
  readBuffer := []
  initialAcknowledgment := acknowledged
  acknowledged := acknowledged

/-- The bytes received and not yet read. -/
def State.unread (st : State) : List UInt8 := st.readBuffer.flatten

/-- The result of an operation of a `Socket`, with the messages it submitted. -/
structure Polled (α : Type) where
  outcome : Outcome IoError α
  state : State
  shared : Shared
  sent : List AdbMessage

/-! ## Operations -/

/-- The loop of `poll_read`: fill a destination of `remaining` bytes from the buffered payloads. -/
def fill : Nat → List (List UInt8) → List UInt8 × List (List UInt8)
  | _, [] => ([], [])
  | remaining, front :: queue =>
    if remaining = 0 then ([], front :: queue)
    else if front.length ≤ remaining then
      let (bytes, queue) := fill (remaining - front.length) queue
      (front ++ bytes, queue)
    else (front.take remaining, front.drop remaining :: queue)

/-- `Socket::poll_read` into a buffer with `remaining` free bytes. -/
def pollRead (localId : UInt32) (remaining : Nat) (st : State) (sh : Shared) :
    Polled (List UInt8) :=
  match sh.checkError with
  | .error err => ⟨.ready (.error (ioError err)), st, sh, []⟩
  | .ok () =>
    match sh.pollFlush with
    | (.pending, sh) => ⟨.pending, st, sh, []⟩
    | (.ready (.error err), sh) => ⟨.ready (.error (ioError err)), st, sh, []⟩
    | (.ready (.ok ()), sh) =>
      let (bytes, readBuffer) := fill remaining st.readBuffer
      let st := { st with readBuffer }
      if st.closed then ⟨.ready (.ok bytes), st, sh, []⟩
      else if bytes.length = 0 then ⟨.pending, st, sh, []⟩
      else
        let msg := AdbMessage.new .OKAY localId st.remoteId (toLeBytes (UInt32.ofNat bytes.length))
        match sh.writeMessage msg with
        | none => ⟨.panic, st, sh, []⟩
        | some (.error err, sh) => ⟨.ready (.error (ioError err)), st, sh, []⟩
        | some (.ok (), sh) => ⟨.ready (.ok bytes), st, sh, [msg]⟩

/-- `Socket::poll_write`; `tick` says whether the write throttle is ready. -/
def pollWrite (localId : UInt32) (buf : List UInt8) (tick : Bool) (st : State) (sh : Shared) :
    Polled Nat :=
  match sh.checkError with
  | .error err => ⟨.ready (.error (ioError err)), st, sh, []⟩
  | .ok () =>
    if st.closed then ⟨.ready (.error (ioError (.kind .closed))), st, sh, []⟩
    else
      match sh.pollFlush with
      | (.pending, sh) => ⟨.pending, st, sh, []⟩
      | (.ready (.error err), sh) => ⟨.ready (.error (ioError err)), st, sh, []⟩
      | (.ready (.ok ()), sh) =>
        if st.acknowledged = 0 then ⟨.pending, st, sh, []⟩
        else if st.acknowledged ≤ st.initialAcknowledgment / 2 ∧ tick = false then
          ⟨.pending, st, sh, []⟩
        else
          let len := min (min buf.length st.acknowledged) MAX_PAYLOAD.toNat
          -- `strict_sub`
          if st.acknowledged < len then ⟨.panic, st, sh, []⟩
          else
            let st := { st with acknowledged := st.acknowledged - len }
            let msg := AdbMessage.new .WRTE localId st.remoteId (buf.take len)
            match sh.writeMessage msg with
            | none => ⟨.panic, st, sh, []⟩
            | some (.error err, sh) => ⟨.ready (.error (ioError err)), st, sh, []⟩
            | some (.ok (), sh) => ⟨.ready (.ok len), st, sh, [msg]⟩

/-- `Socket::poll_flush`. -/
def pollFlush (st : State) (sh : Shared) : Polled Unit :=
  match sh.checkError with
  | .error err => ⟨.ready (.error (ioError err)), st, sh, []⟩
  | .ok () =>
    match sh.pollFlush with
    | (.pending, sh) => ⟨.pending, st, sh, []⟩
    | (.ready (.error err), sh) => ⟨.ready (.error (ioError err)), st, sh, []⟩
    | (.ready (.ok ()), sh) =>
      if st.acknowledged = st.initialAcknowledgment then ⟨.ready (.ok ()), st, sh, []⟩
      else if st.closed then
        ⟨.ready (.error (ioError (.cause (.msg "flush") (.kind .closed)))), st, sh, []⟩
      else ⟨.pending, st, sh, []⟩

/-- `SocketBackend::shutdown`. -/
def shutdown (localId : UInt32) (st : State) (sh : Shared) : Option AdbMessage × State :=
  match sh.checkError with
  | .error _ => (none, st)
  | .ok () =>
    if st.closed then (none, st)
    else (some (AdbMessage.new .CLSE localId st.remoteId []), { st with closed := true })

/-- `SocketBackend::handle_message`. The flag it returns is `closed` of the new state; the commands
that never get here are `unreachable!`. -/
def handleMessage (msg : AdbMessage) (st : State) : Outcome Error State :=
  match msg.header.command with
  | .OKAY =>
    match fromLeBytes msg.payload with
    | none => .ready (.error (.text .other "no avail in OKAY"))
    | some avail =>
      let st :=
        if st.remoteId = 0 then
          { st with initialAcknowledgment := avail.toNat, remoteId := msg.header.arg0 }
        else st
      .ready (.ok { st with acknowledged := (st.acknowledged + avail.toNat) % USIZE_MODULUS })
  | .WRTE => .ready (.ok { st with readBuffer := st.readBuffer ++ [msg.payload] })
  | .CLSE => .ready (.ok { st with closed := true })
  | _ => .panic

/-! ## What the read loop does -/

theorem fill_append (n : Nat) (q : List (List UInt8)) :
    (fill n q).1 ++ (fill n q).2.flatten = q.flatten := by
  induction q generalizing n with
  | nil => rfl
  | cons front q ih =>
    rw [fill]
    split
    · simp
    · split
      · simp only [List.append_assoc, ih, List.flatten_cons]
      · simp only [List.flatten_cons, ← List.append_assoc, List.take_append_drop]

theorem fill_fst (n : Nat) (q : List (List UInt8)) : (fill n q).1 = q.flatten.take n := by
  induction q generalizing n with
  | nil => simp [fill]
  | cons front q ih =>
    rw [fill]
    split
    · rename_i h
      simp [h]
    · split
      · rename_i hle
        simp only [ih, List.flatten_cons, List.take_append, List.take_of_length_le hle]
      · rename_i hle
        simp only [List.flatten_cons, List.take_append]
        rw [Nat.sub_eq_zero_of_le (by omega), List.take_zero, List.append_nil]

theorem fill_flatten_snd (n : Nat) (q : List (List UInt8)) :
    (fill n q).2.flatten = q.flatten.drop n := by
  have h := fill_append n q
  rw [fill_fst] at h
  exact List.append_cancel_left (h.trans (List.take_append_drop n _).symm)

/-- A read into a non-empty buffer that finds no byte has consumed every buffered payload. -/
theorem fill_snd_eq_nil {n : Nat} (hn : 0 < n) {q : List (List UInt8)} (h : (fill n q).1 = []) :
    (fill n q).2 = [] := by
  induction q with
  | nil => rfl
  | cons front q ih =>
    rw [fill, if_neg (by omega)] at h ⊢
    split
    · rename_i hle
      rw [if_pos hle] at h
      obtain ⟨hfront, hrest⟩ := List.append_eq_nil_iff.mp h
      subst hfront
      exact ih hrest
    · rename_i hle
      rw [if_neg hle] at h
      have := congrArg List.length h
      simp only [List.length_take, List.length_nil] at this
      omega

/-! ## What each operation does -/

section Cases

variable (localId : UInt32) (st : State) (sh : Shared)

/-- The acknowledgement `poll_read` submits for the bytes it delivered. -/
def readOkay (bytes : List UInt8) : AdbMessage :=
  AdbMessage.new .OKAY localId st.remoteId (toLeBytes (UInt32.ofNat bytes.length))

/-- The bytes a `poll_read` into `remaining` free bytes takes from the buffer. -/
def State.readable (remaining : Nat) : List UInt8 := st.unread.take remaining

/-- The state after the read loop of `poll_read`. -/
def State.afterRead (remaining : Nat) : State :=
  { st with readBuffer := (fill remaining st.readBuffer).2 }

/-- A read takes from the front of what is unread. -/
theorem unread_afterRead (remaining : Nat) :
    (st.afterRead remaining).unread = st.unread.drop remaining := fill_flatten_snd _ _

/-- A poll that stopped at the error check or at the flush of the connection: `Pending` or an error,
and nothing done. -/
structure Stopped {α : Type} (p : Polled α) : Prop where
  outcome : p.outcome = .pending ∨ ∃ err, p.outcome = .ready (.error err)
  state : p.state = st
  sent : p.sent = []

variable {st} in
/-- A stopped poll delivers nothing. -/
theorem Stopped.ne_ok {α : Type} {p : Polled α} (h : Stopped st p) (a : α) :
    p.outcome ≠ .ready (.ok a) := by
  rcases h.outcome with h | ⟨err, h⟩ <;> rw [h] <;> simp

/-- `poll_read` stops before its loop, or it moves bytes out of the buffer; a socket that is not
closed then acknowledges exactly the bytes delivered, and is `Pending` if there are none. -/
theorem pollRead_cases (remaining : Nat) :
    let p := pollRead localId remaining st sh
    (Stopped st p ∧ ¬ (sh.error = none ∧ ∃ sh', sh.pollFlush = (.ready (.ok ()), sh'))) ∨
      (sh.error = none ∧ (∃ sh', sh.pollFlush = (.ready (.ok ()), sh')) ∧
        p.state = st.afterRead remaining ∧
        ((st.closed = true ∧ p.outcome = .ready (.ok (st.readable remaining)) ∧ p.sent = []) ∨
          (st.closed = false ∧ st.readable remaining = [] ∧ p.outcome = .pending ∧ p.sent = []) ∨
          (st.closed = false ∧ st.readable remaining ≠ [] ∧
            p.outcome = .ready (.ok (st.readable remaining)) ∧
            p.sent = [readOkay localId st (st.readable remaining)]))) := by
  intro p
  have hp : p = pollRead localId remaining st sh := rfl
  rw [pollRead, Shared.checkError] at hp
  cases herr : sh.error with
  | some err =>
    rw [herr] at hp
    exact .inl ⟨⟨.inr ⟨_, by rw [hp]⟩, by rw [hp], by rw [hp]⟩, by simp⟩
  | none =>
    rw [herr] at hp
    simp only at hp
    split at hp
    · rename_i hf
      exact .inl ⟨⟨.inl (by rw [hp]), by rw [hp], by rw [hp]⟩, by simp [hf]⟩
    · rename_i hf
      exact .inl ⟨⟨.inr ⟨_, by rw [hp]⟩, by rw [hp], by rw [hp]⟩, by simp [hf]⟩
    · -- only after a flush that is done are bytes taken, and `write_message` cannot fail then
      rename_i sh' hf
      refine .inr ⟨rfl, ⟨sh', hf⟩, ?_⟩
      have hbytes : (fill remaining st.readBuffer).1 = st.readable remaining := fill_fst _ _
      simp only [hbytes] at hp
      obtain ⟨sh'', hw, -⟩ := Shared.writeMessage_of_pollFlush hf
        (readOkay localId st (st.readable remaining))
      rw [readOkay] at hw
      simp only [hw] at hp
      cases hcl : st.closed with
      | true =>
        rw [hcl, if_pos rfl] at hp
        exact ⟨by rw [hp, State.afterRead, hcl], .inl ⟨rfl, by rw [hp], by rw [hp]⟩⟩
      | false =>
        rw [hcl, if_neg (by simp)] at hp
        by_cases hb : st.readable remaining = []
        · rw [hb, List.length_nil, if_pos rfl] at hp
          exact ⟨by rw [hp, State.afterRead, hcl], .inr (.inl ⟨rfl, hb, by rw [hp], by rw [hp]⟩)⟩
        · rw [if_neg (by simpa using hb)] at hp
          exact ⟨by rw [hp, State.afterRead, hcl],
            .inr (.inr ⟨rfl, hb, by rw [hp], by rw [hp, readOkay]⟩)⟩

/-- The number of bytes `poll_write` takes from a buffer. -/
def State.writable (buf : List UInt8) : Nat :=
  min (min buf.length st.acknowledged) MAX_PAYLOAD.toNat

/-- The message `poll_write` submits for a buffer. -/
def writeWrte (buf : List UInt8) : AdbMessage :=
  AdbMessage.new .WRTE localId st.remoteId (buf.take (st.writable buf))

/-- `poll_write` stops with nothing done, or submits one `WRTE` and spends the credit for it. -/
theorem pollWrite_cases (buf : List UInt8) (tick : Bool) :
    let p := pollWrite localId buf tick st sh
    Stopped st p ∨
      (sh.error = none ∧ st.closed = false ∧ 0 < st.acknowledged ∧
        p.outcome = .ready (.ok (st.writable buf)) ∧ p.sent = [writeWrte localId st buf] ∧
        p.state = { st with acknowledged := st.acknowledged - st.writable buf }) := by
  intro p
  have hp : p = pollWrite localId buf tick st sh := rfl
  have hlen : ¬ st.acknowledged < st.writable buf := by
    unfold State.writable
    omega
  rw [pollWrite, Shared.checkError] at hp
  cases herr : sh.error with
  | some err =>
    rw [herr] at hp
    exact .inl ⟨.inr ⟨_, by rw [hp]⟩, by rw [hp], by rw [hp]⟩
  | none =>
    rw [herr] at hp
    simp only at hp
    cases hcl : st.closed with
    | true =>
      rw [if_pos hcl] at hp
      exact .inl ⟨.inr ⟨_, by rw [hp]⟩, by rw [hp], by rw [hp]⟩
    | false =>
      rw [if_neg (by simp [hcl])] at hp
      split at hp
      · exact .inl ⟨.inl (by rw [hp]), by rw [hp], by rw [hp]⟩
      · exact .inl ⟨.inr ⟨_, by rw [hp]⟩, by rw [hp], by rw [hp]⟩
      · rename_i sh' hf
        obtain ⟨sh'', hw, -⟩ := Shared.writeMessage_of_pollFlush hf (writeWrte localId st buf)
        split at hp
        · exact .inl ⟨.inl (by rw [hp]), by rw [hp], by rw [hp]⟩
        · rename_i hack
          split at hp
          · exact .inl ⟨.inl (by rw [hp]), by rw [hp], by rw [hp]⟩
          · rw [writeWrte, State.writable] at hw
            rw [State.writable] at hlen
            simp only [if_neg hlen, hw] at hp
            refine .inr ⟨rfl, rfl, Nat.pos_of_ne_zero hack, ?_, ?_, ?_⟩
            · rw [hp, State.writable]
            · rw [hp, writeWrte, State.writable]
            · rw [hp, State.writable, hcl]

/-- `poll_flush` changes nothing and submits nothing; it succeeds exactly when the connection is
flushed and the credit is back at the initial grant. -/
theorem pollFlush_cases :
    let p := pollFlush st sh
    p.state = st ∧ p.sent = [] ∧ p.outcome ≠ .panic ∧
      (p.outcome = .ready (.ok ()) ↔
        (sh.error = none ∧ ∃ sh', sh.pollFlush = (.ready (.ok ()), sh')) ∧
          st.acknowledged = st.initialAcknowledgment) := by
  intro p
  have hp : p = pollFlush st sh := rfl
  rw [pollFlush, Shared.checkError] at hp
  cases herr : sh.error with
  | some err =>
    rw [herr] at hp
    exact ⟨by rw [hp], by rw [hp], by rw [hp]; simp, by rw [hp]; simp⟩
  | none =>
    rw [herr] at hp
    simp only at hp
    split at hp
    · rename_i hf
      exact ⟨by rw [hp], by rw [hp], by rw [hp]; simp, by rw [hp]; simp [hf]⟩
    · rename_i hf
      exact ⟨by rw [hp], by rw [hp], by rw [hp]; simp, by rw [hp]; simp [hf]⟩
    · rename_i hf
      split at hp
      · rename_i hack
        exact ⟨by rw [hp], by rw [hp], by rw [hp]; simp, by rw [hp]; simp [hf, hack]⟩
      · rename_i hack
        split at hp
        · exact ⟨by rw [hp], by rw [hp], by rw [hp]; simp, by rw [hp]; simp [hack]⟩
        · exact ⟨by rw [hp], by rw [hp], by rw [hp]; simp, by rw [hp]; simp [hack]⟩

/-- `shutdown` closes an open socket and hands out its `CLSE`; otherwise it does nothing. -/
theorem shutdown_cases :
    (sh.error = none ∧ st.closed = false ∧
        shutdown localId st sh =
          (some (AdbMessage.new .CLSE localId st.remoteId []), { st with closed := true })) ∨
      ((sh.error ≠ none ∨ st.closed = true) ∧ shutdown localId st sh = (none, st)) := by
  unfold shutdown Shared.checkError
  cases herr : sh.error with
  | some err => exact .inr ⟨.inl (by simp), rfl⟩
  | none =>
    cases hcl : st.closed with
    | true => exact .inr ⟨.inr rfl, rfl⟩
    | false => exact .inl ⟨rfl, rfl, rfl⟩

/-- The state after a granting `OKAY`. -/
def State.granted (remoteId avail : UInt32) : State :=
  { st with
    initialAcknowledgment := if st.remoteId = 0 then avail.toNat else st.initialAcknowledgment
    remoteId := if st.remoteId = 0 then remoteId else st.remoteId
    acknowledged := (st.acknowledged + avail.toNat) % USIZE_MODULUS }

/-- A message that is handled grants credit, delivers a payload, or closes the socket. -/
theorem handleMessage_cases {msg : AdbMessage} {st' : State}
    (h : handleMessage msg st = .ready (.ok st')) :
    (msg.header.command = .OKAY ∧ ∃ avail, fromLeBytes msg.payload = some avail ∧
        st' = st.granted msg.header.arg0 avail) ∨
      (msg.header.command = .WRTE ∧ st' = { st with readBuffer := st.readBuffer ++ [msg.payload] }) ∨
      (msg.header.command = .CLSE ∧ st' = { st with closed := true }) := by
  unfold handleMessage at h
  split at h
  · rename_i hcmd
    split at h
    · simp at h
    · rename_i avail hav
      simp only [Outcome.ready.injEq, Except.ok.injEq] at h
      refine .inl ⟨hcmd, avail, hav, ?_⟩
      rw [← h, State.granted]
      split <;> rfl
  · rename_i hcmd
    simp only [Outcome.ready.injEq, Except.ok.injEq] at h
    exact .inr (.inl ⟨hcmd, h.symm⟩)
  · rename_i hcmd
    simp only [Outcome.ready.injEq, Except.ok.injEq] at h
    exact .inr (.inr ⟨hcmd, h.symm⟩)
  · simp at h

end Cases

/-! ## The shared connection after an operation -/

section Next

variable (localId : UInt32) (st : State) (sh : Shared)

/-- A read submits at most one message, behind a flush. -/
theorem pollRead_next (remaining : Nat) :
    sh.Next (pollRead localId remaining st sh).shared (pollRead localId remaining st sh).sent := by
  have hnext := sh.pollFlush_next
  unfold pollRead
  split
  · exact .refl sh
  · split <;> rename_i hf <;> rw [hf] at hnext
    · exact hnext
    · exact hnext
    · obtain ⟨sh'', hw, -⟩ := Shared.writeMessage_of_pollFlush hf
        (AdbMessage.new .OKAY localId st.remoteId
          (toLeBytes (UInt32.ofNat (fill remaining st.readBuffer).1.length)))
      simp only [hw]
      split
      · exact hnext
      · split
        · exact hnext
        · exact hnext.trans (Shared.writeMessage_next hw)

/-- A write submits at most one message, behind a flush. -/
theorem pollWrite_next (buf : List UInt8) (tick : Bool) :
    sh.Next (pollWrite localId buf tick st sh).shared (pollWrite localId buf tick st sh).sent := by
  have hnext := sh.pollFlush_next
  unfold pollWrite
  split
  · exact .refl sh
  · split
    · exact .refl sh
    · split <;> rename_i hf <;> rw [hf] at hnext
      · exact hnext
      · exact hnext
      · obtain ⟨sh'', hw, -⟩ := Shared.writeMessage_of_pollFlush hf
          (AdbMessage.new .WRTE localId st.remoteId
            (buf.take (min (min buf.length st.acknowledged) MAX_PAYLOAD.toNat)))
        simp only [hw]
        split
        · exact hnext
        · split
          · exact hnext
          · split
            · exact hnext
            · exact hnext.trans (Shared.writeMessage_next hw)

/-- A flush of the socket submits nothing. -/
theorem pollFlush_next : sh.Next (pollFlush st sh).shared (pollFlush st sh).sent := by
  have hnext := sh.pollFlush_next
  unfold pollFlush
  split
  · exact .refl sh
  · split <;> rename_i hf <;> rw [hf] at hnext
    · exact hnext
    · exact hnext
    · split
      · exact hnext
      · split <;> exact hnext

/-- A flush of the socket that succeeds leaves the connection flushed. -/
theorem pollFlush_flushed (h : (pollFlush st sh).outcome = .ready (.ok ())) :
    (pollFlush st sh).shared.Flushed := by
  obtain ⟨⟨herr, sh', hf⟩, hack⟩ := (pollFlush_cases st sh).2.2.2.mp h
  have hshared : (pollFlush st sh).shared = sh' := by
    simp [pollFlush, Shared.checkError, herr, hf, hack]
  obtain ⟨-, c, hc, hp⟩ := Shared.pollFlush_ok hf
  intro c' hc'
  rw [hshared, hc, Option.some.injEq] at hc'
  rw [← hc']
  exact hp

end Next

end AdbDaemon.Transport

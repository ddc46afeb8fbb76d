import AdbDaemon.Transport.Message

/-!
# The USB connection and the guard that shares it

Reference: `packages/transport/src/connection/usb.rs`, and `ConnectionWrapperGuard`, `ConnectionExt`
and `TransportBackend::on_error` of `packages/transport/src/transport.rs`.

The two bulk endpoints are `nusb` objects. An endpoint keeps the transfers that were submitted and
not yet handed back by `poll_next_complete`, oldest first; completions arrive from outside. Timers
of the reader (`in_timeout`) and the wakers change no result and are left out.
-/

namespace AdbDaemon.Transport

/-- `Poll<T>`. -/
inductive Poll (α : Type) where
  | pending
  | ready (a : α)
deriving DecidableEq

/-! ## Endpoints -/

/-- `nusb::transfer::Buffer`: the length asked for and the bytes received so far. -/
structure Buffer where
  requestedLen : Nat
  data : List UInt8
deriving DecidableEq

def Buffer.new (requestedLen : Nat) : Buffer := ⟨requestedLen, []⟩

/-- `Endpoint<Bulk, In>`: `queue` are the buffers still being filled, `completed` those done. -/
structure InEndpoint where
  queue : List Buffer
  completed : List (Except TransferError Buffer)

def InEndpoint.pending (e : InEndpoint) : Nat := e.completed.length + e.queue.length

/-- A resubmitted buffer keeps its requested length and loses its contents. -/
def InEndpoint.submit (e : InEndpoint) (buf : Buffer) : InEndpoint :=
  { e with queue := e.queue ++ [Buffer.new buf.requestedLen] }

/-- One packet of at most `packetSize` bytes arrives. The oldest buffer completes on a short packet
or when it is full; without a buffer the device has to hold the packet back. -/
def InEndpoint.receive (packetSize : Nat) (packet : List UInt8) (e : InEndpoint) :
    Option InEndpoint :=
  match e.queue with
  | [] => none
  | buf :: queue =>
    let buf := { buf with data := buf.data ++ packet }
    if packet.length < packetSize ∨ buf.requestedLen ≤ buf.data.length then
      some { queue, completed := e.completed ++ [.ok buf] }
    else some { e with queue := buf :: queue }

/-- `Endpoint<Bulk, Out>`: `submitted` are the transfers not yet handed back, and `completions` the
results of the oldest of them. -/
structure OutEndpoint where
  submitted : List (List UInt8)
  completions : List (Except TransferError Unit)

def OutEndpoint.pending (e : OutEndpoint) : Nat := e.submitted.length

def OutEndpoint.submit (e : OutEndpoint) (transfer : List UInt8) : OutEndpoint :=
  { e with submitted := e.submitted ++ [transfer] }

/-- The device takes the oldest transfer that has no result yet. -/
def OutEndpoint.complete (e : OutEndpoint) (c : Except TransferError Unit) : OutEndpoint :=
  if e.completions.length < e.submitted.length then { e with completions := e.completions ++ [c] }
  else e

/-! ## `UsbConnection` -/

/-- `UsbConnection`: its two endpoints, and the header that was read before its payload. -/
structure UsbConnection where
  inEndpoint : InEndpoint
  outEndpoint : OutEndpoint
  packetSize : Nat
  inHeader : Option AdbMessageHeader

namespace UsbConnection

/-- A connection over idle endpoints, as `UsbConnection::new` returns it. -/
def new (packetSize : Nat) : UsbConnection where
  inEndpoint := ⟨[], []⟩
  outEndpoint := ⟨[], []⟩
  packetSize := packetSize
  inHeader := none

/-- `usize::next_multiple_of`. -/
def nextMultipleOf (n k : Nat) : Nat := if n % k = 0 then n else n + (k - n % k)

/-- The loop of `poll_read_message`, on the buffers that are complete. -/
def readLoop (c : UsbConnection) :
    List (Except TransferError Buffer) → Poll (Except Error AdbMessage) × UsbConnection
  | [] => (.pending, { c with inEndpoint.completed := [] })
  | .error e :: rest =>
    (.ready (.error (.kind (.usb (.transfer e)))), { c with inEndpoint.completed := rest })
  | .ok buf :: rest =>
    match c.inHeader with
    | some header =>
      (.ready (.ok { header, payload := buf.data }),
        { c with inEndpoint.completed := rest, inHeader := none })
    | none =>
      match AdbMessageHeader.read buf.data with
      | .error e => (.ready (.error e), { c with inEndpoint.completed := rest })
      | .ok header =>
        -- the payload's buffer is queued before the header buffer is queued again
        let inEndpoint :=
          if 0 < header.dataLength.toNat then
            c.inEndpoint.submit
              (Buffer.new (nextMultipleOf header.dataLength.toNat c.packetSize))
          else c.inEndpoint
        let c := { c with inEndpoint := inEndpoint.submit buf }
        if header.dataLength.toNat = 0 then
          (.ready (.ok { header, payload := [] }), { c with inEndpoint.completed := rest })
        else readLoop { c with inHeader := some header } rest

/-- `poll_read_message`: a buffer is submitted if none is pending, and then the loop begins. -/
def pollReadMessage (c : UsbConnection) : Poll (Except Error AdbMessage) × UsbConnection :=
  let c :=
    if c.inEndpoint.pending = 0 then
      { c with inEndpoint := c.inEndpoint.submit (Buffer.new c.packetSize) }
    else c
  c.readLoop c.inEndpoint.completed

/-- `write_message`; `none` is the failed assertion `must flush before write_message`. -/
def writeMessage (c : UsbConnection) (msg : AdbMessage) : Option UsbConnection :=
  if c.outEndpoint.pending = 0 then
    let out := c.outEndpoint.submit msg.header.toVec
    let out :=
      if msg.payload = [] then out
      else
        let out := out.submit msg.payload
        -- `u32::is_multiple_of`
        if msg.header.dataLength % UInt32.ofNat c.packetSize = 0 then out.submit [] else out
    some { c with outEndpoint := out }
  else none

/-- The loop of `poll_flush`, on the submitted transfers and the results they have. -/
def flushLoop : List (List UInt8) → List (Except TransferError Unit) →
    Poll (Except Error Unit) × OutEndpoint
  | [], completions => (.ready (.ok ()), ⟨[], completions⟩)
  | t :: submitted, [] => (.pending, ⟨t :: submitted, []⟩)
  | _ :: submitted, .error e :: completions =>
    (.ready (.error (.kind (.usb (.transfer e)))), ⟨submitted, completions⟩)
  | _ :: submitted, .ok () :: completions => flushLoop submitted completions

/-- `poll_flush`: the loop over the transfers that are complete. -/
def pollFlush (c : UsbConnection) : Poll (Except Error Unit) × UsbConnection :=
  let (res, out) := flushLoop c.outEndpoint.submitted c.outEndpoint.completions
  (res, { c with outEndpoint := out })

end UsbConnection

/-! ## The shared connection

`Shared` is the part of `TransportBackend` behind `ConnectionWrapperGuard`: the connection, which
the first error takes away, and that error.
-/

/-- What all sockets of a transport share: the connection and the error. -/
structure Shared where
  connection : Option UsbConnection
  error : Option Error

namespace Shared

/-- `TransportBackend::on_error`: the first call latches the error and takes the connection. -/
def onError (sh : Shared) (err : Error) : Error × Shared :=
  (.transport err, if sh.error.isSome then sh else { connection := none, error := some err })

/-- `check_error` and `check_transport_error`. -/
def checkError (sh : Shared) : Except Error Unit :=
  match sh.error with
  | some err => .error (.transport err)
  | none => .ok ()

/-- `ConnectionWrapperGuard::poll_flush`. -/
def pollFlush (sh : Shared) : Poll (Except Error Unit) × Shared :=
  match sh.connection with
  | none => (.ready (.error (.kind .closed)), sh)
  | some inner =>
    match inner.pollFlush with
    | (.pending, inner) => (.pending, { sh with connection := some inner })
    | (.ready (.ok ()), inner) => (.ready (.ok ()), { sh with connection := some inner })
    | (.ready (.error err), inner) =>
      let (err, sh) := { sh with connection := some inner }.onError
        (.cause (.msg "write (flush)") err)
      (.ready (.error err), sh)

/-- `ConnectionWrapperGuard::write_message`; `none` is the failed assertion of the connection, which
reports no error of its own. -/
def writeMessage (sh : Shared) (msg : AdbMessage) : Option (Except Error Unit × Shared) :=
  match sh.connection with
  | none => some (.error (.kind .closed), sh)
  | some inner =>
    match inner.writeMessage msg with
    | none => none
    | some inner => some (.ok (), { sh with connection := some inner })

/-- The OUT endpoint has nothing pending, or the connection is gone. -/
def Flushed (sh : Shared) : Prop :=
  ∀ c, sh.connection = some c → c.outEndpoint.pending = 0

/-- A result of the oldest pending OUT transfer arrives. -/
def complete (sh : Shared) (r : Except TransferError Unit) : Shared :=
  { sh with
    connection := sh.connection.map fun c => { c with outEndpoint := c.outEndpoint.complete r } }

end Shared

/-- How a poll ends: as in the source, or by a panic. -/
inductive Outcome (ε α : Type) where
  | pending
  | ready (r : Except ε α)
  | panic
deriving DecidableEq

def Outcome.isPanic {ε α : Type} : Outcome ε α → Bool
  | .panic => true
  | _ => false

@[simp] theorem Outcome.isPanic_iff {ε α : Type} {o : Outcome ε α} :
    o.isPanic = true ↔ o = .panic := by
  cases o <;> simp [isPanic]

@[simp] theorem Outcome.isPanic_eq_false {ε α : Type} {o : Outcome ε α} :
    o.isPanic = false ↔ o ≠ .panic := by
  cases o <;> simp [isPanic]

/-- One poll of the future of `ConnectionExt::write_message_async`: the result, the message that is
still to be written, and the messages it submitted. -/
structure AsyncWrite where
  outcome : Outcome Error Unit
  msg : Option AdbMessage
  shared : Shared
  sent : List AdbMessage

/-- The round of the loop that finds the message already taken. -/
def pollWritten (sh : Shared) (sent : List AdbMessage) : AsyncWrite :=
  match sh.pollFlush with
  | (.pending, sh) => ⟨.pending, none, sh, sent⟩
  | (.ready res, sh) => ⟨.ready res, none, sh, sent⟩

/-- `write_message_async`, polled once under one acquisition of the connection. -/
def writeMessageAsync (msg : Option AdbMessage) (sh : Shared) : AsyncWrite :=
  match msg with
  | none => pollWritten sh []
  | some m =>
    match sh.pollFlush with
    | (.pending, sh) => ⟨.pending, some m, sh, []⟩
    | (.ready (.error err), sh) => ⟨.ready (.error err), some m, sh, []⟩
    | (.ready (.ok ()), sh) =>
      match sh.writeMessage m with
      | none => ⟨.panic, none, sh, []⟩
      | some (.error err, sh) => ⟨.ready (.error err), none, sh, []⟩
      | some (.ok (), sh) => pollWritten sh [m]

/-! ## What a flush and a write do -/

/-- A flush that is ready without error leaves no transfer pending. -/
theorem UsbConnection.flushLoop_ok {submitted : List (List UInt8)}
    {completions : List (Except TransferError Unit)} {out : OutEndpoint}
    (h : UsbConnection.flushLoop submitted completions = (.ready (.ok ()), out)) :
    out.pending = 0 := by
  induction submitted generalizing completions with
  | nil =>
    simp only [flushLoop, Prod.mk.injEq] at h
    rw [← h.2]
    rfl
  | cons t submitted ih =>
    match completions with
    | [] => simp [flushLoop] at h
    | .error e :: completions => simp [flushLoop] at h
    | .ok () :: completions => exact ih h

/-- A flush never adds a transfer. -/
theorem UsbConnection.flushLoop_pending_le (submitted : List (List UInt8))
    (completions : List (Except TransferError Unit)) :
    (UsbConnection.flushLoop submitted completions).2.pending ≤ submitted.length := by
  induction submitted generalizing completions with
  | nil => simp [flushLoop, OutEndpoint.pending]
  | cons t submitted ih =>
    match completions with
    | [] => simp [flushLoop, OutEndpoint.pending]
    | .error e :: completions => simp [flushLoop, OutEndpoint.pending]
    | .ok () :: completions =>
      have := ih completions
      simp only [flushLoop, List.length_cons]
      omega

namespace Shared

variable {sh sh' : Shared}

/-- A check passes as long as there is no error. -/
theorem checkError_ok : sh.checkError = .ok () ↔ sh.error = none := by
  unfold checkError
  cases sh.error <;> simp

/-- A flush that reports success leaves the connection in place, with no transfer pending. -/
theorem pollFlush_ok (h : sh.pollFlush = (.ready (.ok ()), sh')) :
    sh'.error = sh.error ∧ ∃ c, sh'.connection = some c ∧ c.outEndpoint.pending = 0 := by
  unfold pollFlush at h
  split at h
  · simp at h
  · rename_i inner hc
    split at h
    · simp at h
    · rename_i inner' hf
      simp only [Prod.mk.injEq, true_and] at h
      subst h
      refine ⟨rfl, inner', rfl, ?_⟩
      simp only [UsbConnection.pollFlush, Prod.mk.injEq] at hf
      rw [← hf.2]
      exact UsbConnection.flushLoop_ok (Prod.ext hf.1 rfl)
    · simp at h

/-- A flush never makes a transfer pending: what it finds complete it takes away, and it submits
nothing. -/
theorem Flushed.pollFlush (h : sh.Flushed) : sh.pollFlush.2.Flushed := by
  intro c hc
  unfold Shared.pollFlush at hc
  split at hc
  · rename_i hn
    simp [hn] at hc
  · rename_i inner hi
    have hpend : ∀ {r inner'}, inner.pollFlush = (r, inner') → inner'.outEndpoint.pending = 0 := by
      intro r inner' hf
      have hle := UsbConnection.flushLoop_pending_le inner.outEndpoint.submitted
        inner.outEndpoint.completions
      have h0 : inner.outEndpoint.submitted.length = 0 := h inner hi
      simp only [UsbConnection.pollFlush, Prod.mk.injEq] at hf
      rw [← hf.2]
      simp only
      omega
    split at hc
    · rename_i hf
      obtain rfl : _ = c := by simpa using hc
      exact hpend hf
    · rename_i hf
      obtain rfl : _ = c := by simpa using hc
      exact hpend hf
    · rename_i hf
      simp only [onError] at hc
      split at hc
      · obtain rfl : _ = c := by simpa using hc
        exact hpend hf
      · simp at hc

theorem onError_error (sh : Shared) (err : Error) : (sh.onError err).2.error ≠ none := by
  unfold onError
  split
  · rename_i hs
    exact Option.isSome_iff_ne_none.mp hs
  · simp

/-- A flush that fails leaves an error, unless the connection was gone. -/
theorem pollFlush_error {err : Error} (h : sh.pollFlush = (.ready (.error err), sh')) :
    sh'.error ≠ none ∨ sh.connection = none := by
  unfold pollFlush at h
  split at h
  · rename_i hc
    exact .inr hc
  · split at h
    · simp at h
    · simp at h
    · simp only [Prod.mk.injEq] at h
      exact .inl (h.2 ▸ onError_error _ _)

/-- After a successful flush under the same guard a write goes through. -/
theorem writeMessage_of_pollFlush (h : sh.pollFlush = (.ready (.ok ()), sh')) (msg : AdbMessage) :
    ∃ sh'', sh'.writeMessage msg = some (.ok (), sh'') ∧ sh''.error = sh.error ∧
      sh''.connection.isSome := by
  obtain ⟨herr, c, hc, hp⟩ := pollFlush_ok h
  simp only [writeMessage, hc, UsbConnection.writeMessage, if_pos hp]
  exact ⟨_, rfl, herr, rfl⟩

/-- A write is refused only when the connection is gone. -/
theorem writeMessage_error {msg : AdbMessage} {err : Error}
    (h : sh.writeMessage msg = some (.error err, sh')) : sh.connection = none ∧ sh = sh' := by
  unfold writeMessage at h
  split at h
  · rename_i hc
    simp only [Option.some.injEq, Prod.mk.injEq] at h
    exact ⟨hc, h.2⟩
  · split at h
    · simp at h
    · simp at h

/-- A flushed connection accepts a write; without a connection it is refused. -/
theorem Flushed.writeMessage_ne_none (h : sh.Flushed) (msg : AdbMessage) :
    sh.writeMessage msg ≠ none := by
  unfold Shared.writeMessage
  split
  · simp
  · rename_i inner hi
    simp [UsbConnection.writeMessage, h inner hi]

end Shared

/-- What one critical section may do to the shared connection, given the messages it submitted: it
never clears an error, it loses the connection only with an error, and it makes a transfer pending
only by submitting a message. -/
structure Shared.Next (sh sh' : Shared) (sent : List AdbMessage) : Prop where
  error : sh'.error = none → sh.error = none
  connection : sh'.error = none → sh.connection.isSome → sh'.connection.isSome
  flushed : sent = [] → sh.Flushed → sh'.Flushed

namespace Shared

variable {sh sh' sh'' : Shared} {sent sent' : List AdbMessage}

theorem Next.refl (sh : Shared) : sh.Next sh [] := ⟨id, fun _ h => h, fun _ h => h⟩

theorem Next.trans (h : sh.Next sh' sent) (h' : sh'.Next sh'' sent') :
    sh.Next sh'' (sent ++ sent') where
  error hn := h.error (h'.error hn)
  connection hn hs := h'.connection hn (h.connection (h'.error hn) hs)
  flushed hnil hf := by
    obtain ⟨rfl, rfl⟩ := List.append_eq_nil_iff.mp hnil
    exact h'.flushed rfl (h.flushed rfl hf)

theorem onError_next (sh : Shared) (err : Error) : sh.Next (sh.onError err).2 [] := by
  unfold onError
  split
  · exact .refl sh
  · refine ⟨fun h => ?_, fun h => ?_, fun _ _ c hc => ?_⟩
    · simp at h
    · simp at h
    · simp at hc

theorem pollFlush_next (sh : Shared) : sh.Next sh.pollFlush.2 [] := by
  refine ⟨fun h => ?_, fun h hs => ?_, fun _ hf => hf.pollFlush⟩
  · unfold pollFlush at h
    split at h
    · exact h
    · rename_i inner hc
      split at h
      · exact h
      · exact h
      · exact (onError_next { sh with connection := some _ } _).error h
  · unfold pollFlush at h ⊢
    split
    · exact hs
    · rename_i inner hc
      rw [hc] at h
      simp only at h ⊢
      split
      · rfl
      · rfl
      · rename_i hf
        rw [hf] at h
        exact (onError_next { sh with connection := some _ } _).connection h rfl

/-- A message that is written is what the step submits. -/
theorem writeMessage_next {msg : AdbMessage} {r : Except Error Unit}
    (h : sh.writeMessage msg = some (r, sh')) : sh.Next sh' [msg] := by
  unfold writeMessage at h
  split at h
  · simp only [Option.some.injEq, Prod.mk.injEq] at h
    obtain ⟨-, rfl⟩ := h
    exact ⟨id, fun _ h => h, fun h => by simp at h⟩
  · split at h
    · simp at h
    · simp only [Option.some.injEq, Prod.mk.injEq] at h
      obtain ⟨-, rfl⟩ := h
      exact ⟨id, fun _ _ => rfl, fun h => by simp at h⟩

theorem complete_next (sh : Shared) (r : Except TransferError Unit) :
    sh.Next (sh.complete r) [] := by
  refine ⟨id, fun _ h => by simpa [complete] using h, fun _ hf c hc => ?_⟩
  simp only [complete, Option.map_eq_some_iff] at hc
  obtain ⟨c', hc', rfl⟩ := hc
  have hp : c'.outEndpoint.submitted.length = 0 := hf c' hc'
  simp only [OutEndpoint.complete, OutEndpoint.pending]
  split <;> exact hp

end Shared

/-! ## `write_message_async` -/

/-- The flush behind a write submits nothing and does not panic. -/
theorem pollWritten_spec (sh : Shared) (sent : List AdbMessage) :
    (pollWritten sh sent).outcome ≠ .panic ∧ (pollWritten sh sent).msg = none ∧
      (pollWritten sh sent).sent = sent ∧ sh.Next (pollWritten sh sent).shared [] := by
  have hnext := sh.pollFlush_next
  unfold pollWritten
  split <;> rename_i hf <;> rw [hf] at hnext <;> exact ⟨by simp, rfl, rfl, hnext⟩

/-- A poll of `write_message_async` never fails the assertion, since it flushes under the same
guard; it either keeps its message, or has submitted it now, or had done so before. -/
theorem writeMessageAsync_spec (msg : Option AdbMessage) (sh : Shared) :
    (writeMessageAsync msg sh).outcome ≠ .panic ∧
      sh.Next (writeMessageAsync msg sh).shared (writeMessageAsync msg sh).sent ∧
      (((writeMessageAsync msg sh).msg = msg ∧ (writeMessageAsync msg sh).sent = [] ∧
          ((writeMessageAsync msg sh).outcome = .ready (.ok ()) → msg = none)) ∨
        ∃ m, msg = some m ∧ (writeMessageAsync msg sh).msg = none ∧
          (writeMessageAsync msg sh).sent = [m]) := by
  cases msg with
  | none =>
    obtain ⟨h₁, h₂, h₃, h₄⟩ := pollWritten_spec sh []
    exact ⟨h₁, h₃ ▸ h₄, .inl ⟨h₂, h₃, fun _ => rfl⟩⟩
  | some m =>
    have hnext := sh.pollFlush_next
    simp only [writeMessageAsync]
    split <;> rename_i hf <;> rw [hf] at hnext
    · exact ⟨by simp, hnext, .inl ⟨rfl, rfl, by simp⟩⟩
    · exact ⟨by simp, hnext, .inl ⟨rfl, rfl, by simp⟩⟩
    · obtain ⟨sh'', hw, -⟩ := Shared.writeMessage_of_pollFlush hf m
      obtain ⟨h₁, h₂, h₃, h₄⟩ := pollWritten_spec sh'' [m]
      have hnext' := (hnext.trans (Shared.writeMessage_next hw)).trans h₄
      simp only [hw]
      refine ⟨h₁, ?_, .inr ⟨m, rfl, h₂, h₃⟩⟩
      rw [h₃]
      exact hnext'

/-- What is left of the message, and what was submitted, is the message. -/
theorem writeMessageAsync_msg {msg : Option AdbMessage} {sh : Shared} {m : AdbMessage} :
    ((writeMessageAsync msg sh).msg = some m → msg = some m) ∧
      (m ∈ (writeMessageAsync msg sh).sent → msg = some m) := by
  obtain ⟨-, -, ⟨hmsg, hsent, -⟩ | ⟨m', rfl, hmsg, hsent⟩⟩ := writeMessageAsync_spec msg sh
  · rw [hmsg, hsent]
    exact ⟨fun h => h, by simp⟩
  · rw [hmsg, hsent]
    refine ⟨by simp, fun h => ?_⟩
    obtain rfl : m = m' := by simpa using h
    rfl

/-- Without an error the message is submitted, or kept by a future that is still pending. -/
theorem writeMessageAsync_kept {m : AdbMessage} {sh : Shared} (hconn : sh.connection.isSome)
    (herr : (writeMessageAsync (some m) sh).shared.error = none) :
    m ∈ (writeMessageAsync (some m) sh).sent ∨
      ((writeMessageAsync (some m) sh).msg = some m ∧
        (writeMessageAsync (some m) sh).outcome = .pending) := by
  simp only [writeMessageAsync] at herr ⊢
  split
  · exact .inr ⟨rfl, rfl⟩
  · rename_i hf
    rw [hf] at herr
    rcases Shared.pollFlush_error hf with hne | hnone
    · exact absurd herr hne
    · simp [hnone] at hconn
  · rename_i hf
    obtain ⟨sh'', hw, -⟩ := Shared.writeMessage_of_pollFlush hf m
    left
    simp only [hw, (pollWritten_spec sh'' [m]).2.2.1, List.mem_singleton]

end AdbDaemon.Transport

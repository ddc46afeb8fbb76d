import AdbDaemon.Common.Machine
import AdbDaemon.Transport.Usb

/-!
# Arbitrary USB input

Reference: `UsbConnection::poll_read_message` in `packages/transport/src/connection/usb.rs` and
`AdbMessageHeader::read` in `packages/transport/src/message.rs`.

The device chooses what every IN transfer brings, up to the size of its buffer.  A completion that is
taken as a header is checked; one that is taken as a payload is returned as it came.  So what a poll
returns is right exactly as long as each payload has the length that its header announced
(`usbInput_sound_iff`).
-/

namespace AdbDaemon.Transport

open Common

/-- The oldest submitted buffer completes, with an error or with bytes that fit into it. -/
def InEndpoint.complete (e : InEndpoint) (result : Except TransferError (List UInt8)) :
    Option InEndpoint :=
  match e.queue, result with
  | [], _ => none
  | _ :: queue, .error err => some { queue, completed := e.completed ++ [.error err] }
  | buf :: queue, .ok data =>
    if data.length ≤ buf.requestedLen then
      some { queue, completed := e.completed ++ [.ok { buf with data }] }
    else none

/-! ## The input as a machine -/

/-- A transfer completes, or the connection is polled. -/
inductive InputAct where
  | complete (result : Except TransferError (List UInt8))
  /-- `poll_read_message`. -/
  | poll

/-- What a poll returned. -/
inductive InputEvent where
  | completed
  /-- A poll: the header it found waiting for its payload, the completion it found first, and what
  it returned. -/
  | polled (header : Option AdbMessageHeader) (oldest : Option (Except TransferError Buffer))
      (res : Poll (Except Error AdbMessage))

def UsbConnection.inputStep (c : UsbConnection) : InputAct → Option (UsbConnection × InputEvent)
  | .complete result =>
    match c.inEndpoint.complete result with
    | none => none
    | some inEndpoint => some ({ c with inEndpoint }, .completed)
  | .poll =>
    some (c.pollReadMessage.2, .polled c.inHeader c.inEndpoint.completed.head? c.pollReadMessage.1)

/-- The reading end of a connection, for any completions. -/
def usbInput : Machine UsbConnection InputAct InputEvent := ⟨UsbConnection.inputStep⟩

/-- A completion that cannot be what the reader takes it for: a header that is too short or has an
unknown command, or a payload of another length than announced. -/
def Misfit (header : Option AdbMessageHeader) (data : List UInt8) : Prop :=
  match header with
  | none => data.length < AdbMessageHeader.LENGTH ∨ AdbCommand.tryFrom (getU32Le data).1 = none
  | some header => data.length ≠ header.dataLength.toNat

/-- What a poll owes its caller: a message has as many bytes as its header says, and a completion
that does not fit is an error. -/
def InputEvent.Sound : InputEvent → Prop
  | .completed => True
  | .polled header oldest res =>
    (∀ msg, res = .ready (.ok msg) → msg.payload.length = msg.header.dataLength.toNat) ∧
    ∀ buf, oldest = some (.ok buf) → Misfit header buf.data → ∃ err, res = .ready (.error err)

/-- The payload that a poll finds has the length that its header announced. -/
def InputEvent.Fits : InputEvent → Prop
  | .polled (some header) (some (.ok buf)) _ => buf.data.length = header.dataLength.toNat
  | _ => True

instance : DecidablePred InputEvent.Fits
  | .polled (some header) (some (.ok buf)) _ =>
    inferInstanceAs (Decidable (buf.data.length = header.dataLength.toNat))
  | .completed => .isTrue trivial
  | .polled none _ _ => .isTrue trivial
  | .polled (some _) none _ => .isTrue trivial
  | .polled (some _) (some (.error _)) _ => .isTrue trivial

/-! ## What a poll does -/

/-- One buffer is under way for a header, and one more for a payload. -/
structure Room (c : UsbConnection) : Prop where
  header : c.inHeader = none → c.inEndpoint.pending ≤ 1
  payload : c.inEndpoint.pending ≤ 2

theorem Room.new (packetSize : Nat) : Room (UsbConnection.new packetSize) where
  header _ := Nat.zero_le 1
  payload := Nat.zero_le 2

/-- A completion does not change how many buffers are out. -/
theorem InEndpoint.pending_complete {e e' : InEndpoint}
    {result : Except TransferError (List UInt8)} (h : e.complete result = some e') :
    e'.pending = e.pending := by
  obtain ⟨queue, completed⟩ := e
  cases queue with
  | nil => cases h
  | cons buf queue =>
    cases result with
    | error err =>
      cases h
      simp only [InEndpoint.pending, List.length_append, List.length_cons, List.length_nil]
      omega
    | ok data =>
      simp only [InEndpoint.complete] at h
      split at h
      · cases h
        simp only [InEndpoint.pending, List.length_append, List.length_cons, List.length_nil]
        omega
      · cases h

/-- A header is refused exactly when it is a misfit. -/
theorem read_error_iff_misfit (data : List UInt8) :
    (∃ err, AdbMessageHeader.read data = .error err) ↔ Misfit none data := by
  rw [AdbMessageHeader.read, Misfit]
  by_cases hshort : data.length < AdbMessageHeader.LENGTH
  · simp [hshort]
  · rw [if_neg hshort]
    cases hword : AdbCommand.tryFrom (getU32Le data).1 with
    | none => simp [hword]
    | some command => simp [hword, hshort]

/-- What a poll returns, by what it finds: nothing, a failed transfer, a payload, or a header. -/
inductive PollResult (c : UsbConnection) : Poll (Except Error AdbMessage) → Prop
  | empty : c.inEndpoint.completed = [] → PollResult c .pending
  | failed {err : TransferError} {rest : List (Except TransferError Buffer)} :
    c.inEndpoint.completed = .error err :: rest →
    PollResult c (.ready (.error (.kind (.usb (.transfer err)))))
  | payload {header : AdbMessageHeader} {buf : Buffer} {rest : List (Except TransferError Buffer)} :
    c.inHeader = some header → c.inEndpoint.completed = .ok buf :: rest →
    PollResult c (.ready (.ok ⟨header, buf.data⟩))
  | refused {buf : Buffer} {err : Error} :
    c.inHeader = none → c.inEndpoint.completed = [.ok buf] →
    AdbMessageHeader.read buf.data = .error err → PollResult c (.ready (.error err))
  | bare {buf : Buffer} {header : AdbMessageHeader} :
    c.inHeader = none → c.inEndpoint.completed = [.ok buf] →
    AdbMessageHeader.read buf.data = .ok header → header.dataLength.toNat = 0 →
    PollResult c (.ready (.ok ⟨header, []⟩))
  | header {buf : Buffer} {header : AdbMessageHeader} :
    c.inHeader = none → c.inEndpoint.completed = [.ok buf] →
    AdbMessageHeader.read buf.data = .ok header → PollResult c .pending

/-- The loop on a connection whose buffers are few enough: what it returns, and the room there is
afterwards. -/
theorem readLoop_spec {c : UsbConnection} (hroom : Room c) :
    PollResult c (c.readLoop c.inEndpoint.completed).1 ∧
      Room (c.readLoop c.inEndpoint.completed).2 := by
  obtain ⟨⟨queue, completed⟩, out, packetSize, inHeader⟩ := c
  have htwo : completed.length + queue.length ≤ 2 := hroom.payload
  have hone : inHeader = none → completed.length + queue.length ≤ 1 := hroom.header
  cases completed with
  | nil => exact ⟨.empty rfl, hroom⟩
  | cons oldest rest =>
    rw [List.length_cons] at htwo hone
    cases oldest with
    | error err =>
      refine ⟨.failed rfl, ⟨fun hnone => ?_, ?_⟩⟩
      · have := hone hnone
        show rest.length + queue.length ≤ 1
        omega
      · show rest.length + queue.length ≤ 2
        omega
    | ok buf =>
      cases inHeader with
      | some header =>
        refine ⟨.payload rfl rfl, ⟨fun _ => ?_, ?_⟩⟩
        · show rest.length + queue.length ≤ 1
          omega
        · show rest.length + queue.length ≤ 2
          omega
      | none =>
        -- a header is the only buffer under way
        have hlast := hone rfl
        obtain rfl : rest = [] := List.eq_nil_of_length_eq_zero (by omega)
        obtain rfl : queue = [] := List.eq_nil_of_length_eq_zero (by omega)
        simp only [UsbConnection.readLoop]
        cases hread : AdbMessageHeader.read buf.data with
        | error err =>
          exact ⟨.refused rfl rfl hread, ⟨fun _ => Nat.zero_le 1, Nat.zero_le 2⟩⟩
        | ok header =>
          simp only
          by_cases hzero : header.dataLength.toNat = 0
          · simp only [hzero, if_true, Nat.lt_irrefl, if_false]
            exact ⟨.bare rfl rfl hread hzero, ⟨fun _ => Nat.le_refl 1, Nat.le_succ 1⟩⟩
          · simp only [if_neg hzero, if_pos (Nat.pos_of_ne_zero hzero)]
            exact ⟨.header rfl rfl hread, ⟨nofun, Nat.le_refl 2⟩⟩

/-- What a poll returns, from an endpoint with room. -/
theorem pollReadMessage_spec {c : UsbConnection} (hroom : Room c) :
    PollResult c c.pollReadMessage.1 ∧ Room c.pollReadMessage.2 := by
  by_cases hidle : c.inEndpoint.pending = 0
  · obtain ⟨⟨queue, completed⟩, out, packetSize, inHeader⟩ := c
    obtain ⟨hcompleted, hqueue⟩ : completed.length = 0 ∧ queue.length = 0 :=
      Nat.add_eq_zero_iff.mp hidle
    obtain rfl := List.eq_nil_of_length_eq_zero hcompleted
    obtain rfl := List.eq_nil_of_length_eq_zero hqueue
    exact ⟨.empty rfl, ⟨fun _ => Nat.le_refl 1, Nat.le_succ 1⟩⟩
  · simp only [UsbConnection.pollReadMessage, if_neg hidle]
    exact readLoop_spec hroom

/-! ## Runs -/

/-- A poll is sound exactly when the payload it finds fits the header that was read before it. -/
theorem sound_iff_fits {c : UsbConnection} {res : Poll (Except Error AdbMessage)}
    (h : PollResult c res) :
    (InputEvent.polled c.inHeader c.inEndpoint.completed.head? res).Sound ↔
      (InputEvent.polled c.inHeader c.inEndpoint.completed.head? res).Fits := by
  cases h with
  | empty hcompleted =>
    rw [hcompleted]
    cases c.inHeader <;> simp [InputEvent.Sound, InputEvent.Fits]
  | failed hcompleted =>
    rw [hcompleted]
    cases c.inHeader <;> simp [InputEvent.Sound, InputEvent.Fits]
  | @payload header buf rest hheader hcompleted =>
    -- the one completion whose length is not looked at
    rw [hheader, hcompleted]
    constructor
    · rintro ⟨hlen, -⟩
      exact hlen ⟨header, buf.data⟩ rfl
    · intro hfits
      refine ⟨?_, ?_⟩
      · rintro msg ⟨⟩
        exact hfits
      · rintro buf' ⟨⟩ hmisfit
        exact absurd hfits hmisfit
  | refused hheader hcompleted hread =>
    rw [hheader, hcompleted]
    exact ⟨fun _ => trivial, fun _ => ⟨nofun, fun _ _ _ => ⟨_, rfl⟩⟩⟩
  | @bare buf header hheader hcompleted hread hzero =>
    rw [hheader, hcompleted]
    refine ⟨fun _ => trivial, fun _ => ⟨?_, ?_⟩⟩
    · rintro msg ⟨⟩
      exact hzero.symm
    · rintro buf' ⟨⟩ hmisfit
      obtain ⟨err, herr⟩ := (read_error_iff_misfit buf.data).mpr hmisfit
      rw [hread] at herr
      cases herr
  | @header buf header hheader hcompleted hread =>
    rw [hheader, hcompleted]
    refine ⟨fun _ => trivial, fun _ => ⟨nofun, ?_⟩⟩
    rintro buf' ⟨⟩ hmisfit
    obtain ⟨err, herr⟩ := (read_error_iff_misfit buf.data).mpr hmisfit
    rw [hread] at herr
    cases herr

/-- One step: there is room again, and what was returned is sound exactly when the sizes of the
buffers fit. -/
theorem inputStep_spec {c c' : UsbConnection} {a : InputAct} {e : InputEvent} (hroom : Room c)
    (h : usbInput.step c a = some (c', e)) : Room c' ∧ (e.Sound ↔ e.Fits) := by
  cases a with
  | complete result =>
    simp only [usbInput, UsbConnection.inputStep] at h
    split at h
    · cases h
    · rename_i inEndpoint hcomplete
      cases h
      have hpending := InEndpoint.pending_complete hcomplete
      refine ⟨⟨fun hnone => ?_, ?_⟩, by simp [InputEvent.Sound, InputEvent.Fits]⟩
      · rw [hpending]
        exact hroom.header hnone
      · rw [hpending]
        exact hroom.payload
  | poll =>
    cases h
    obtain ⟨hres, hroom'⟩ := pollReadMessage_spec hroom
    exact ⟨hroom', sound_iff_fits hres⟩

/-- In a run over any completions, every poll returns only messages of the announced length and an
error for what does not fit, exactly when every payload that a poll finds has the announced
length. -/
theorem usbInput_sound_iff {packetSize : Nat} {tr : List InputEvent} {c : UsbConnection}
    (hrun : usbInput.Run (UsbConnection.new packetSize) tr c) :
    (∀ e ∈ tr, e.Sound) ↔ ∀ e ∈ tr, e.Fits := by
  refine hrun.forall_iff Room InputEvent.Sound InputEvent.Fits (Room.new packetSize) ?_
  intro c a c' e hroom hstep
  obtain ⟨hroom', hiff⟩ := inputStep_spec hroom hstep
  exact ⟨hiff, fun _ => hroom'⟩

/-- A header that announces three bytes. -/
def writeHeader : AdbMessageHeader := ⟨.WRTE, 1, 1, 3, 0, 0⟩

/-- The schedule that reads that header and then a payload of `data`. -/
def readPayload (data : List UInt8) : List InputAct :=
  [.poll, .complete (.ok writeHeader.toVec), .poll, .complete (.ok data), .poll]

/-- The event of a poll that returned a message. -/
def InputEvent.returned : InputEvent → Option AdbMessage
  | .polled _ _ (.ready (.ok msg)) => some msg
  | _ => none

/-- A sound message has the payload that its header announces. -/
theorem InputEvent.Sound.length_returned {e : InputEvent} {msg : AdbMessage} (h : e.Sound)
    (hmsg : e.returned = some msg) : msg.payload.length = msg.header.dataLength.toNat := by
  unfold InputEvent.returned at hmsg
  split at hmsg
  · cases hmsg
    exact h.1 msg rfl
  · cases hmsg

/-- A message of the announced length. -/
theorem usbInput_sound_message :
    ∃ tr c, usbInput.Run (UsbConnection.new 64) tr c ∧
      tr.filterMap InputEvent.returned = [⟨writeHeader, [1, 2, 3]⟩] ∧ ∀ e ∈ tr, e.Sound := by
  obtain ⟨c, tr, hrun, htest⟩ := Machine.exists_run_of_exec (M := usbInput)
    (s := UsbConnection.new 64) (readPayload [1, 2, 3])
    (fun _ tr => decide (tr.filterMap InputEvent.returned = [⟨writeHeader, [1, 2, 3]⟩]) &&
      tr.all fun e => decide e.Fits) (by decide +kernel)
  rw [Bool.and_eq_true, decide_eq_true_eq, List.all_eq_true] at htest
  refine ⟨tr, c, hrun, htest.1, (usbInput_sound_iff hrun).mpr fun e he => ?_⟩
  exact of_decide_eq_true (htest.2 e he)

/-- Two bytes after a header that announced three are returned as its payload. -/
theorem usbInput_short_payload :
    ¬ ∀ (packetSize : Nat) (tr : List InputEvent) (c : UsbConnection),
      AdbMessageHeader.LENGTH ≤ packetSize → usbInput.Run (UsbConnection.new packetSize) tr c →
      ∀ e ∈ tr, e.Sound := by
  intro h
  obtain ⟨c, tr, hrun, htest⟩ := Machine.exists_run_of_exec (M := usbInput)
    (s := UsbConnection.new 64) (readPayload [1, 2])
    (fun _ tr => tr.any fun e => decide (e.returned = some ⟨writeHeader, [1, 2]⟩))
    (by decide +kernel)
  obtain ⟨e, he, hreturned⟩ := List.any_eq_true.mp htest
  have hsound := h 64 tr c (by decide) hrun e he
  exact absurd (hsound.length_returned (of_decide_eq_true hreturned)) (by decide)

end AdbDaemon.Transport

import Mathlib.Logic.Equiv.Basic
import AdbDaemon.Common.Machine
import AdbDaemon.Common.Table
import AdbDaemon.Forward.Command

/-!
# Reverse forwards

Reference: `handle_reverse` and `handle_socket` of `src/forward.rs`.

The host replays the reverse requests it passes on, and admits a stream that the device opens if
some replayed entry has its endpoint as the local end. `acceptReverse` is what the requests mean on
a device, which takes any text for an endpoint. `reverseMachine` replays them on both sides, for
requests that the device accepts.

The host enters a request for an automatic port under `tcp:0`, the device under the port it
allocates. With one such entry the tables are the same up to a renaming, as long as no request names
either of the two (`NotAutomatic`). A request with an endpoint that the host takes for a port and
cannot read is denied by it (`denied_of_unreadable`); the condition on a run is `Replayable`.
-/

namespace AdbDaemon.Forward

open Common

/-- `Reverse`: the local endpoint that a remote one is forwarded to. -/
structure Reverse where
  localProto : Proto

abbrev ReverseForwards := Table Proto Reverse

/-! ## The host -/

/-- What `handle_reverse` does with a command. -/
def replay (forwards : ReverseForwards) : ForwardCommand → Except Report ReverseForwards
  | .add remote localProto norebind =>
    if norebind = true ∧ remote ∈ forwards then .error ["already bound, would fail"]
    else .ok (forwards.insert remote ⟨localProto⟩)
  | .remove proto => .ok (forwards.erase proto)
  | .removeAll => .ok ∅
  | .list => .ok forwards

/-- `handle_reverse`, with the table of the connection before and after. -/
def handleReverse (forwards : ReverseForwards) (service : String) : Except Report ReverseForwards :=
  match stripPrefix "reverse:" service with
  | none => .ok forwards
  | some service =>
    match ForwardCommand.parse service with
    | .error report => .error report
    | .ok none => .error ["malformed reverse service"]
    | .ok (some cmd) => replay forwards cmd

/-- `handle_socket` up to the connect: the local port that a stream of this service is connected
to. -/
def handleSocket (forwards : ReverseForwards) (service : String) : Except Report UInt16 :=
  match context "parse proto" (Proto.parse service) with
  | .error report => .error report
  | .ok (.other _) => .error ["unsupported protocol"]
  | .ok (.tcp port) =>
    if (Table.values forwards).any fun f => f.localProto = .tcp port then .ok port
    else .error ["denied"]

/-- A stream is admitted if its service parses as the local end of an entry. -/
theorem handleSocket_eq_ok {forwards : ReverseForwards} {service : String} {port : UInt16} :
    handleSocket forwards service = .ok port ↔
      Proto.parse service = .ok (.tcp port) ∧ ∃ x, forwards.lookup x = some ⟨.tcp port⟩ := by
  have hany : ∀ p : UInt16, ((Table.values forwards).any fun f => f.localProto = .tcp p) = true ↔
      ∃ x, forwards.lookup x = some ⟨.tcp p⟩ := by
    intro p
    simp only [List.any_eq_true, decide_eq_true_eq, ← Table.mem_values]
    constructor
    · rintro ⟨⟨f⟩, hf, rfl⟩
      exact hf
    · intro hf
      exact ⟨_, hf, rfl⟩
  rw [handleSocket]
  cases hparse : Proto.parse service with
  | error report => simp [context]
  | ok proto =>
    -- only a TCP remote can be connected to
    cases proto with
    | other s => simp [context]
    | tcp p =>
      simp only [context, Except.ok.injEq, Proto.tcp.injEq]
      constructor
      · intro h
        split at h
        · rename_i hp
          obtain rfl : p = port := by simpa using h
          exact ⟨rfl, (hany p).mp hp⟩
        · exact absurd h (by simp)
      · rintro ⟨rfl, hp⟩
        rw [if_pos ((hany p).mpr hp)]

/-! ## The device -/

/-- A reverse request, with its endpoints as they are written. -/
inductive ReverseRequest where
  | add (remote target : String) (norebind : Bool)
  | remove (remote : String)
  | removeAll
  | list

namespace ReverseRequest

/-- The request of a service string, if it has the form of one. -/
def parse (service : String) : Option ReverseRequest :=
  match stripPrefix "reverse:" service with
  | none => none
  | some service =>
    match stripPrefix "forward:" service with
    | some service =>
      let (norebind, service) :=
        match stripPrefix "norebind:" service with
        | some s => (true, s)
        | none => (false, service)
      (splitOnce ';' service).map fun ends => add ends.1 ends.2 norebind
    | none =>
      match stripPrefix "killforward:" service with
      | some remote => some (remove remote)
      | none =>
        if service = "killforward-all" then some removeAll
        else if service = "list-forward" then some list
        else none

def endpoints : ReverseRequest → List String
  | add remote target _ => [remote, target]
  | remove remote => [remote]
  | removeAll | list => []

end ReverseRequest

/-- The host reads the endpoint. -/
def Readable (endpoint : String) : Prop := (Proto.parse endpoint).isOk = true

instance (endpoint : String) : Decidable (Readable endpoint) :=
  inferInstanceAs (Decidable (_ = true))

/-- An endpoint as the device reads it: a text that the host does not read is a name of its own. -/
def deviceProto (endpoint : String) : Proto :=
  match Proto.parse endpoint with
  | .ok proto => proto
  | .error _ => .other endpoint

/-- The command that a request is on the device. -/
def ReverseRequest.command : ReverseRequest → ForwardCommand
  | .add remote target norebind => .add (deviceProto remote) (deviceProto target) norebind
  | .remove remote => .remove (deviceProto remote)
  | .removeAll => .removeAll
  | .list => .list

/-- What a command does to the reverse table of a device, which maps its own endpoints to targets;
`none` if the device does not accept it. `port` is the port that it would allocate. -/
def acceptReverse (device : Table Proto Proto) (port : UInt16) :
    ForwardCommand → Option (Table Proto Proto)
  | .add x y norebind =>
    if x = .tcp 0 then
      if port ≠ 0 ∧ .tcp port ∉ device then some (device.insert (.tcp port) y) else none
    else if norebind = true ∧ x ∈ device then none
    else some (device.insert x y)
  | .remove x => some (device.erase x)
  | .removeAll => some ∅
  | .list => some device

/-! ## Both -/

/-- The host's table, the device's own, and the ports that the device has chosen. -/
structure ReverseSt where
  forwards : ReverseForwards
  device : Table Proto Proto
  /-- The ports that the device allocated since the last `killforward-all`. -/
  allocated : List UInt16

/-- A service string that asks for a reverse operation, and the port the device would allocate. -/
structure ReverseAct where
  service : String
  port : UInt16

/-- What the host did with a request that the device has accepted. -/
inductive ReverseEvent where
  /-- `handle_reverse` let the request through. -/
  | passed
  | denied (report : Report)
deriving DecidableEq

namespace ReverseSt

/-- No reverse forwards on either side. -/
def new : ReverseSt where
  forwards := ∅
  device := ∅
  allocated := []

/-- The command of a reverse request, as the host reads it. -/
def command (service : String) : Option ForwardCommand :=
  match stripPrefix "reverse:" service with
  | none => none
  | some service =>
    match ForwardCommand.parse service with
    | .ok cmd => cmd
    | .error _ => none

def allocatedAfter (allocated : List UInt16) (port : UInt16) : ForwardCommand → List UInt16
  | .add x _ _ => if x = .tcp 0 then port :: allocated else allocated
  | .removeAll => []
  | _ => allocated

/-- A request that the device accepts. If the host denies it, the device does not see it. -/
def step (s : ReverseSt) (a : ReverseAct) : Option (ReverseSt × ReverseEvent) :=
  match ReverseRequest.parse a.service with
  | none => none
  | some req =>
    match acceptReverse s.device a.port req.command with
    | none => none
    | some device =>
      match handleReverse s.forwards a.service with
      | .error report => some (s, .denied report)
      | .ok forwards =>
        some (⟨forwards, device, allocatedAfter s.allocated a.port req.command⟩, .passed)

end ReverseSt

/-- The host replays what the device accepts, request by request. -/
def reverseMachine : Machine ReverseSt ReverseAct ReverseEvent where
  step := ReverseSt.step

/-- The endpoint that a command adds or removes. -/
def ForwardCommand.named : ForwardCommand → Option Proto
  | .add x _ _ => some x
  | .remove x => some x
  | _ => none

/-- `x` is no port that the device has allocated, and not `tcp:0` while there is one. -/
def NotAutomatic (allocated : List UInt16) (x : Proto) : Prop :=
  (x = .tcp 0 → allocated = []) ∧ x ∉ allocated.map Proto.tcp

instance (allocated : List UInt16) (x : Proto) : Decidable (NotAutomatic allocated x) :=
  inferInstanceAs (Decidable ((x = .tcp 0 → allocated = []) ∧ x ∉ allocated.map Proto.tcp))

/-- The host reads the endpoints of the request, which names no automatic port. -/
def Replayable (s : ReverseSt) (a : ReverseAct) (_ : ReverseEvent) : Prop :=
  ∀ req, ReverseRequest.parse a.service = some req →
    (∀ x ∈ req.endpoints, Readable x) ∧
      ∀ x, req.command.named = some x → NotAutomatic s.allocated x

instance (s : ReverseSt) (a : ReverseAct) (e : ReverseEvent) : Decidable (Replayable s a e) :=
  match hreq : ReverseRequest.parse a.service with
  | none => isTrue (by simp [Replayable, hreq])
  | some req =>
    match hnamed : req.command.named with
    | none =>
      decidable_of_iff (∀ x ∈ req.endpoints, Readable x) (by simp [Replayable, hreq, hnamed])
    | some x =>
      decidable_of_iff ((∀ x ∈ req.endpoints, Readable x) ∧ NotAutomatic s.allocated x)
        (by simp [Replayable, hreq, hnamed])

/-! ## What a step can do -/

/-- The host replays the command that it reads. -/
theorem handleReverse_of_command {forwards : ReverseForwards} {service : String}
    {cmd : ForwardCommand} (h : ReverseSt.command service = some cmd) :
    handleReverse forwards service = replay forwards cmd := by
  rw [ReverseSt.command] at h
  rw [handleReverse]
  split at h
  · exact absurd h (by simp)
  · rename_i rest hrest
    split at h
    · rename_i cmd' hparse
      subst h
      simp only [hparse]
    · exact absurd h (by simp)

/-- The command that the host reads in a request. -/
def ReverseRequest.read : ReverseRequest → Except Report ForwardCommand
  | .add remote target norebind => do
    let left ← context "parse local" (Proto.parse remote)
    let right ← context "parse remote" (Proto.parse target)
    return .add left right norebind
  | .remove remote => do return .remove (← Proto.parse remote)
  | .removeAll => .ok .removeAll
  | .list => .ok .list

/-- Host and device take a request apart in the same way, and differ in its endpoints only. -/
theorem parse_request {service : String} {req : ReverseRequest}
    (h : ReverseRequest.parse service = some req) :
    ∃ rest, stripPrefix "reverse:" service = some rest ∧
      ForwardCommand.parse rest = req.read.map some := by
  unfold ReverseRequest.parse at h
  obtain ⟨stripped, hrest⟩ : ∃ o, stripPrefix "reverse:" service = o := ⟨_, rfl⟩
  cases stripped with
  | none => exact absurd h (by simp [hrest])
  | some rest =>
    simp only [hrest] at h
    refine ⟨rest, hrest, ?_⟩
    unfold ForwardCommand.parse
    obtain ⟨forward, hforward⟩ : ∃ o, stripPrefix "forward:" rest = o := ⟨_, rfl⟩
    cases forward with
    | some service =>
      obtain ⟨norebind, hno⟩ : ∃ o, stripPrefix "norebind:" service = o := ⟨_, rfl⟩
      -- a request without a semicolon is none for either of them
      cases norebind with
      | none | some =>
        simp only [hforward, hno, Option.map_eq_some_iff] at h ⊢
        obtain ⟨⟨x, y⟩, hsplit, rfl⟩ := h
        simp only [hsplit, ReverseRequest.read]
        cases context "parse local" (Proto.parse x) with
        | error report => rfl
        | ok left => cases context "parse remote" (Proto.parse y) <;> rfl
    | none =>
      obtain ⟨kill, hkill⟩ : ∃ o, stripPrefix "killforward:" rest = o := ⟨_, rfl⟩
      cases kill with
      | some x =>
        simp only [hforward, hkill, Option.some.injEq] at h ⊢
        subst h
        rw [ReverseRequest.read]
        cases Proto.parse x <;> rfl
      | none =>
        simp only [hforward, hkill] at h ⊢
        by_cases hall : rest = "killforward-all"
        · rw [if_pos hall] at h ⊢
          cases h
          rfl
        · rw [if_neg hall] at h ⊢
          by_cases hlist : rest = "list-forward"
          · rw [if_pos hlist] at h ⊢
            cases h
            rfl
          · rw [if_neg hlist] at h
            cases h

/-- The device reads the endpoint as the host does. -/
theorem parse_of_readable {x : String} (h : Readable x) : Proto.parse x = .ok (deviceProto x) := by
  unfold deviceProto
  cases hparse : Proto.parse x with
  | ok proto => rfl
  | error report =>
    rw [Readable, hparse] at h
    cases h

/-- The host reads the command that the device reads, if it reads its endpoints. -/
theorem command_of_readable {service : String} {req : ReverseRequest}
    (h : ReverseRequest.parse service = some req) (hread : ∀ x ∈ req.endpoints, Readable x) :
    ReverseSt.command service = some req.command := by
  obtain ⟨rest, hrest, hparse⟩ := parse_request h
  have hcommand : req.read = .ok req.command := by
    cases req with
    | add x y norebind =>
      have hx := parse_of_readable (hread x (.head _))
      have hy := parse_of_readable (hread y (.tail _ (.head _)))
      rw [ReverseRequest.read, hx, hy]
      rfl
    | remove x =>
      rw [ReverseRequest.read, parse_of_readable (hread x (.head _))]
      rfl
    | removeAll | list => rfl
  rw [hcommand] at hparse
  simp only [ReverseSt.command, hrest, hparse]
  rfl

/-- An endpoint that is not read is an error for the host. -/
theorem exists_error_of_unreadable {x : String} (h : ¬ Readable x) :
    ∃ report, Proto.parse x = .error report := by
  cases hparse : Proto.parse x with
  | ok proto => exact absurd (by rw [Readable, hparse]; rfl) h
  | error report => exact ⟨report, rfl⟩

/-- Every request with an endpoint that the host does not read is denied. -/
theorem denied_of_unreadable {forwards : ReverseForwards} {service x : String}
    {req : ReverseRequest} (h : ReverseRequest.parse service = some req) (hx : x ∈ req.endpoints)
    (hunread : ¬ Readable x) : ∃ report, handleReverse forwards service = .error report := by
  obtain ⟨rest, hrest, hparse⟩ := parse_request h
  obtain ⟨report, hreport⟩ := exists_error_of_unreadable hunread
  have hfails : ∃ report, req.read = .error report := by
    cases req with
    | add x' y norebind =>
      simp only [ReverseRequest.endpoints, List.mem_cons, List.not_mem_nil, or_false] at hx
      cases hleft : Proto.parse x' with
      | error report' => exact ⟨_, by rw [ReverseRequest.read, hleft]; rfl⟩
      | ok left =>
        -- the first endpoint is read, so it is the second that is not
        obtain rfl | rfl := hx
        · rw [hleft] at hreport
          cases hreport
        · exact ⟨_, by rw [ReverseRequest.read, hleft, hreport]; rfl⟩
    | remove x' =>
      obtain rfl := List.mem_singleton.mp hx
      exact ⟨_, by rw [ReverseRequest.read, hreport]; rfl⟩
    | removeAll | list => cases hx
  obtain ⟨report', hread⟩ := hfails
  rw [hread] at hparse
  exact ⟨report', by simp only [handleReverse, hrest, hparse]; rfl⟩

/-- What a step can do: the device accepts the request, and the host replays it or denies it. -/
theorem reverseStep_of_step {s s' : ReverseSt} {a : ReverseAct} {e : ReverseEvent}
    (h : reverseMachine.step s a = some (s', e)) :
    ∃ req device, ReverseRequest.parse a.service = some req ∧
      acceptReverse s.device a.port req.command = some device ∧
      ((∃ forwards, handleReverse s.forwards a.service = .ok forwards ∧ e = .passed ∧
          s' = ⟨forwards, device, ReverseSt.allocatedAfter s.allocated a.port req.command⟩) ∨
        ∃ report, handleReverse s.forwards a.service = .error report ∧ e = .denied report ∧
          s' = s) := by
  simp only [reverseMachine, ReverseSt.step] at h
  split at h
  · cases h
  · rename_i req hreq
    split at h
    · cases h
    · rename_i device hdevice
      refine ⟨req, device, hreq, hdevice, ?_⟩
      split at h
      · rename_i report hreport
        cases h
        exact .inr ⟨report, hreport, rfl, rfl⟩
      · rename_i forwards hforwards
        cases h
        exact .inl ⟨forwards, hforwards, rfl, rfl⟩

/-! ## The tables agree up to the automatic port -/

/-- The endpoint on the device for an endpoint on the host. -/
def deviceEnd : List UInt16 → Equiv.Perm Proto
  | [] => Equiv.refl _
  | p :: _ => Equiv.swap (.tcp 0) (.tcp p)

/-- A request that names no automatic port means the same endpoint on both sides. -/
theorem deviceEnd_eq_self {allocated : List UInt16} {x : Proto} (hx : NotAutomatic allocated x) :
    deviceEnd allocated x = x := by
  obtain ⟨hzero, hports⟩ := hx
  cases allocated with
  | nil => rfl
  | cons p ps =>
    refine Equiv.swap_apply_of_ne_of_ne (fun hx => absurd (hzero hx) (by simp)) ?_
    rintro rfl
    exact hports (by simp)

/-- The two tables agree: the host's key of an entry is the request, and the device's the port it
may have chosen for it. -/
structure ReverseAgree (s : ReverseSt) : Prop where
  lookup_device : ∀ x,
    s.device.lookup (deviceEnd s.allocated x) = (s.forwards.lookup x).map Reverse.localProto
  zero_unbound : s.device.lookup (.tcp 0) = none

namespace ReverseAgree

variable {s : ReverseSt}

theorem init : ReverseAgree ReverseSt.new where
  lookup_device x := by simp [ReverseSt.new]
  zero_unbound := by simp [ReverseSt.new]

/-- An endpoint with the same name on both sides is bound on both or on none. -/
theorem bound_iff (h : ReverseAgree s) {x : Proto} (hx : deviceEnd s.allocated x = x) :
    x ∈ s.device ↔ x ∈ s.forwards := by
  have hlookup := h.lookup_device x
  rw [hx] at hlookup
  rw [← AList.lookup_isSome, ← AList.lookup_isSome, hlookup, Option.isSome_map]

/-- Both sides enter the same endpoint. -/
theorem insert_same (h : ReverseAgree s) {x : Proto} (y : Proto) (hx : deviceEnd s.allocated x = x)
    (hzero : x ≠ .tcp 0) :
    ReverseAgree ⟨s.forwards.insert x ⟨y⟩, s.device.insert x y, s.allocated⟩ where
  lookup_device x' := by
    by_cases hxx' : x' = x
    · subst hxx'
      rw [hx, AList.lookup_insert, AList.lookup_insert, Option.map_some]
    · have hne : deviceEnd s.allocated x' ≠ x := by
        rw [← hx]
        exact fun heq => hxx' ((deviceEnd s.allocated).injective heq)
      simp only [AList.lookup_insert_ne hne, AList.lookup_insert_ne hxx', h.lookup_device]
  zero_unbound := by
    simp only [AList.lookup_insert_ne (Ne.symm hzero), h.zero_unbound]

/-- Both sides remove the same endpoint. -/
theorem erase_same (h : ReverseAgree s) {x : Proto} (hx : deviceEnd s.allocated x = x) :
    ReverseAgree ⟨s.forwards.erase x, s.device.erase x, s.allocated⟩ where
  lookup_device x' := by
    by_cases hxx' : x' = x
    · subst hxx'
      rw [hx, AList.lookup_erase, AList.lookup_erase, Option.map_none]
    · have hne : deviceEnd s.allocated x' ≠ x := by
        rw [← hx]
        exact fun heq => hxx' ((deviceEnd s.allocated).injective heq)
      simp only [AList.lookup_erase_ne hne, AList.lookup_erase_ne hxx', h.lookup_device]
  zero_unbound := by
    by_cases hzero : Proto.tcp 0 = x
    · simp [← hzero, AList.lookup_erase]
    · simp only [AList.lookup_erase_ne hzero, h.zero_unbound]

/-- The first automatic port: `tcp:0` on the host, a fresh port on the device. -/
theorem insert_automatic (h : ReverseAgree s) (y : Proto) {port : UInt16}
    (hallocated : s.allocated = []) (hport : port ≠ 0) (hfresh : .tcp port ∉ s.device) :
    ReverseAgree
      ⟨s.forwards.insert (.tcp 0) ⟨y⟩, s.device.insert (.tcp port) y, port :: s.allocated⟩ := by
  have hne : Proto.tcp 0 ≠ .tcp port := fun heq => hport (Proto.tcp.inj heq).symm
  have hsame : ∀ x, (s.forwards.lookup x).map Reverse.localProto = s.device.lookup x := by
    intro x
    rw [← h.lookup_device, hallocated]
    rfl
  constructor
  · intro x
    simp only [deviceEnd]
    by_cases hzero : x = .tcp 0
    · subst hzero
      rw [Equiv.swap_apply_left, AList.lookup_insert, AList.lookup_insert, Option.map_some]
    · rw [AList.lookup_insert_ne hzero, hsame]
      by_cases hx : x = .tcp port
      · subst hx
        rw [Equiv.swap_apply_right, AList.lookup_insert_ne hne, h.zero_unbound]
        exact (AList.lookup_eq_none.mpr hfresh).symm
      · rw [Equiv.swap_apply_of_ne_of_ne hzero hx, AList.lookup_insert_ne hx]
  · simp only [AList.lookup_insert_ne hne, h.zero_unbound]

/-- The host adds what the device adds. For an automatic port the device's key is the port it chose,
and the host's the request as it stands. -/
theorem add (h : ReverseAgree s) {x y : Proto} {norebind : Bool} {port : UInt16}
    {device : Table Proto Proto} (hdevice : acceptReverse s.device port (.add x y norebind) = some device)
    (hnot : NotAutomatic s.allocated x) :
    ∃ forwards, replay s.forwards (.add x y norebind) = .ok forwards ∧
      ReverseAgree
        ⟨forwards, device, ReverseSt.allocatedAfter s.allocated port (.add x y norebind)⟩ := by
  have hsame := deviceEnd_eq_self hnot
  have hbound := h.bound_iff hsame
  simp only [acceptReverse] at hdevice
  -- for `tcp:0` the device chooses the port, and the host records the request as it stands
  by_cases hx : x = .tcp 0
  · subst hx
    rw [if_pos rfl] at hdevice
    split at hdevice
    · rename_i hport
      cases hdevice
      have hfree : Proto.tcp 0 ∉ s.forwards :=
        hbound.not.mp (AList.lookup_eq_none.mp h.zero_unbound)
      refine ⟨s.forwards.insert (.tcp 0) ⟨y⟩, by simp [replay, hfree], ?_⟩
      simpa [ReverseSt.allocatedAfter] using h.insert_automatic y (hnot.1 rfl) hport.1 hport.2
    · exact absurd hdevice (by simp)
  · rw [if_neg hx] at hdevice
    split at hdevice
    · exact absurd hdevice (by simp)
    · rename_i hnorebind
      cases hdevice
      rw [hbound] at hnorebind
      refine ⟨s.forwards.insert x ⟨y⟩, by rw [replay, if_neg hnorebind], ?_⟩
      simpa [ReverseSt.allocatedAfter, hx] using h.insert_same y hsame hx

/-- The host lets through what the device accepts, and the tables still agree. -/
theorem command (h : ReverseAgree s) {cmd : ForwardCommand} {port : UInt16}
    {device : Table Proto Proto} (hdevice : acceptReverse s.device port cmd = some device)
    (hnamed : ∀ x, cmd.named = some x → NotAutomatic s.allocated x) :
    ∃ forwards, replay s.forwards cmd = .ok forwards ∧
      ReverseAgree ⟨forwards, device, ReverseSt.allocatedAfter s.allocated port cmd⟩ := by
  cases cmd with
  | add x y norebind => exact h.add hdevice (hnamed x rfl)
  | remove x =>
    cases hdevice
    exact ⟨_, rfl, h.erase_same (deviceEnd_eq_self (hnamed x rfl))⟩
  | removeAll =>
    cases hdevice
    exact ⟨_, rfl, init⟩
  | list =>
    cases hdevice
    exact ⟨_, rfl, h⟩

/-- A request that the host reads and that names no automatic port is let through. -/
theorem step (h : ReverseAgree s) {s' : ReverseSt} {a : ReverseAct} {e : ReverseEvent}
    (hs : reverseMachine.step s a = some (s', e)) (hreplay : Replayable s a e) :
    e = .passed ∧ ReverseAgree s' := by
  obtain ⟨req, device, hreq, hdevice, hcase⟩ := reverseStep_of_step hs
  obtain ⟨hread, hnamed⟩ := hreplay req hreq
  have hcmd := command_of_readable hreq hread
  rw [handleReverse_of_command hcmd] at hcase
  obtain ⟨forwards, hok, hagree⟩ := h.command hdevice hnamed
  rcases hcase with ⟨forwards', hok', rfl, rfl⟩ | ⟨report, herr, -⟩
  · obtain rfl : forwards = forwards' := Except.ok.inj (hok.symm.trans hok')
    exact ⟨rfl, hagree⟩
  · rw [hok] at herr
    cases herr

/-- Every run whose requests can be replayed. -/
theorem run {tr : List ReverseEvent}
    (h : (reverseMachine.restrict Replayable).Run ReverseSt.new tr s) :
    (∀ e ∈ tr, e = .passed) ∧ ReverseAgree s := by
  refine (h.invariant_forall ReverseAgree (fun e => e = .passed) init ?_).symm
  intro s a s' e hagree hs
  obtain ⟨hstep, hreplay⟩ := Machine.restrict_step.mp hs
  exact (hagree.step hstep hreplay).symm

/-- Both tables have the same targets. -/
theorem target_iff (h : ReverseAgree s) (y : Proto) :
    (∃ x, s.forwards.lookup x = some ⟨y⟩) ↔ y ∈ Table.values s.device := by
  rw [Table.mem_values]
  constructor
  · rintro ⟨x, hx⟩
    refine ⟨deviceEnd s.allocated x, ?_⟩
    rw [h.lookup_device, hx, Option.map_some]
  · rintro ⟨x, hx⟩
    obtain ⟨x', rfl⟩ := (deviceEnd s.allocated).surjective x
    rw [h.lookup_device] at hx
    obtain ⟨⟨y'⟩, hy', rfl⟩ := Option.map_eq_some_iff.mp hx
    exact ⟨x', hy'⟩

end ReverseAgree

/-- In every run of requests that the device accepts, whose endpoints the host reads and which name no
automatic port: the host lets each through, and afterwards admits a stream to `tcp:p` exactly when the
device has an entry with that target. -/
theorem reverse_authorisation_agrees {tr : List ReverseEvent} {s : ReverseSt}
    (h : (reverseMachine.restrict Replayable).Run ReverseSt.new tr s) :
    (∀ e ∈ tr, e = .passed) ∧
      ∀ p : UInt16, handleSocket s.forwards (Proto.tcp p).toString = .ok p ↔
        .tcp p ∈ Table.values s.device := by
  obtain ⟨hpassed, hagree⟩ := ReverseAgree.run h
  refine ⟨hpassed, fun p => ?_⟩
  rw [handleSocket_eq_ok, Proto.parse_toString_tcp]
  simpa using hagree.target_iff (.tcp p)

/-- One automatic port, and a fixed one that is bound and removed. -/
theorem reverse_authorisation_agrees_requests :
    ∃ tr s, (reverseMachine.restrict Replayable).Run ReverseSt.new tr s ∧
      tr = [.passed, .passed, .passed] ∧ .tcp 80 ∈ Table.values s.device ∧
      ∀ p : UInt16, handleSocket s.forwards (Proto.tcp p).toString = .ok p ↔
        .tcp p ∈ Table.values s.device := by
  obtain ⟨s, tr, hrun, htest⟩ := Machine.exists_run_of_exec
    (M := reverseMachine.restrict Replayable) (s := ReverseSt.new)
    [⟨"reverse:forward:tcp:0;tcp:80", 40001⟩, ⟨"reverse:forward:norebind:tcp:5;tcp:81", 0⟩,
      ⟨"reverse:killforward:tcp:5", 0⟩]
    (fun s tr => decide (tr = [.passed, .passed, .passed] ∧ .tcp 80 ∈ Table.values s.device))
    (by decide)
  have htest := of_decide_eq_true htest
  exact ⟨tr, s, hrun, htest.1, htest.2, (reverse_authorisation_agrees hrun).2⟩

/-- Two automatic ports: the second request overwrites the entry of the first one on the host, and a
stream to its target is denied. -/
theorem reverse_second_automatic_port_denied :
    ∃ tr s, reverseMachine.Run ReverseSt.new tr s ∧
      ¬ (handleSocket s.forwards (Proto.tcp 80).toString = .ok 80 ↔
        .tcp 80 ∈ Table.values s.device) := by
  obtain ⟨s, tr, hrun, htest⟩ := Machine.exists_run_of_exec (M := reverseMachine)
    (s := ReverseSt.new)
    [⟨"reverse:forward:tcp:0;tcp:80", 40001⟩, ⟨"reverse:forward:tcp:0;tcp:81", 40002⟩]
    (fun s tr => decide (.tcp 80 ∈ Table.values s.device ∧
      handleSocket s.forwards (Proto.tcp 80).toString = .error ["denied"]))
    (by decide)
  have htest := of_decide_eq_true htest
  refine ⟨tr, s, hrun, ?_⟩
  rw [htest.2]
  simp [htest.1]

end AdbDaemon.Forward

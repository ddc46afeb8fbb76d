import AdbDaemon.Forward.Reverse
import AdbDaemon.Transport.Message

/-!
# Services of a device

Reference: `handle_service` of `src/smart_socket/services.rs`, from the connection that it has picked
for a service that is not the host's, and `open_socket` of `packages/transport/src/transport.rs`.

A reverse request is replayed on the table of the connection first and passed on to the device
afterwards.  Between the two the request can still fail, and then the table keeps what was replayed
on it.
-/

namespace AdbDaemon.SmartSocket

open Common Forward

/-- What becomes of the stream that `open_socket` asks for. -/
inductive Opening where
  /-- The transport has failed before OPEN is sent, or fails while its answer is awaited. -/
  | transportFailed (err : Transport.Error)
  /-- The flush or the write of OPEN fails. -/
  | writeFailed (err : Transport.Error)
  /-- The device answers CLSE. -/
  | refused
  | opened (remoteId : UInt32)
deriving DecidableEq

def openSocket : Opening → Except Transport.Error UInt32
  | .transportFailed err => .error (.transport err)
  | .writeFailed err => .error err
  | .refused => .error (.kind .closed)
  | .opened remoteId => .ok remoteId

/-- A picked connection: its table, whether `upgrade` still finds it, and what a stream opened on it
meets. -/
structure PickedConnection where
  reverseForwards : ReverseForwards
  alive : Bool
  opening : Opening

/-- Why a request ends before its stream is open. -/
inductive ServiceError where
  | reverse (report : Report)
  /-- `Disconnected`. -/
  | disconnected
  | openSocket (err : Transport.Error)
deriving DecidableEq

/-- `handle_service` up to the open stream, with the table of the connection after it. -/
def handleService (conn : PickedConnection) (service : String) :
    Except ServiceError UInt32 × ReverseForwards :=
  match handleReverse conn.reverseForwards service with
  | .error report => (.error (.reverse report), conn.reverseForwards)
  | .ok reverseForwards =>
    -- the table is written back; nothing below takes the change out again
    if conn.alive then
      match openSocket conn.opening with
      | .error err => (.error (.openSocket err), reverseForwards)
      | .ok remoteId => (.ok remoteId, reverseForwards)
    else (.error .disconnected, reverseForwards)

/-- A command that is not replayed on the table, or that leaves it as it is. -/
def Idle (forwards : ReverseForwards) : ForwardCommand → Prop
  | .add remote localProto norebind =>
    norebind = true ∧ remote ∈ forwards ∨ forwards.lookup remote = some ⟨localProto⟩
  | .remove proto => proto ∉ forwards
  | .removeAll => ∀ proto, proto ∉ forwards
  | .list => True

/-! ## A failed request -/

/-- A reverse request without a command is refused. -/
theorem handleReverse_of_command_none {forwards : ReverseForwards} {service rest : String}
    (hrest : stripPrefix "reverse:" service = some rest) (h : ReverseSt.command service = none) :
    ∃ report, handleReverse forwards service = .error report := by
  simp only [ReverseSt.command, hrest] at h
  simp only [handleReverse, hrest]
  cases hparse : ForwardCommand.parse rest with
  | error report => exact ⟨report, rfl⟩
  | ok cmd =>
    rw [hparse] at h
    subst h
    exact ⟨_, rfl⟩

/-- A command leaves the table as it was exactly when it is idle there. -/
theorem replay_lookup_iff {forwards after : ReverseForwards} {cmd : ForwardCommand}
    (h : replay forwards cmd = .ok after) :
    (∀ x, after.lookup x = forwards.lookup x) ↔ Idle forwards cmd := by
  cases cmd with
  | add remote localProto norebind =>
    rw [replay] at h
    split at h
    · cases h
    rename_i hfree
    cases h
    constructor
    · -- nothing changed at `remote`, so it was bound as it is now
      intro hsame
      have hremote := hsame remote
      rw [AList.lookup_insert] at hremote
      exact .inr hremote.symm
    · rintro (hbound | hlookup)
      · exact absurd hbound hfree
      · intro x
        by_cases hx : x = remote
        · rw [hx, AList.lookup_insert, hlookup]
        · rw [AList.lookup_insert_ne hx]
  | remove proto =>
    cases h
    constructor
    · intro hsame
      have hproto := hsame proto
      rw [AList.lookup_erase] at hproto
      exact AList.lookup_eq_none.mp hproto.symm
    · intro hfree x
      by_cases hx : x = proto
      · rw [hx, AList.lookup_erase, AList.lookup_eq_none.mpr hfree]
      · rw [AList.lookup_erase_ne hx]
  | removeAll =>
    cases h
    constructor
    · intro hsame proto
      exact AList.lookup_eq_none.mp (hsame proto).symm
    · intro hempty x
      rw [AList.lookup_eq_none.mpr (hempty x)]
      rfl
  | list =>
    cases h
    exact ⟨fun _ => trivial, fun _ _ => rfl⟩

/-- The table after a request that is refused is the one before it. -/
theorem handleService_of_refused {conn : PickedConnection} {service : String} {report : Report}
    (h : handleReverse conn.reverseForwards service = .error report) :
    handleService conn service = (.error (.reverse report), conn.reverseForwards) := by
  simp only [handleService, h]

/-- The connection is there, and the device opens the stream. -/
def PickedConnection.Opens (conn : PickedConnection) : Prop :=
  conn.alive = true ∧ ∃ remoteId, conn.opening = .opened remoteId

/-- A request that is replayed fails exactly when no stream is opened, and the table after it is the
replayed one in either case. -/
theorem handleService_of_replayed {conn : PickedConnection} {service : String}
    {after : ReverseForwards} (h : handleReverse conn.reverseForwards service = .ok after) :
    ((∃ err, (handleService conn service).1 = .error err) ↔ ¬ conn.Opens) ∧
      (handleService conn service).2 = after := by
  obtain ⟨forwards, alive, opening⟩ := conn
  simp only [handleService, h, PickedConnection.Opens]
  cases alive <;> cases opening <;> simp [openSocket]

/-- A command is refused only if its endpoint must not be bound again. -/
theorem idle_of_replay_error {forwards : ReverseForwards} {cmd : ForwardCommand} {report : Report}
    (h : replay forwards cmd = .error report) : Idle forwards cmd := by
  cases cmd with
  | add remote localProto norebind =>
    rw [replay] at h
    split at h
    · rename_i hbound
      exact .inl hbound
    · cases h
  | remove proto => cases h
  | removeAll => cases h
  | list => cases h

/-- A request that is let through does not fail, or leaves the table as it was exactly when its
command is idle. -/
theorem replayed_leaves_table_iff {conn : PickedConnection} {service : String}
    {cmd : ForwardCommand} {after : ReverseForwards} (hcmd : ReverseSt.command service = some cmd)
    (h : replay conn.reverseForwards cmd = .ok after) :
    (∀ err, (handleService conn service).1 = .error err →
      ∀ x, (handleService conn service).2.lookup x = conn.reverseForwards.lookup x) ↔
    conn.Opens ∨ Idle conn.reverseForwards cmd := by
  obtain ⟨hfails, htable⟩ := handleService_of_replayed ((handleReverse_of_command hcmd).trans h)
  rw [htable, ← replay_lookup_iff h]
  constructor
  · intro hsame
    by_cases hopens : conn.Opens
    · exact .inl hopens
    · obtain ⟨err, herr⟩ := hfails.mpr hopens
      exact .inr (hsame err herr)
  · rintro (hopens | hsame) err herr
    · exact absurd hopens (hfails.mp ⟨err, herr⟩)
    · exact hsame

/-- A reverse request that fails leaves the table of the connection as it was exactly when the
stream would have been opened, or it has no command, or one that is refused or changes nothing. -/
theorem failed_reverse_leaves_table_iff (conn : PickedConnection) (service rest : String)
    (hreverse : stripPrefix "reverse:" service = some rest) :
    (∀ err, (handleService conn service).1 = .error err →
      ∀ x, (handleService conn service).2.lookup x = conn.reverseForwards.lookup x) ↔
    conn.Opens ∨ ∀ cmd, ReverseSt.command service = some cmd → Idle conn.reverseForwards cmd := by
  cases hcmd : ReverseSt.command service with
  | none =>
    obtain ⟨report, hreport⟩ := handleReverse_of_command_none hreverse hcmd
    rw [handleService_of_refused hreport]
    exact ⟨fun _ => .inr (fun _ => nofun), fun _ _ _ _ => rfl⟩
  | some cmd =>
    simp only [Option.some.injEq, forall_eq']
    cases h : replay conn.reverseForwards cmd with
    | error report =>
      rw [handleService_of_refused ((handleReverse_of_command hcmd).trans h)]
      exact ⟨fun _ => .inr (idle_of_replay_error h), fun _ _ _ _ => rfl⟩
    | ok after => exact replayed_leaves_table_iff hcmd h

/-- A connection with one entry, whose device refuses every stream. -/
def refusingConnection : PickedConnection :=
  ⟨.singleton (.tcp 7100) ⟨.tcp 7200⟩, true, .refused⟩

/-- A `norebind` of the endpoint that is bound. -/
theorem failed_reverse_leaves_table_norebind :
    (∃ err, (handleService refusingConnection
        "reverse:forward:norebind:tcp:7100;tcp:7300").1 = .error err) ∧
      ∀ err, (handleService refusingConnection
          "reverse:forward:norebind:tcp:7100;tcp:7300").1 = .error err →
        ∀ x, (handleService refusingConnection
          "reverse:forward:norebind:tcp:7100;tcp:7300").2.lookup x =
            refusingConnection.reverseForwards.lookup x := by
  refine ⟨⟨_, rfl⟩, ?_⟩
  refine (failed_reverse_leaves_table_iff refusingConnection
    "reverse:forward:norebind:tcp:7100;tcp:7300" "forward:norebind:tcp:7100;tcp:7300"
    (by decide)).mpr (.inr ?_)
  intro cmd hcmd
  obtain rfl : .add (.tcp 7100) (.tcp 7300) true = cmd :=
    Option.some.inj (Eq.trans (by decide) hcmd)
  exact .inl ⟨rfl, by decide⟩

/-- The device refuses the stream of a new reverse forward: the host admits its port all the same. -/
theorem failed_reverse_changes_table :
    ¬ ∀ (conn : PickedConnection) (service : String),
      (stripPrefix "reverse:" service).isSome = true → ∀ err,
      (handleService conn service).1 = .error err →
      ∀ x, (handleService conn service).2.lookup x = conn.reverseForwards.lookup x := by
  intro h
  have hsame := h refusingConnection "reverse:forward:tcp:7300;tcp:7400" (by decide) _ rfl
    (.tcp 7300)
  exact absurd (congrArg Option.isSome hsame) (by decide)

end AdbDaemon.SmartSocket

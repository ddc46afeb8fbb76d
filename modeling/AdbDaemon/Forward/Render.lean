import AdbDaemon.Forward.PortMap
import AdbDaemon.Forward.Race

/-!
# The text of a forward command

Reference: `Proto` and `ForwardCommand::parse`, and the commands `killforward` and `list-forward` of
`handle_forward`, of `src/forward.rs`.

`ForwardCommand.render` writes a command in the syntax of the requests, with the `Display` of its
endpoints. Parsing loses how a port was written, `+080` for 80, and nothing else: what was parsed is
parsed again from what is rendered (`Parses.render`). The endpoints that `list-forward` prints are
those of the table, which only ever has ports, so a client can end a forward by what it was shown.
-/

namespace AdbDaemon.Forward

open Common Connections SmartSocket

/-- Two endpoints with a semicolon between them. -/
def pair (left right : String) : String := left ++ String.singleton ';' ++ right

/-- The request for a command. -/
def ForwardCommand.render : ForwardCommand → String
  | add left right false => "forward:" ++ pair left.toString right.toString
  | add left right true => "forward:" ++ ("norebind:" ++ pair left.toString right.toString)
  | remove proto => "killforward:" ++ proto.toString
  | removeAll => "killforward-all"
  | list => "list-forward"

/-! ## Endpoints -/

namespace Proto

/-- A parsed endpoint is a port, or the text itself where it has no `tcp:` in front. -/
theorem parse_eq_ok {s : String} {proto : Proto} (h : parse s = .ok proto) :
    (∃ port, proto = tcp port) ∨ proto = other s ∧ stripPrefix "tcp:" s = none := by
  rw [parse] at h
  split at h
  · split at h
    · cases h
      exact .inl ⟨_, rfl⟩
    · cases h
  · rename_i hnone
    cases h
    exact .inr ⟨rfl, hnone⟩

/-- What is printed for a parsed endpoint is parsed as the same endpoint. -/
theorem parse_toString {s : String} {proto : Proto} (h : parse s = .ok proto) :
    parse proto.toString = .ok proto := by
  obtain ⟨port, rfl⟩ | ⟨rfl, -⟩ := parse_eq_ok h
  · exact parse_toString_tcp port
  · exact h

theorem semicolon_not_mem_tcp (port : UInt16) : ';' ∉ (tcp port).toString.toList := by
  rw [toString, String.toList_append, Nat.toList_repr, List.mem_append, not_or]
  refine ⟨by decide, fun hmem => ?_⟩
  exact absurd (Nat.isDigit_of_mem_toDigits (by decide) (by decide) hmem) (by decide)

/-- An endpoint without a semicolon is printed without one. -/
theorem semicolon_not_mem_toString {s : String} {proto : Proto} (h : parse s = .ok proto)
    (hs : ';' ∉ s.toList) : ';' ∉ proto.toString.toList := by
  obtain ⟨port, rfl⟩ | ⟨rfl, -⟩ := parse_eq_ok h
  · exact semicolon_not_mem_tcp port
  · exact hs

end Proto

/-! ## Commands -/

/-- The texts that are parsed as a command. -/
inductive Parses : String → ForwardCommand → Prop
  | add {l r : String} {left right : Proto} (hl : ';' ∉ l.toList)
      (hmarker : ¬ "norebind:".toList <+: l.toList) (hleft : Proto.parse l = .ok left)
      (hright : Proto.parse r = .ok right) :
      Parses ("forward:" ++ pair l r) (.add left right false)
  | norebind {l r : String} {left right : Proto} (hl : ';' ∉ l.toList)
      (hleft : Proto.parse l = .ok left) (hright : Proto.parse r = .ok right) :
      Parses ("forward:" ++ ("norebind:" ++ pair l r)) (.add left right true)
  | remove {p : String} {proto : Proto} (hproto : Proto.parse p = .ok proto) :
      Parses ("killforward:" ++ p) (.remove proto)
  | removeAll : Parses "killforward-all" .removeAll
  | list : Parses "list-forward" .list

/-- What the grammar describes is parsed as described, since no alternative that is tried earlier
fits the text. -/
theorem Parses.parse {s : String} {cmd : ForwardCommand} (h : Parses s cmd) :
    ForwardCommand.parse s = .ok (some cmd) := by
  cases h with
  | @add l r left right hl hmarker hleft hright =>
    have hnone : stripPrefix "norebind:" (pair l r) = none := by
      rw [stripPrefix_eq_none, pair, isPrefix_append_singleton (by decide)]
      exact hmarker
    rw [ForwardCommand.parse, stripPrefix_append]
    simp only [hnone]
    rw [pair, splitOnce_append hl]
    simp only [hleft, hright]
    rfl
  | @norebind l r left right hl hleft hright =>
    rw [ForwardCommand.parse, stripPrefix_append]
    simp only [stripPrefix_append]
    rw [pair, splitOnce_append hl]
    simp only [hleft, hright]
    rfl
  | remove hproto =>
    rw [ForwardCommand.parse, stripPrefix_append_of_not (by decide) (by decide)]
    simp only [stripPrefix_append, hproto]
    rfl
  | removeAll => rfl
  | list => rfl

theorem context_eq_ok {α : Type} {msg : String} {x : Except Report α} {a : α}
    (h : context msg x = .ok a) : x = .ok a := by
  cases x with
  | ok b => exact h
  | error report => cases h

/-- Two endpoints, once the markers are gone: the text is cut at its first semicolon, and both parts
are read. -/
theorem exists_pair {s : String} {norebind : Bool} {cmd : ForwardCommand}
    (h : (match splitOnce ';' s with
      | none => .error ["invalid"]
      | some (left, right) => do
        let left ← context "parse local" (Proto.parse left)
        let right ← context "parse remote" (Proto.parse right)
        return some (ForwardCommand.add left right norebind)) =
      (.ok (some cmd) : Except Report (Option ForwardCommand))) :
    ∃ l r left right, s = pair l r ∧ ';' ∉ l.toList ∧ Proto.parse l = .ok left ∧
      Proto.parse r = .ok right ∧ cmd = .add left right norebind := by
  split at h
  · cases h
  · rename_i l r hcut
    obtain ⟨hl, rfl⟩ := splitOnce_eq_some.mp hcut
    cases hleft : context "parse local" (Proto.parse l) with
    | error report =>
      rw [hleft] at h
      cases h
    | ok left =>
      cases hright : context "parse remote" (Proto.parse r) with
      | error report =>
        rw [hleft, hright] at h
        cases h
      | ok right =>
        rw [hleft, hright] at h
        cases h
        exact ⟨l, r, left, right, rfl, hl, context_eq_ok hleft, context_eq_ok hright, rfl⟩

/-- Whatever is parsed is described by the grammar, case by case of the parser. -/
theorem parses_of_parse {s : String} {cmd : ForwardCommand}
    (h : ForwardCommand.parse s = .ok (some cmd)) : Parses s cmd := by
  rw [ForwardCommand.parse] at h
  split at h
  · rename_i service hforward
    obtain rfl := stripPrefix_eq_some.mp hforward
    -- the marker is tried first, so a local part may not begin with it
    cases hmarker : stripPrefix "norebind:" service with
    | some rest =>
      obtain rfl := stripPrefix_eq_some.mp hmarker
      simp only [hmarker] at h
      obtain ⟨l, r, left, right, rfl, hl, hleft, hright, rfl⟩ := exists_pair h
      exact .norebind hl hleft hright
    | none =>
      simp only [hmarker] at h
      obtain ⟨l, r, left, right, rfl, hl, hleft, hright, rfl⟩ := exists_pair h
      rw [stripPrefix_eq_none, pair, isPrefix_append_singleton (by decide)] at hmarker
      exact .add hl hmarker hleft hright
  · split at h
    · rename_i p hkill
      obtain rfl := stripPrefix_eq_some.mp hkill
      cases hproto : Proto.parse p with
      | error report =>
        rw [hproto] at h
        cases h
      | ok proto =>
        rw [hproto] at h
        cases h
        exact .remove hproto
    · split at h
      · rename_i hs
        cases h
        rw [hs]
        exact .removeAll
      · split at h
        · rename_i hs
          cases h
          rw [hs]
          exact .list
        · cases h

/-- A parsed command is parsed again from its rendering. -/
theorem Parses.render {s : String} {cmd : ForwardCommand} (h : Parses s cmd) :
    Parses cmd.render cmd := by
  cases h with
  | @add l r left right hl hmarker hleft hright =>
    refine .add (Proto.semicolon_not_mem_toString hleft hl) ?_ (Proto.parse_toString hleft)
      (Proto.parse_toString hright)
    obtain ⟨port, rfl⟩ | ⟨rfl, -⟩ := Proto.parse_eq_ok hleft
    · -- a port does not look like the marker
      rw [← stripPrefix_eq_none]
      exact stripPrefix_append_of_not (by decide) (by decide)
    · exact hmarker
  | norebind hl hleft hright =>
    exact .norebind (Proto.semicolon_not_mem_toString hleft hl) (Proto.parse_toString hleft)
      (Proto.parse_toString hright)
  | remove hproto => exact .remove (Proto.parse_toString hproto)
  | removeAll => exact .removeAll
  | list => exact .list

/-! ## Ending a forward by what is printed for it -/

/-- `killforward:` with the endpoint of any entry, of the table as it was at any time, ends the
forward of that port now and no other. -/
theorem ForwardingMgr.handleForward_kill {m m' : ForwardingMgr} {env env' : Env} (h : m.Law env)
    (h' : m'.Law env') {k : Proto} {i : Nat} (hk : m.listeners.lookup k = some i)
    (pick : Except PickDeviceError Connection) (fresh : UInt16) :
    ∃ port after, k = .tcp port ∧
      m'.handleForward env' ("killforward:" ++ k.toString) pick fresh = some (after, .okay none) ∧
      k ∉ after.listeners ∧ after.live env' = Function.update (m'.live env') port none := by
  obtain ⟨port, -, rfl, -⟩ := h.keys k i hk
  have hparse : ForwardCommand.parse ("killforward:" ++ (Proto.tcp port).toString) =
      .ok (some (.remove (.tcp port))) :=
    (Parses.remove (Proto.parse_toString_tcp port)).parse
  refine ⟨port, (m'.cleanForwards env').remove (.tcp port), rfl, ?_, ?_, ?_⟩
  · rw [handleForward, hparse]
    rfl
  · rw [ForwardingMgr.remove, ← AList.lookup_eq_none]
    exact AList.lookup_erase _ _
  · have hclean : (m'.cleanForwards env').Law env' := h'.retain
    funext port'
    rw [live_remove hclean, live_cleanForwards]
    by_cases hport : port' = port
    · rw [hport, Function.update_self, if_pos rfl]
    · rw [Function.update_of_ne hport, if_neg fun heq => hport (Proto.tcp.inj heq).symm]

/-- Commands have a text form from which they are parsed again, so that it tells them apart; and, in
any interleaving of calls, the endpoint of each entry, as `list-forward` prints it, is a port by
which `killforward` later ends the forward of that port and no other. -/
theorem forwardCommand_text :
    (∀ s cmd, ForwardCommand.parse s = .ok (some cmd) →
      ForwardCommand.parse cmd.render = .ok (some cmd)) ∧
    (∀ s s' cmd cmd', ForwardCommand.parse s = .ok (some cmd) →
      ForwardCommand.parse s' = .ok (some cmd') → cmd.render = cmd'.render → cmd = cmd') ∧
    ∀ tr s tr' s', raceMachine.Run RaceSt.new tr s → raceMachine.Run s tr' s' →
      ∀ k i, s.mgr.listeners.lookup k = some i → ∀ pick fresh, ∃ port after, k = .tcp port ∧
        s'.mgr.handleForward s'.env ("killforward:" ++ k.toString) pick fresh =
          some (after, .okay none) ∧
        k ∉ after.listeners ∧
        after.live s'.env = Function.update (s'.mgr.live s'.env) port none := by
  refine ⟨fun s cmd h => (parses_of_parse h).render.parse, fun s s' cmd cmd' h h' heq => ?_, ?_⟩
  · have hparse := (parses_of_parse h).render.parse
    rw [heq, (parses_of_parse h').render.parse] at hparse
    cases hparse
    rfl
  · intro tr s tr' s' hrun hrun' k i hk pick fresh
    have hlaw := (RaceInv.of_run hrun).law
    have hlaw' := (RaceInv.of_run (hrun.trans hrun')).law
    exact ForwardingMgr.handleForward_kill hlaw hlaw' hk pick fresh

/-- Two forwards, to two devices. -/
def twoForwards : List RaceAct :=
  [.request "forward:tcp:5000;tcp:80", .clean 0, .enter 0 (.ok (usbConnection 1)) 0, .answer 0,
    .request "forward:tcp:5001;tcp:81", .clean 1, .enter 1 (.ok (usbConnection 2)) 0, .answer 1]

/-- The first is bound to the other device, and a third added. -/
def laterForwards : List RaceAct :=
  [.request "forward:tcp:5000;tcp:90", .clean 2, .enter 2 (.ok (usbConnection 2)) 0, .answer 2,
    .request "forward:tcp:0;tcp:82", .clean 3, .enter 3 (.ok (usbConnection 1)) 40001]

def RaceSt.forwards81 (s : RaceSt) : Bool :=
  decide ((s.mgr.live s.env 5001).map (fun entry => entry.2.remote) = some (Proto.tcp 81))

/-- A client is shown the first of two forwards, and kills it by that text only after it was bound to
another device and a third forward was added; the second one stays. -/
theorem forwardCommand_text_kill :
    ∃ tr s tr' s' after, raceMachine.Run RaceSt.new tr s ∧ raceMachine.Run s tr' s' ∧
      s.mgr.listeners.lookup (.tcp 5000) = some 0 ∧
      s'.mgr.handleForward s'.env "killforward:tcp:5000" (.error .noDevices) 0 =
        some (after, .okay none) ∧
      after.live s'.env 5000 = none ∧
      (after.live s'.env 5001).map (fun entry => entry.2.remote) = some (.tcp 81) := by
  obtain ⟨s, tr, hrun, htest⟩ := Machine.exists_run_of_exec (M := raceMachine) (s := RaceSt.new)
    twoForwards
    (fun s _ => decide (s.mgr.listeners.lookup (.tcp 5000) = some 0) &&
      (raceMachine.exec s laterForwards).any fun r => r.1.forwards81)
    (by decide +kernel)
  rw [Bool.and_eq_true, decide_eq_true_eq] at htest
  obtain ⟨hentry, hlater⟩ := htest
  obtain ⟨s', tr', hrun', hstays⟩ := Machine.exists_run_of_exec laterForwards
    (fun s' _ => RaceSt.forwards81 s') hlater
  obtain ⟨port, after, hport, hkill, -, hlive⟩ :=
    forwardCommand_text.2.2 tr s tr' s' hrun hrun' _ 0 hentry (.error .noDevices) 0
  cases hport
  refine ⟨tr, s, tr', s', after, hrun, hrun', hentry, hkill, ?_, ?_⟩
  · rw [hlive, Function.update_self]
  · rw [hlive, Function.update_of_ne (by decide)]
    exact of_decide_eq_true hstays

end AdbDaemon.Forward

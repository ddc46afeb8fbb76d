import AdbDaemon.SmartSocket.Devices
import AdbDaemon.Transport.Handshake
import Mathlib.Data.List.DropRight

/-!
# What a device can do to a listing

Reference: `list_devices` of `src/smart_socket/devices.rs`, with `Banner::from_str` of
`packages/transport/src/banner.rs`.

A client reads a listing line by line and takes the serial from before the tab. Everything else on a
line comes from the device's banner. The properties reach the text through `replaceNonAlphanumeric`;
the type is written as the device sent it, and `Banner::from_str` takes any text for a type. A
listing therefore has one line for each open connection exactly when no open connection has a type
with a line break in it (`listDevices_unforged_iff`); otherwise the device adds lines of its own
choice, with any serial in front.
-/

namespace AdbDaemon.SmartSocket

open Common Connections

/-- The lines of a text as its reader takes them: a break at the end begins no further one. -/
def textLines (s : String) : List (List Char) :=
  if (lines s).getLast? = some [] then (lines s).dropLast else lines s

/-- What stands before the first tab, without the padding. -/
def firstField (line : List Char) : List Char :=
  (line.takeWhile (· ≠ '\t')).rdropWhile (· = ' ')

/-- The serial has no blank, tab or line break. -/
def NoWhitespace (serial : String) : Prop := ∀ ch ∈ serial.toList, ch.isWhitespace = false

instance (serial : String) : Decidable (NoWhitespace serial) :=
  List.decidableBAll (fun ch : Char => ch.isWhitespace = false) serial.toList

/-- A listing of `devices` shows the open connections and nothing else: the line of each, once, and
their serials in front. -/
structure Unforged (long : Bool) (mgr : ConnectionMgr) (devices : List Connection) : Prop where
  lines : (textLines (listDevices long devices)).Perm
    (mgr.iter.map fun c => (deviceLine long c).toList)
  serials : ((textLines (listDevices long devices)).map firstField).Perm
    (mgr.iter.map fun c => c.serial.toList)

/-! ## Lines of a listing -/

/-- A text is one piece exactly when it has no separator. -/
theorem length_splitOn_eq_one {sep : Char} {cs : List Char} :
    (cs.splitOn sep).length = 1 ↔ sep ∉ cs := by
  constructor
  · intro hlen hsep
    obtain ⟨as, bs, rfl⟩ := List.append_of_mem hsep
    rw [List.splitOn_append_cons_self, List.length_append] at hlen
    -- a separator has a piece on either side
    have has := List.length_pos_iff.mpr (List.splitOn_ne_nil sep as)
    have hbs := List.length_pos_iff.mpr (List.splitOn_ne_nil sep bs)
    omega
  · intro hsep
    rw [List.splitOn_eq_singleton hsep, List.length_singleton]

/-- The lines of a listing are those of its devices, and an empty one at the end. -/
theorem lines_listDevices (long : Bool) (devices : List Connection) :
    lines (listDevices long devices) =
      (devices.flatMap fun device => lines (deviceLine long device)) ++ [[]] := by
  rw [lines, toList_listDevices]
  induction devices with
  | nil => rfl
  | cons device devices ih =>
    rw [List.flatMap_cons, List.append_assoc, List.singleton_append, List.splitOn_append_cons_self,
      ih, List.flatMap_cons, List.append_assoc, ← lines]

/-- The empty line at the end is none for the reader. -/
theorem textLines_listDevices (long : Bool) (devices : List Connection) :
    textLines (listDevices long devices) =
      devices.flatMap fun device => lines (deviceLine long device) := by
  rw [textLines, lines_listDevices, if_pos (by simp), List.dropLast_concat]

/-- As many lines as devices: each line of a device is its only one. -/
theorem length_textLines_eq_iff {long : Bool} {devices : List Connection} :
    (textLines (listDevices long devices)).length = devices.length ↔
      ∀ c ∈ devices, '\n' ∉ (deviceLine long c).toList := by
  have hone : ∀ c : Connection, 1 ≤ (lines (deviceLine long c)).length := fun c =>
    List.length_pos_iff.mpr (List.splitOn_ne_nil '\n' _)
  have hle : ∀ cs : List Connection,
      cs.length ≤ (cs.flatMap fun c => lines (deviceLine long c)).length := by
    intro cs
    induction cs with
    | nil => simp
    | cons c cs ih =>
      have := hone c
      rw [List.flatMap_cons, List.length_append, List.length_cons]
      omega
  rw [textLines_listDevices]
  induction devices with
  | nil => simp
  | cons c devices ih =>
    have hc : (lines (deviceLine long c)).length = 1 ↔ '\n' ∉ (deviceLine long c).toList :=
      length_splitOn_eq_one
    rw [List.forall_mem_cons, List.flatMap_cons, List.length_append, List.length_cons]
    refine Iff.trans ?_ (and_congr hc ih)
    have := hone c
    have := hle devices
    omega

/-- If no line of a device has a break in it, the lines of the listing are these. -/
theorem textLines_eq_map {long : Bool} {devices : List Connection}
    (h : ∀ c ∈ devices, '\n' ∉ (deviceLine long c).toList) :
    textLines (listDevices long devices) = devices.map fun c => (deviceLine long c).toList := by
  rw [textLines_listDevices]
  induction devices with
  | nil => rfl
  | cons c devices ih =>
    rw [List.forall_mem_cons] at h
    rw [List.flatMap_cons, ih h.2, lines, List.splitOn_eq_singleton h.1, List.map_cons,
      List.singleton_append]

/-! ## The line of a device -/

/-- A letter or digit is no line break. -/
theorem isAlphanum_ne_newline {c : Char} (h : c.isAlphanum = true) : c ≠ '\n' := by
  rintro rfl
  exact absurd h (by decide)

theorem newline_not_mem_toString_nat (n : Nat) : '\n' ∉ (toString n).toList := by
  rw [Nat.toString_eq_repr, Nat.toList_repr]
  intro h
  exact absurd (Nat.isDigit_of_mem_toDigits (by decide) (by decide) h) (by decide)

/-- No property can break a line. -/
theorem newline_not_mem_replaceNonAlphanumeric (s : String) :
    '\n' ∉ (replaceNonAlphanumeric s).toList := by
  rw [replaceNonAlphanumeric, String.toList_map, List.mem_map]
  rintro ⟨c, -, hc⟩
  split at hc
  · rename_i halnum
    exact isAlphanum_ne_newline halnum hc
  · exact absurd hc (by decide)

/-- A listed property breaks no line, whatever the device made it. -/
theorem newline_not_mem_propertyText {device : Connection} {name key : String}
    (hname : '\n' ∉ name.toList) : '\n' ∉ (propertyText device name key).toList := by
  simp [propertyText, String.toList_append, hname, newline_not_mem_replaceNonAlphanumeric]

/-- A serial without whitespace breaks no line. -/
theorem newline_not_mem_serial {serial : String} (h : NoWhitespace serial) :
    '\n' ∉ serial.toList := fun hmem => absurd (h _ hmem) (by decide)

theorem toList_padRight (width : Nat) (s : String) :
    (padRight width s).toList = s.toList ++ List.replicate (width - s.length) ' ' := by
  rw [padRight, String.toList_append, String.toList_ofList]

/-- Of everything on a line only the type can hold a line break. -/
theorem newline_mem_deviceLine {long : Bool} {c : Connection} (h : NoWhitespace c.serial) :
    '\n' ∈ (deviceLine long c).toList ↔ '\n' ∈ c.banner.deviceType.toString.toList := by
  have hserial := newline_not_mem_serial h
  have hid := newline_not_mem_toString_nat c.id
  cases long with
  | false => simp [deviceLine, String.toList_append, hserial]
  | true =>
    have hproperties :
        '\n' ∉ (listedProperties.foldl (fun s p => s ++ propertyText c p.1 p.2) "").toList := by
      rw [toList_foldl_append, List.mem_append, List.mem_flatMap]
      rintro (hnil | ⟨p, hp, hmem⟩)
      · exact absurd hnil (by simp)
      · refine newline_not_mem_propertyText ?_ hmem
        exact (by decide : ∀ p ∈ listedProperties, '\n' ∉ p.1.toList) p hp
    have hpad : '\n' ∉ (padRight 22 c.serial).toList := by
      simp [toList_padRight, hserial]
    rw [Nat.toString_eq_repr] at hid
    simp only [deviceLine, if_true, String.toList_append, List.mem_append, Nat.toString_eq_repr,
      hproperties, hpad, hid]
    simp

/-- The part of a line before the tab is the serial and its padding. -/
theorem exists_deviceLine_eq (long : Bool) (c : Connection) :
    ∃ n rest, (deviceLine long c).toList =
      c.serial.toList ++ List.replicate n ' ' ++ '\t' :: rest := by
  cases long with
  | false => exact ⟨0, c.banner.deviceType.toString.toList, by
      simp [deviceLine, String.toList_append]⟩
  | true =>
    refine ⟨22 - c.serial.length, ?_⟩
    simp only [deviceLine, if_true, String.toList_append, toList_padRight, List.append_assoc]
    exact ⟨_, rfl⟩

/-- Padding goes, from behind a text that does not end in a blank. -/
theorem rdropWhile_append_replicate {cs : List Char} (n : Nat) (h : ' ' ∉ cs) :
    (cs ++ List.replicate n ' ').rdropWhile (· = ' ') = cs := by
  induction n with
  | zero =>
    rw [List.replicate_zero, List.append_nil, List.rdropWhile_eq_self_iff]
    intro hne hblank
    exact h (of_decide_eq_true hblank ▸ List.getLast_mem hne)
  | succ n ih =>
    rw [List.replicate_succ', ← List.append_assoc, List.rdropWhile_concat_pos _ _ _ (by simp)]
    exact ih

/-- The first field of a device's line is its serial. -/
theorem firstField_deviceLine {long : Bool} {c : Connection} (h : NoWhitespace c.serial) :
    firstField (deviceLine long c).toList = c.serial.toList := by
  obtain ⟨n, rest, hline⟩ := exists_deviceLine_eq long c
  have hfield : ∀ ch ∈ c.serial.toList ++ List.replicate n ' ', decide (ch ≠ '\t') = true := by
    intro ch hch
    refine decide_eq_true ?_
    rintro rfl
    obtain hch | hch := List.mem_append.mp hch
    · exact absurd (h _ hch) (by decide)
    · exact absurd (List.eq_of_mem_replicate hch) (by decide)
  rw [firstField, hline, List.takeWhile_append_of_pos hfield, List.takeWhile_cons_of_neg (by simp),
    List.append_nil]
  exact rdropWhile_append_replicate n fun hblank => absurd (h _ hblank) (by decide)

/-! ## Listings -/

/-- Without a line break in a type, the lines are those of the devices and their first fields the
serials. -/
theorem unforged_of_newline_not_mem {long : Bool} {mgr : ConnectionMgr} {devices : List Connection}
    (hiter : devices.Perm mgr.iter) (hserial : ∀ c ∈ mgr.iter, NoWhitespace c.serial)
    (hline : ∀ c ∈ devices, '\n' ∉ (deviceLine long c).toList) : Unforged long mgr devices := by
  have hlines := textLines_eq_map hline
  refine ⟨?_, ?_⟩
  · rw [hlines]
    exact hiter.map _
  · have hfields : (devices.map fun c => (deviceLine long c).toList).map firstField =
        devices.map fun c => c.serial.toList := by
      rw [List.map_map]
      refine List.map_congr_left fun c hc => ?_
      exact firstField_deviceLine (hserial c (hiter.subset hc))
    rw [hlines, hfields]
    exact hiter.map _

/-- A listing, short or long and in any order of the iteration, shows one line for each open
connection with its serial in front exactly when no open connection has a type with a line break. -/
theorem listDevices_unforged_iff {mgr : ConnectionMgr} {devices : List Connection}
    (hiter : devices.Perm mgr.iter) (hserial : ∀ c ∈ mgr.iter, NoWhitespace c.serial)
    (long : Bool) :
    Unforged long mgr devices ↔ ∀ c ∈ mgr.iter, '\n' ∉ c.banner.deviceType.toString.toList := by
  have htype : (∀ c ∈ devices, '\n' ∉ (deviceLine long c).toList) ↔
      ∀ c ∈ mgr.iter, '\n' ∉ c.banner.deviceType.toString.toList := by
    refine ⟨fun h c hc => ?_, fun h c hc => ?_⟩
    · rw [← newline_mem_deviceLine (hserial c hc)]
      exact h c (hiter.symm.subset hc)
    · have hc' := hiter.subset hc
      rw [newline_mem_deviceLine (hserial c hc')]
      exact h c hc'
  rw [← htype]
  constructor
  · intro h
    rw [← length_textLines_eq_iff, h.lines.length_eq, List.length_map, hiter.length_eq]
  · exact unforged_of_newline_not_mem hiter hserial

/-- One open connection with the serial `abc`, whose device sent a banner with the type `type`. -/
def mgrWith (type : String) : ConnectionMgr :=
  ConnectionMgr.new.newConnection
    ⟨1, "abc", ⟨Transport.deviceTypeFromStr type, ∅, ["delayed_ack"]⟩⟩

/-- With two more: an open one whose model has a line break, and a closed one whose type has. -/
def mixedMgr : ConnectionMgr :=
  { ((mgrWith "offline").newConnection
      ⟨2, "def", ⟨.device, .singleton Banner.PRODUCT_MODEL "Pixel\n9", ["delayed_ack"]⟩⟩).newConnection
      ⟨3, "ghi", ⟨Transport.deviceTypeFromStr "device\nfake", ∅, ["delayed_ack"]⟩⟩ with closed := [3] }

/-- The two open ones are listed, in the other order, on a line each. -/
theorem listDevices_unforged_offline :
    Unforged true mixedMgr mixedMgr.iter.reverse ∧
      textLines (listDevices true mixedMgr.iter.reverse) =
        [(padRight 22 "abc" ++
          "\toffline 1 product:Unknown model:Unknown device:Unknown transport_id:1").toList,
        (padRight 22 "def" ++
          "\tdevice 2 product:Unknown model:Pixel_9 device:Unknown transport_id:2").toList] := by
  have hserial : ∀ c ∈ mixedMgr.iter, NoWhitespace c.serial := by decide
  have htype : ∀ c ∈ mixedMgr.iter, '\n' ∉ c.banner.deviceType.toString.toList := by decide
  refine ⟨(listDevices_unforged_iff (List.reverse_perm _) hserial true).mpr htype, ?_⟩
  decide +kernel

/-- A device that sends a line break in its type shows a second device to the clients. -/
theorem listDevices_forged :
    ¬ ∀ (long : Bool) (mgr : ConnectionMgr) (devices : List Connection),
      (∀ c ∈ mgr.iter, ∃ s, Transport.bannerFromStr s = .ok c.banner) →
      (∀ c ∈ mgr.iter, c.serial ≠ "" ∧ NoWhitespace c.serial) →
      devices.Perm mgr.iter → Unforged long mgr devices := by
  intro h
  have hbanner : ∀ c ∈ (mgrWith "device\nfake\tdevice").iter,
      Transport.bannerFromStr "device\nfake\tdevice::features=delayed_ack" = .ok c.banner := by
    intro c hc
    obtain rfl := List.mem_singleton.mp hc
    rfl
  have hserial : ∀ c ∈ (mgrWith "device\nfake\tdevice").iter,
      c.serial ≠ "" ∧ NoWhitespace c.serial := by
    intro c hc
    obtain rfl := List.mem_singleton.mp hc
    exact ⟨by decide, by decide⟩
  have hforged := h false _ _ (fun c hc => ⟨_, hbanner c hc⟩) hserial (List.Perm.refl _)
  -- the second line begins with the serial that the device chose
  have hlines : textLines (listDevices false (mgrWith "device\nfake\tdevice").iter) =
      ["abc\tdevice".toList, "fake\tdevice".toList] := by decide +kernel
  have hlen := hforged.lines.length_eq
  rw [hlines] at hlen
  exact absurd hlen (by decide)

end AdbDaemon.SmartSocket

import AdbDaemon.Transport.Handshake
import Mathlib.Data.List.Dedup

/-!
# The grammar of a banner

Reference: `Banner::from_str` and `Banner::features_str` of `packages/transport/src/banner.rs`, and
the service `features` of `src/smart_socket/services.rs`, which sends the latter to a client.

What a device announces is read off its banner segment by segment (`Assigns`, `LastValue`), and that
is what `from_str` finds and what `features_str` hands on (`bannerFromStr_spec`). The features are a
set; a client gets them in some order, which is the argument of `featuresStr`.
-/

namespace AdbDaemon.Transport

open Common Connections

/-- `String::pop`, of which only the rest is used. -/
def pop (s : String) : String := String.ofList s.toList.dropLast

/-- `features_str`, where the iteration over the set of features yields `features`. -/
def featuresStr (features : List String) : String :=
  pop (features.foldl (fun acc f => acc ++ f ++ ",") "")

/-! ## What a banner says -/

/-- The text before the first `=` of the segment is `key`, the one after it `v`. -/
def Assigns (segment key v : String) : Prop :=
  '=' ∉ key.toList ∧ segment = key ++ String.singleton '=' ++ v

/-- The last of the segments with the key `key` gives it the value `v`. -/
def LastValue (segments : List String) (key v : String) : Prop :=
  ∃ before segment after, segments = before ++ segment :: after ∧ Assigns segment key v ∧
    ∀ later ∈ after, ∀ w, ¬ Assigns later key w

/-- What the segments announce as features: the last value of `features`, or nothing. -/
def Announces (segments : List String) (value : String) : Prop :=
  LastValue segments "features" value ∨
    value = "" ∧ ∀ w, ¬ LastValue segments "features" w

/-- A segment assigns one value to one key. -/
theorem Assigns.unique {segment key key' v v' : String} (h : Assigns segment key v)
    (h' : Assigns segment key' v') : key' = key ∧ v' = v := by
  have heq := (splitOnce_eq_some.mpr h').symm.trans (splitOnce_eq_some.mpr h)
  cases heq
  exact ⟨rfl, rfl⟩

theorem lastValue_nil {key v : String} : ¬ LastValue [] key v := by
  rintro ⟨before, segment, after, h, -, -⟩
  exact absurd h (by simp)

/-- A later segment with the key hides an earlier one. -/
theorem lastValue_cons {segment key v : String} {segments : List String} :
    LastValue (segment :: segments) key v ↔
      LastValue segments key v ∨
        Assigns segment key v ∧ ∀ later ∈ segments, ∀ w, ¬ Assigns later key w := by
  constructor
  · rintro ⟨before, last, after, heq, hlast, hafter⟩
    cases before with
    | nil =>
      obtain ⟨rfl, rfl⟩ := List.cons.inj heq
      exact .inr ⟨hlast, hafter⟩
    | cons b before =>
      obtain ⟨rfl, rfl⟩ := List.cons.inj heq
      exact .inl ⟨before, last, after, rfl, hlast, hafter⟩
  · rintro (⟨before, last, after, rfl, hlast, hafter⟩ | ⟨hassigns, hlater⟩)
    · exact ⟨segment :: before, last, after, rfl, hlast, hafter⟩
    · exact ⟨[], segment, segments, rfl, hassigns, hlater⟩

/-! ## Reading the segments -/

/-- The segments of a banner are accepted when each of them is cut at an equals sign. -/
theorem parseProperties_isOk {segments : List String} {m : Table String String} :
    (∃ m', parseProperties segments m = .ok m') ↔ ∀ segment ∈ segments, '=' ∈ segment.toList := by
  induction segments generalizing m with
  | nil => simp [parseProperties]
  | cons segment segments ih =>
    rw [List.forall_mem_cons, ← splitOnce_isSome]
    cases hcut : splitOnce '=' segment with
    | none => simp [parseProperties, hcut]
    | some p =>
      obtain ⟨key, value⟩ := p
      simp only [parseProperties, hcut, ih]
      simp

/-- What is found under a key is its last value, or what was there before the first segment. -/
theorem lookup_parseProperties {segments : List String} {m m' : Table String String}
    (h : parseProperties segments m = .ok m') (key v : String) :
    m'.lookup key = some v ↔
      LastValue segments key v ∨
        m.lookup key = some v ∧ ∀ segment ∈ segments, ∀ w, ¬ Assigns segment key w := by
  induction segments generalizing m with
  | nil =>
    cases h
    simp [lastValue_nil]
  | cons segment segments ih =>
    cases hcut : splitOnce '=' segment with
    | none =>
      simp only [parseProperties, hcut] at h
      cases h
    | some p =>
      obtain ⟨key', value⟩ := p
      simp only [parseProperties, hcut] at h
      have hassigns : ∀ k w, Assigns segment k w ↔ k = key' ∧ w = value := by
        have hsegment : Assigns segment key' value := splitOnce_eq_some.mp hcut
        intro k w
        constructor
        · exact fun h => hsegment.unique h
        · rintro ⟨rfl, rfl⟩
          exact hsegment
      rw [ih h, lastValue_cons, Table.lookup_insert_eq_some, List.forall_mem_cons, hassigns]
      -- the segment speaks of the key, or leaves what was there
      by_cases hkey : key = key'
      · simp only [hassigns, hkey, true_and, ne_eq, not_true_eq_false, false_and, or_false]
        simp
      · simp only [hassigns, hkey, false_and, false_or, ne_eq, not_false_eq_true, true_and,
          implies_true, or_false]

/-! ## The features -/

/-- A separator behind every part, without the last one, is a separator between the parts. -/
theorem dropLast_flatMap_concat {α : Type} (x : α) {ls : List (List α)} (hne : ls ≠ []) :
    (ls.flatMap fun l => l ++ [x]).dropLast = [x].intercalate ls := by
  induction ls with
  | nil => exact absurd rfl hne
  | cons l ls ih =>
    rw [List.flatMap_cons]
    by_cases hls : ls = []
    · simp [hls]
    · have hrest : (ls.flatMap fun l => l ++ [x]) ≠ [] := by
        obtain ⟨l', ls', rfl⟩ := List.exists_cons_of_ne_nil hls
        simp
      rw [List.dropLast_append_of_ne_nil hrest, ih hls, List.intercalate_cons_of_ne_nil hls]

/-- `fold` and `pop` join the features by commas. -/
theorem toList_featuresStr {features : List String} (hne : features ≠ []) :
    (featuresStr features).toList = [','].intercalate (features.map String.toList) := by
  have hfold : features.foldl (fun acc f => acc ++ f ++ ",") "" =
      features.foldl (fun acc f => acc ++ (f ++ ",")) "" := by
    simp only [String.append_assoc]
  rw [featuresStr, pop, hfold, toList_foldl_append, String.toList_ofList,
    ← dropLast_flatMap_concat ',' (by simpa using hne)]
  simp [List.flatMap_map]

/-- Whatever the order, and wherever an empty feature stands, commas part the features again. -/
theorem split_featuresStr {features : List String} (hne : features ≠ [])
    (hcomma : ∀ f ∈ features, ',' ∉ f.toList) : split ',' (featuresStr features) = features := by
  have hpieces : ∀ l ∈ features.map String.toList, ',' ∉ l := by
    intro l hl
    obtain ⟨f, hf, rfl⟩ := List.mem_map.mp hl
    exact hcomma f hf
  rw [split, toList_featuresStr hne, List.splitOn_intercalate _ hpieces (by simpa using hne),
    List.map_map]
  simp

/-! ## Banners -/

/-- `from_str` reads the parts around the first `::`, and the segments after it. -/
theorem bannerFromStr_eq_ok {s : String} {b : Banner} :
    bannerFromStr s = .ok b ↔
      ∃ type properties m, FirstCut "::" s type properties ∧
        parseProperties (split ';' properties) ∅ = .ok m ∧
        b = ⟨deviceTypeFromStr type, m.erase "features",
          (split ',' ((m.lookup "features").getD "")).dedup⟩ := by
  simp only [← splitOnceStr_eq_some]
  rw [bannerFromStr]
  cases splitOnceStr "::" s with
  | none => simp
  | some p =>
    obtain ⟨type, properties⟩ := p
    cases hparse : parseProperties (split ';' properties) ∅ with
    | error err =>
      simp only [hparse]
      refine ⟨nofun, ?_⟩
      rintro ⟨type', properties', m, heq, hm, -⟩
      cases heq
      rw [hparse] at hm
      cases hm
    | ok m =>
      simp only [hparse]
      constructor
      · intro h
        cases h
        exact ⟨type, properties, m, rfl, hparse, rfl⟩
      · rintro ⟨type', properties', m', heq, hm, rfl⟩
        cases heq
        rw [hparse] at hm
        cases hm
        rfl

/-- A type is printed as it was read. -/
theorem toString_deviceTypeFromStr (s : String) : (deviceTypeFromStr s).toString = s := by
  rw [deviceTypeFromStr]
  split
  · rename_i hs
    exact hs.symm
  · rfl

/-- A banner describes a device that announced this type and these segments. The set of features
has no element twice, and a client that parts what it is sent gets the set, in any order. -/
structure Describes (type : String) (segments : List String) (b : Banner) : Prop where
  deviceType : b.deviceType.toString = type
  properties : ∀ key v,
    b.properties.lookup key = some v ↔ key ≠ "features" ∧ LastValue segments key v
  features : ∃ value, Announces segments value ∧ b.features.Nodup ∧
    ∀ f, f ∈ b.features ↔ f ∈ split ',' value
  reported : ∀ order : List String, order.Perm b.features → split ',' (featuresStr order) = order

/-- What was parsed of the segments describes the banner: the last value of each key, and the
features of the last `features`. -/
theorem describes_of_parseProperties {type : String} {segments : List String}
    {m : Table String String} (h : parseProperties segments ∅ = .ok m) :
    Describes type segments ⟨deviceTypeFromStr type, m.erase "features",
      (split ',' ((m.lookup "features").getD "")).dedup⟩ := by
  have hlookup : ∀ key v, m.lookup key = some v ↔ LastValue segments key v := by
    intro key v
    rw [lookup_parseProperties h]
    simp
  refine ⟨toString_deviceTypeFromStr type, fun key v => ?_, ?_, fun order horder => ?_⟩
  · rw [Table.lookup_erase_eq_some, hlookup]
  · refine ⟨(m.lookup "features").getD "", ?_, List.nodup_dedup _, fun f => List.mem_dedup⟩
    cases hfeatures : m.lookup "features" with
    | some v => exact .inl ((hlookup _ _).mp hfeatures)
    | none =>
      refine .inr ⟨rfl, fun w hw => ?_⟩
      rw [(hlookup _ _).mpr hw] at hfeatures
      cases hfeatures
  · -- a feature is a part between commas
    refine split_featuresStr ?_ fun f hf => ?_
    · rintro rfl
      exact split_ne_nil _ _ (List.dedup_eq_nil _ |>.mp (List.nil_perm.mp horder))
    · exact not_mem_of_mem_split (List.mem_dedup.mp (horder.subset hf))

/-- A text is a banner exactly when it contains `::` and each segment after the first one an equals
sign, and then it describes what the segments announce. -/
theorem bannerFromStr_spec (s : String) :
    ((∃ b, bannerFromStr s = .ok b) ↔
      (∃ type properties : String, s = type ++ "::" ++ properties) ∧
        ∀ type properties, FirstCut "::" s type properties →
          ∀ segment ∈ split ';' properties, '=' ∈ segment.toList) ∧
      ∀ b, bannerFromStr s = .ok b →
        ∃ type properties, FirstCut "::" s type properties ∧
          Describes type (split ';' properties) b := by
  refine ⟨⟨?_, ?_⟩, ?_⟩
  · rintro ⟨b, hb⟩
    obtain ⟨type, properties, m, hcut, hparse, -⟩ := bannerFromStr_eq_ok.mp hb
    refine ⟨⟨type, properties, hcut.1⟩, fun type' properties' hcut' => ?_⟩
    obtain ⟨-, rfl⟩ := hcut.unique hcut'
    exact parseProperties_isOk.mp ⟨m, hparse⟩
  · rintro ⟨hmem, hsegments⟩
    obtain ⟨type, properties, hcut⟩ := exists_firstCut.mpr hmem
    obtain ⟨m, hparse⟩ := parseProperties_isOk.mpr (hsegments type properties hcut)
    exact ⟨_, bannerFromStr_eq_ok.mpr ⟨type, properties, m, hcut, hparse, rfl⟩⟩
  · intro b hb
    obtain ⟨type, properties, m, hcut, hparse, rfl⟩ := bannerFromStr_eq_ok.mp hb
    exact ⟨type, properties, hcut, describes_of_parseProperties hparse⟩

end AdbDaemon.Transport

import Mathlib.Algebra.GroupWithZero.Nat
import Mathlib.Data.List.Basic
import Mathlib.Tactic.Common

/-!
# Text

The operations on strings with which requests are taken apart: a prefix, a split at the first
occurrence of a separator or at every one, and decimal and hexadecimal numbers with a bound.
-/

namespace AdbDaemon.Common

/-! ## Prefixes and splits -/

/-- What follows `p` in `s`. -/
def stripPrefix (p s : String) : Option String :=
  if p.toList <+: s.toList then some (String.ofList (s.toList.drop p.toList.length)) else none

/-- The parts of `s` before and after the first `sep`. -/
def splitOnce (sep : Char) (s : String) : Option (String × String) :=
  if sep ∈ s.toList then
    some (String.ofList (s.toList.takeWhile (· ≠ sep)),
      String.ofList ((s.toList.dropWhile (· ≠ sep)).drop 1))
  else none

/-- The characters before and after the first occurrence of `sep`. -/
def splitOnceList (sep : List Char) : List Char → Option (List Char × List Char)
  | [] => if sep = [] then some ([], []) else none
  | c :: cs =>
    if sep <+: c :: cs then some ([], (c :: cs).drop sep.length)
    else
      match splitOnceList sep cs with
      | none => none
      | some (before, after) => some (c :: before, after)

/-- The parts of `s` before and after the first occurrence of the text `sep`. -/
def splitOnceStr (sep s : String) : Option (String × String) :=
  match splitOnceList sep.toList s.toList with
  | none => none
  | some (before, after) => some (String.ofList before, String.ofList after)

/-- The parts of `s` between the occurrences of `sep`; at least one. -/
def split (sep : Char) (s : String) : List String := (s.toList.splitOn sep).map String.ofList

/-- The rest of a text after a prefix, and the prefix with it, are the text. -/
theorem stripPrefix_eq_some {p s r : String} : stripPrefix p s = some r ↔ s = p ++ r := by
  rw [stripPrefix]
  constructor
  · intro h
    split at h
    · rename_i hp
      obtain ⟨t, ht⟩ := hp
      cases h
      rw [← String.toList_inj, String.toList_append, String.toList_ofList, ← ht]
      simp
    · exact absurd h (by simp)
  · rintro rfl
    simp [String.toList_append]

@[simp] theorem stripPrefix_append (p r : String) : stripPrefix p (p ++ r) = some r :=
  stripPrefix_eq_some.mpr rfl

/-- A text that begins with `q` does not begin with a `p` that differs from `q` within both. -/
theorem stripPrefix_append_of_not {p q r : String} (hpq : ¬ p.toList <+: q.toList)
    (hqp : ¬ q.toList <+: p.toList) : stripPrefix p (q ++ r) = none := by
  rw [stripPrefix, String.toList_append]
  refine if_neg fun h => ?_
  obtain h | h := List.prefix_or_prefix_of_prefix h (List.prefix_append q.toList r.toList)
  · exact hpq h
  · exact hqp h

/-- Without the prefix nothing is cut off. -/
theorem stripPrefix_eq_none {p s : String} : stripPrefix p s = none ↔ ¬ p.toList <+: s.toList := by
  rw [stripPrefix]
  split
  · rename_i hp
    simp [hp]
  · rename_i hp
    simp [hp]

/-- A marker without a separator begins a text when it begins the part before the separator. -/
theorem isPrefix_append_singleton {marker a b : String} {sep : Char} (hsep : sep ∉ marker.toList) :
    marker.toList <+: (a ++ String.singleton sep ++ b).toList ↔ marker.toList <+: a.toList := by
  have hlist : (a ++ String.singleton sep ++ b).toList = a.toList ++ sep :: b.toList := by simp
  rw [hlist]
  constructor
  · intro h
    obtain h' | ⟨t, ht⟩ := List.prefix_or_prefix_of_prefix h (List.prefix_append a.toList _)
    · exact h'
    · -- what the marker has beyond `a` begins with the separator
      rw [← ht, List.prefix_append_right_inj] at h
      cases t with
      | nil =>
        have heq : a.toList = marker.toList := by rw [← ht, List.append_nil]
        exact heq ▸ List.prefix_rfl
      | cons c t =>
        obtain ⟨rfl, -⟩ := List.cons_prefix_cons.mp h
        exact absurd (ht ▸ by simp) hsep
  · intro h
    exact h.trans (List.prefix_append _ _)

/-- The first separator of a text is the one after a part without any. -/
theorem splitOnce_append {sep : Char} {a b : String} (ha : sep ∉ a.toList) :
    splitOnce sep (a ++ String.singleton sep ++ b) = some (a, b) := by
  have hne : ∀ c ∈ a.toList, decide (c ≠ sep) = true := fun c hc =>
    decide_eq_true fun h => ha (h ▸ hc)
  have hlist : (a ++ String.singleton sep ++ b).toList = a.toList ++ sep :: b.toList := by simp
  rw [splitOnce, hlist, if_pos (by simp), List.takeWhile_append_of_pos hne,
    List.dropWhile_append_of_pos hne]
  simp

/-- A text with a separator, at its first. -/
theorem exists_append_of_mem {sep : Char} {s : String} (h : sep ∈ s.toList) :
    ∃ a b : String, sep ∉ a.toList ∧ s = a ++ String.singleton sep ++ b := by
  obtain ⟨xs, ys, hs, hxs⟩ := List.eq_append_cons_of_mem h
  refine ⟨String.ofList xs, String.ofList ys, by simpa using hxs, ?_⟩
  rw [← String.toList_inj]
  simp [hs]

/-- A cut is at the first separator: there is none before it. -/
theorem splitOnce_eq_some {sep : Char} {s a b : String} :
    splitOnce sep s = some (a, b) ↔ sep ∉ a.toList ∧ s = a ++ String.singleton sep ++ b := by
  constructor
  · intro h
    by_cases hsep : sep ∈ s.toList
    · obtain ⟨a', b', ha', rfl⟩ := exists_append_of_mem hsep
      rw [splitOnce_append ha'] at h
      cases h
      exact ⟨ha', rfl⟩
    · rw [splitOnce, if_neg hsep] at h
      cases h
  · rintro ⟨ha, rfl⟩
    exact splitOnce_append ha

/-- There is a cut exactly when there is a separator. -/
theorem splitOnce_isSome {sep : Char} {s : String} :
    (∃ p, splitOnce sep s = some p) ↔ sep ∈ s.toList := by
  rw [splitOnce]
  split
  · rename_i hsep
    exact ⟨fun _ => hsep, fun _ => ⟨_, rfl⟩⟩
  · rename_i hsep
    exact ⟨nofun, fun h => absurd h hsep⟩

/-- `a` and `b` are the parts of `s` around the first `sep`: no other occurrence begins earlier. -/
def FirstCut (sep s a b : String) : Prop :=
  s = a ++ sep ++ b ∧ ∀ a' b' : String, s = a' ++ sep ++ b' → a.length ≤ a'.length

/-- A separator of several characters is cut at its first occurrence: it occurs neither in the first
part nor across its border. -/
theorem splitOnceList_some {sep cs a b : List Char} (h : splitOnceList sep cs = some (a, b)) :
    cs = a ++ sep ++ b ∧ ∀ a' b', cs = a' ++ sep ++ b' → a.length ≤ a'.length := by
  induction cs generalizing a with
  | nil =>
    rw [splitOnceList] at h
    split at h
    · rename_i hsep
      cases h
      simp [hsep]
    · cases h
  | cons c cs ih =>
    rw [splitOnceList] at h
    split at h
    · rename_i hsep
      obtain ⟨t, ht⟩ := hsep
      cases h
      rw [← ht]
      simp
    · rename_i hsep
      split at h
      · cases h
      · rename_i before after hrest
        cases h
        obtain ⟨hcs, hfirst⟩ := ih hrest
        refine ⟨by rw [hcs]; rfl, fun a' b' ha' => ?_⟩
        cases a' with
        | nil => exact absurd ⟨b', ha'.symm⟩ hsep
        | cons d a' =>
          obtain ⟨-, ha'⟩ := List.cons.inj ha'
          exact Nat.succ_le_succ (hfirst a' b' ha')

/-- Where the separator occurs there is a cut. -/
theorem exists_splitOnceList {sep : List Char} (a b : List Char) :
    ∃ p, splitOnceList sep (a ++ sep ++ b) = some p := by
  induction a with
  | nil =>
    cases hcs : [] ++ sep ++ b with
    | nil =>
      obtain ⟨hsep, -⟩ := List.append_eq_nil_iff.mp hcs
      exact ⟨_, if_pos hsep⟩
    | cons c cs =>
      have hp : sep <+: c :: cs := ⟨b, hcs⟩
      exact ⟨_, if_pos hp⟩
  | cons c a ih =>
    obtain ⟨p, hp⟩ := ih
    rw [List.cons_append, List.cons_append, splitOnceList, hp]
    split
    · exact ⟨_, rfl⟩
    · exact ⟨_, rfl⟩

/-- The first cut of a text, as a relation. -/
theorem splitOnceStr_eq_some {sep s a b : String} :
    splitOnceStr sep s = some (a, b) ↔ FirstCut sep s a b := by
  -- the equations between texts, as equations between their characters
  have hcut : ∀ a b : String, s = a ++ sep ++ b ↔ s.toList = a.toList ++ sep.toList ++ b.toList := by
    intro a b
    rw [← String.toList_inj, String.toList_append, String.toList_append]
  rw [splitOnceStr]
  constructor
  · intro h
    split at h
    · cases h
    · rename_i before after hlist
      cases h
      obtain ⟨hs, hfirst⟩ := splitOnceList_some hlist
      refine ⟨by rw [hcut]; simpa using hs, fun a' b' h' => ?_⟩
      rw [String.length_ofList, ← String.length_toList]
      exact hfirst _ _ ((hcut a' b').mp h')
  · rintro ⟨hs, hfirst⟩
    rw [hcut] at hs
    obtain ⟨⟨a', b'⟩, hlist⟩ : ∃ p, splitOnceList sep.toList s.toList = some p := by
      rw [hs]
      exact exists_splitOnceList _ _
    obtain ⟨hs', hfirst'⟩ := splitOnceList_some hlist
    -- both are the shortest beginning
    have hle : a.toList.length ≤ a'.length := by
      have hle := hfirst (String.ofList a') (String.ofList b') (by rw [hcut]; simpa using hs')
      rwa [String.length_ofList, ← String.length_toList] at hle
    have hge : a'.length ≤ a.toList.length := hfirst' _ _ hs
    have heq : a.toList ++ sep.toList ++ b.toList = a' ++ sep.toList ++ b' := hs.symm.trans hs'
    rw [List.append_assoc, List.append_assoc] at heq
    obtain ⟨ha, hb⟩ := List.append_inj heq (Nat.le_antisymm hle hge)
    obtain rfl := List.append_cancel_left hb
    subst ha
    simp [hlist]

/-- A text in which `sep` occurs has a first occurrence, and only one. -/
theorem exists_firstCut {sep s : String} :
    (∃ a b, FirstCut sep s a b) ↔ ∃ a b : String, s = a ++ sep ++ b := by
  constructor
  · rintro ⟨a, b, h⟩
    exact ⟨a, b, h.1⟩
  · rintro ⟨a, b, rfl⟩
    obtain ⟨⟨a', b'⟩, hlist⟩ :
        ∃ p, splitOnceList sep.toList (a.toList ++ sep.toList ++ b.toList) = some p :=
      exists_splitOnceList _ _
    refine ⟨String.ofList a', String.ofList b', splitOnceStr_eq_some.mp ?_⟩
    simp only [splitOnceStr, String.toList_append, hlist]

theorem FirstCut.unique {sep s a b a' b' : String} (h : FirstCut sep s a b)
    (h' : FirstCut sep s a' b') : a' = a ∧ b' = b := by
  have heq := (splitOnceStr_eq_some.mpr h').symm.trans (splitOnceStr_eq_some.mpr h)
  cases heq
  exact ⟨rfl, rfl⟩

/-- The pieces have no separator in them. -/
theorem not_mem_of_mem_splitOn {sep : Char} {cs piece : List Char} (h : piece ∈ cs.splitOn sep) :
    sep ∉ piece := by
  induction cs generalizing piece with
  | nil =>
    obtain rfl : piece = [] := by simpa using h
    exact List.not_mem_nil
  | cons c cs ih =>
    rw [List.splitOn_cons_eq_if_modifyHead] at h
    split at h
    · obtain rfl | h := List.mem_cons.mp h
      · exact List.not_mem_nil
      · exact ih h
    · rename_i hc
      obtain ⟨first, rest, hpieces⟩ := List.exists_cons_of_ne_nil (List.splitOn_ne_nil sep cs)
      rw [hpieces] at ih h
      -- the first piece has one more character, and that is no separator
      obtain rfl | h := List.mem_cons.mp h
      · have hfirst : sep ∉ first := ih (by simp)
        simp only [List.mem_cons, not_or]
        exact ⟨fun h => hc (by simp [h]), hfirst⟩
      · exact ih (by simp [h])

/-- The pieces of a text have no separator in them. -/
theorem not_mem_of_mem_split {sep : Char} {s piece : String} (h : piece ∈ split sep s) :
    sep ∉ piece.toList := by
  obtain ⟨cs, hcs, rfl⟩ := List.mem_map.mp h
  rw [String.toList_ofList]
  exact not_mem_of_mem_splitOn hcs

theorem split_ne_nil (sep : Char) (s : String) : split sep s ≠ [] := by
  rw [split, ne_eq, List.map_eq_nil_iff]
  exact List.splitOn_ne_nil sep s.toList

/-- A text put together piece by piece. -/
theorem toList_foldl_append {α : Type} (f : α → String) (xs : List α) (s : String) :
    (xs.foldl (fun s x => s ++ f x) s).toList = s.toList ++ xs.flatMap fun x => (f x).toList := by
  induction xs generalizing s with
  | nil => simp
  | cons x xs ih => simp [ih, String.toList_append]

/-! ## Decimal numbers -/

/-- The causes for which an unsigned number does not parse. -/
inductive IntErrorKind where
  | empty
  | invalidDigit
  | posOverflow
deriving DecidableEq

/-- Read digits from the left. A character is checked before the bound is. -/
def parseDigits (max : Nat) : Nat → List Char → Except IntErrorKind Nat
  | acc, [] => .ok acc
  | acc, c :: cs =>
    if c.isDigit then
      if 10 * acc + (c.toNat - '0'.toNat) ≤ max then
        parseDigits max (10 * acc + (c.toNat - '0'.toNat)) cs
      else .error .posOverflow
    else .error .invalidDigit

/-- `parse` for an unsigned type with the greatest value `max`: a leading plus sign is accepted. -/
def parseUnsigned (max : Nat) (s : String) : Except IntErrorKind Nat :=
  match s.toList with
  | [] => .error .empty
  | ['+'] => .error .invalidDigit
  | '+' :: cs => parseDigits max 0 cs
  | cs => parseDigits max 0 cs

/-- Digits only add to what was read before them. -/
theorem le_ofDigitChars (cs : List Char) (acc : Nat) : acc ≤ Nat.ofDigitChars 10 cs acc := by
  rw [Nat.ofDigitChars_eq_ofDigitChars_zero]
  exact Nat.le_add_right_of_le (Nat.le_mul_of_pos_left _ (Nat.pow_pos (by decide)))

/-- A number that does not overflow at its end has not overflowed on the way. -/
theorem parseDigits_eq_ok {max acc : Nat} {cs : List Char} (hdigits : ∀ c ∈ cs, c.isDigit = true)
    (hmax : Nat.ofDigitChars 10 cs acc ≤ max) :
    parseDigits max acc cs = .ok (Nat.ofDigitChars 10 cs acc) := by
  induction cs generalizing acc with
  | nil => simp [parseDigits]
  | cons c cs ih =>
    rw [Nat.ofDigitChars_cons] at hmax ⊢
    -- every intermediate value is below the final one
    have hle := Nat.le_trans (le_ofDigitChars cs _) hmax
    rw [parseDigits, if_pos (hdigits c (by simp)), if_pos hle]
    exact ih (fun d hd => hdigits d (by simp [hd])) hmax

/-- A number that fits is read back from its decimal form. -/
theorem parseUnsigned_repr {max n : Nat} (h : n ≤ max) : parseUnsigned max n.repr = .ok n := by
  have hdigits : ∀ c ∈ Nat.toDigits 10 n, c.isDigit = true := fun c hc =>
    Nat.isDigit_of_mem_toDigits (by decide) (by decide) hc
  have hok : parseDigits max 0 (Nat.toDigits 10 n) = .ok n := by
    have hn : Nat.ofDigitChars 10 (Nat.toDigits 10 n) 0 = n := Nat.ofDigitChars_ten_toDigits
    rw [parseDigits_eq_ok hdigits (by rw [hn]; exact h), hn]
  rw [parseUnsigned, Nat.toList_repr]
  split
  · rename_i hnil
    exact absurd hnil Nat.toDigits_ne_nil
  · rename_i hplus
    exact absurd (hdigits '+' (by simp [hplus])) (by decide)
  · rename_i cs _ hplus
    exact absurd (hdigits '+' (by simp [hplus])) (by decide)
  · exact hok

/-! ## Hexadecimal numbers -/

/-- The value of a hexadecimal digit, of either case. -/
def hexValue (c : Char) : Option Nat :=
  if c.isDigit then some (c.toNat - '0'.toNat)
  else if 'a' ≤ c ∧ c ≤ 'f' then some (c.toNat - 'a'.toNat + 10)
  else if 'A' ≤ c ∧ c ≤ 'F' then some (c.toNat - 'A'.toNat + 10)
  else none

/-- The loop of the parser: the number so far, and the digits that are left. -/
def parseHexDigits (max : Nat) : Nat → List Char → Except IntErrorKind Nat
  | acc, [] => .ok acc
  | acc, c :: cs =>
    match hexValue c with
    | some d =>
      if 16 * acc + d ≤ max then parseHexDigits max (16 * acc + d) cs else .error .posOverflow
    | none => .error .invalidDigit

/-- `from_str_radix` with radix 16, for an unsigned type with the greatest value `max`. -/
def parseHex (max : Nat) (s : String) : Except IntErrorKind Nat :=
  match s.toList with
  | [] => .error .empty
  | ['+'] => .error .invalidDigit
  | '+' :: cs => parseHexDigits max 0 cs
  | cs => parseHexDigits max 0 cs

/-- Characters are compared by their code points. -/
theorem toNat_le_of_le {c d : Char} (h : c ≤ d) : c.toNat ≤ d.toNat :=
  UInt32.le_iff_toNat_le.mp (Char.le_def.mp h)

theorem hexValue_ascii {c : Char} {d : Nat} (h : hexValue c = some d) : c.toNat < 128 := by
  unfold hexValue at h
  split at h
  · rename_i hdigit
    have hle : c.toNat ≤ 57 := (Char.isDigit_iff_toNat.mp hdigit).2
    omega
  · split at h
    · rename_i hletter
      have hle : c.toNat ≤ 102 := toNat_le_of_le hletter.2
      omega
    · split at h
      · rename_i hletter
        have hle : c.toNat ≤ 70 := toNat_le_of_le hletter.2
        omega
      · cases h

/-- A digit is below sixteen, and is written back in lower case. -/
theorem hexValue_spec {c : Char} {d : Nat} (h : hexValue c = some d) :
    d < 16 ∧ d.digitChar = c.toLower := by
  have hall : ∀ k < 128, ∀ d ∈ hexValue (Char.ofNat k),
      d < 16 ∧ d.digitChar = (Char.ofNat k).toLower := by decide +kernel
  have hc := hall c.toNat (hexValue_ascii h) d
  rw [Char.ofNat_toNat] at hc
  exact hc h

/-- A hexadecimal digit stands for less than sixteen. -/
theorem hexValue_lt {c : Char} {d : Nat} (h : hexValue c = some d) : d < 16 := (hexValue_spec h).1

/-- The number that digits of either case denote. -/
def hexNumber : Nat → List Char → Option Nat
  | acc, [] => some acc
  | acc, c :: cs =>
    match hexValue c with
    | some d => hexNumber (16 * acc + d) cs
    | none => none

/-- The first digit of a number counts, and the others after it. -/
theorem hexNumber_cons {acc n : Nat} {c : Char} {cs : List Char}
    (h : hexNumber acc (c :: cs) = some n) :
    ∃ d, hexValue c = some d ∧ hexNumber (16 * acc + d) cs = some n := by
  rw [hexNumber] at h
  split at h
  · rename_i d hd
    exact ⟨d, hd, h⟩
  · cases h

/-- A number has as many digits as it takes. -/
theorem hexNumber_lt {acc n : Nat} {cs : List Char} (h : hexNumber acc cs = some n) :
    n < (acc + 1) * 16 ^ cs.length := by
  induction cs generalizing acc with
  | nil =>
    cases h
    simp
  | cons c cs ih =>
    obtain ⟨d, hd, hcs⟩ := hexNumber_cons h
    have hlt := hexValue_lt hd
    refine Nat.lt_of_lt_of_le (ih hcs) ?_
    rw [List.length_cons, Nat.pow_succ, Nat.mul_comm (16 ^ _) 16, ← Nat.mul_assoc]
    exact Nat.mul_le_mul_right _ (by omega)

/-- Further digits only add to what was read. -/
theorem le_hexNumber {acc n : Nat} {cs : List Char} (h : hexNumber acc cs = some n) : acc ≤ n := by
  induction cs generalizing acc with
  | nil =>
    cases h
    exact Nat.le_refl _
  | cons c cs ih =>
    obtain ⟨d, -, hcs⟩ := hexNumber_cons h
    have := ih hcs
    omega

/-- Digits are read as the number they denote when it fits. -/
theorem parseHexDigits_eq_ok_iff {max acc n : Nat} {cs : List Char} (hacc : acc ≤ max) :
    parseHexDigits max acc cs = .ok n ↔ hexNumber acc cs = some n ∧ n ≤ max := by
  induction cs generalizing acc with
  | nil =>
    simp only [parseHexDigits, hexNumber, Except.ok.injEq, Option.some.injEq]
    exact ⟨fun h => ⟨h, h ▸ hacc⟩, fun h => h.1⟩
  | cons c cs ih =>
    rw [parseHexDigits, hexNumber]
    cases hexValue c with
    | none => simp
    | some d =>
      by_cases hd : 16 * acc + d ≤ max
      · simp only [if_pos hd]
        exact ih hd
      · -- a value above the bound stays above it
        simp only [if_neg hd]
        refine ⟨nofun, fun ⟨h, hn⟩ => ?_⟩
        exact absurd (Nat.le_trans (le_hexNumber h) hn) hd

theorem hexNumber_plus (acc : Nat) (cs : List Char) : hexNumber acc ('+' :: cs) = none := rfl

/-- A plus sign and at least one digit, or at least one digit, is all that `parseHex` accepts. -/
theorem parseHex_eq_ok_iff {max n : Nat} {s : String} :
    parseHex max s = .ok n ↔
      ∃ cs, cs ≠ [] ∧ (s.toList = cs ∨ s.toList = '+' :: cs) ∧ hexNumber 0 cs = some n ∧
        n ≤ max := by
  have hdigits : ∀ cs, parseHexDigits max 0 cs = .ok n ↔ hexNumber 0 cs = some n ∧ n ≤ max :=
    fun cs => parseHexDigits_eq_ok_iff (Nat.zero_le max)
  rw [parseHex]
  split
  · rename_i hs
    rw [hs]
    simp
  · rename_i hs
    refine ⟨nofun, ?_⟩
    rintro ⟨cs, hne, rfl | hplus, hn, -⟩
    · rw [hs] at hn
      cases hn
    · rw [hs] at hplus
      exact absurd (List.cons.inj hplus).2.symm hne
  · rename_i cs hne hs
    rw [hdigits]
    refine ⟨fun ⟨hn, hle⟩ => ⟨cs, ?_, .inr hs, hn, hle⟩, ?_⟩
    · rintro rfl
      exact hne rfl
    · rintro ⟨cs', -, rfl | hplus, hn, hle⟩
      · rw [hs, hexNumber_plus] at hn
        cases hn
      · rw [hs] at hplus
        cases hplus
        exact ⟨hn, hle⟩
  · rename_i hnil hone hplus
    rw [hdigits]
    refine ⟨fun ⟨hn, hle⟩ => ⟨_, fun h => hnil h, .inl rfl, hn, hle⟩, ?_⟩
    rintro ⟨cs, -, rfl | hcs, hn, hle⟩
    · exact ⟨hn, hle⟩
    · exact absurd hcs (hplus cs)

/-- A number is bounded by the count of its digits. -/
theorem parseHex_lt {max n : Nat} {s : String} (h : parseHex max s = .ok n) :
    n < 16 ^ s.toList.length := by
  obtain ⟨cs, -, hs, hn, -⟩ := parseHex_eq_ok_iff.mp h
  have hlt : n < 16 ^ cs.length := by simpa using hexNumber_lt hn
  refine Nat.lt_of_lt_of_le hlt (Nat.pow_le_pow_right (by decide) ?_)
  obtain hs | hs := hs
  · exact Nat.le_of_eq (by rw [hs])
  · rw [hs]
    exact Nat.le_succ _

/-- `format!("{:04x}")`: the digits of `n` in lower case, with zeros before them up to four. -/
def formatHex4 (n : Nat) : List Char := (Nat.toDigits 16 n).leftpad 4 '0'

theorem formatHex4_eq {n : Nat} (hn : n < 16 ^ 4) :
    formatHex4 n = [(n / 4096).digitChar, (n / 256 % 16).digitChar, (n / 16 % 16).digitChar,
      (n % 16).digitChar] := by
  have hzero : '0' = Nat.digitChar 0 := rfl
  have hsmall : ∀ m < 16, Nat.toDigits 16 m = [m.digitChar] := fun m hm =>
    Nat.toDigits_of_lt_base hm
  have hstep : ∀ m, 16 ≤ m → Nat.toDigits 16 m = Nat.toDigits 16 (m / 16) ++ [(m % 16).digitChar] :=
    fun m hm => Nat.toDigits_of_base_le (by decide) hm
  rw [formatHex4]
  -- one to four digits
  by_cases h₁ : n < 16
  · rw [hsmall n h₁, show n / 4096 = 0 by omega, show n / 256 % 16 = 0 by omega,
      show n / 16 % 16 = 0 by omega, show n % 16 = n by omega]
    rfl
  rw [hstep n (by omega)]
  by_cases h₂ : n / 16 < 16
  · rw [hsmall _ h₂, show n / 4096 = 0 by omega, show n / 256 % 16 = 0 by omega,
      show n / 16 % 16 = n / 16 by omega]
    rfl
  rw [hstep (n / 16) (by omega), Nat.div_div_eq_div_mul]
  by_cases h₃ : n / 256 < 16
  · rw [hsmall _ h₃, show n / 4096 = 0 by omega, show n / 256 % 16 = n / 256 by omega]
    rfl
  rw [hstep (n / 256) (by omega), Nat.div_div_eq_div_mul, hsmall _ (by omega)]
  rfl

/-- A digit is read as the value it was printed for. -/
theorem hexValue_digitChar {d : Nat} (hd : d < 16) : hexValue d.digitChar = some d :=
  (by decide : ∀ d < 16, hexValue (Nat.digitChar d) = some d) d hd

/-- Four digits of a number are read as the number. -/
theorem hexNumber_formatHex4 {n : Nat} (hn : n < 16 ^ 4) : hexNumber 0 (formatHex4 n) = some n := by
  rw [formatHex4_eq hn]
  simp only [hexNumber, hexValue_digitChar (show n / 4096 < 16 by omega),
    hexValue_digitChar (Nat.mod_lt _ (by decide : 0 < 16)), Option.some.injEq]
  omega

theorem hexNumber_ascii {acc n : Nat} {cs : List Char} (h : hexNumber acc cs = some n) :
    ∀ c ∈ cs, c.toNat < 128 := by
  induction cs generalizing acc with
  | nil => simp
  | cons c cs ih =>
    obtain ⟨d, hd, hcs⟩ := hexNumber_cons h
    intro c' hc'
    obtain rfl | hc' := List.mem_cons.mp hc'
    · exact hexValue_ascii hd
    · exact ih hcs c' hc'

/-- Four digits are written back in lower case. -/
theorem formatHex4_of_hexNumber {n : Nat} {digits : List Char} (hlen : digits.length = 4)
    (h : hexNumber 0 digits = some n) : formatHex4 n = digits.map Char.toLower := by
  obtain ⟨c₀, c₁, c₂, c₃, rfl⟩ : ∃ c₀ c₁ c₂ c₃, digits = [c₀, c₁, c₂, c₃] := by
    match digits, hlen with
    | [c₀, c₁, c₂, c₃], _ => exact ⟨c₀, c₁, c₂, c₃, rfl⟩
  have hlt : n < 16 ^ 4 := by simpa using hexNumber_lt h
  obtain ⟨d₀, h₀, h⟩ := hexNumber_cons h
  obtain ⟨d₁, h₁, h⟩ := hexNumber_cons h
  obtain ⟨d₂, h₂, h⟩ := hexNumber_cons h
  obtain ⟨d₃, h₃, h⟩ := hexNumber_cons h
  have hn := Option.some.inj h
  have := hexValue_lt h₀
  have := hexValue_lt h₁
  have := hexValue_lt h₂
  have := hexValue_lt h₃
  rw [formatHex4_eq hlt, show n / 4096 = d₀ by omega, show n / 256 % 16 = d₁ by omega,
    show n / 16 % 16 = d₂ by omega, show n % 16 = d₃ by omega, (hexValue_spec h₀).2,
    (hexValue_spec h₁).2, (hexValue_spec h₂).2, (hexValue_spec h₃).2]
  rfl

/-! ## The bytes of a text -/

/-- The UTF-8 form of `s`. -/
def toBytes (s : String) : List UInt8 := s.toByteArray.data.toList

@[simp] theorem length_toBytes (s : String) : (toBytes s).length = s.utf8ByteSize := rfl

/-- The bytes that decode as a text are those of the text. -/
theorem fromUTF8_eq_some_iff {bytes : List UInt8} {s : String} :
    String.fromUTF8? ⟨bytes.toArray⟩ = some s ↔ bytes = toBytes s := by
  rw [String.fromUTF8?]
  constructor
  · intro h
    split at h
    · cases h
      rfl
    · cases h
  · rintro rfl
    have hvalid : ByteArray.IsValidUTF8 ⟨(toBytes s).toArray⟩ := s.isValidUTF8
    rw [dif_pos hvalid]
    rfl

/-- The bytes of a text are those of its characters. -/
theorem toBytes_ofList (cs : List Char) :
    toBytes (String.ofList cs) = cs.flatMap String.utf8EncodeChar := by
  simp [toBytes, List.utf8Encode]

/-- The bytes of characters below 128. -/
def asciiBytes (cs : List Char) : List UInt8 := cs.map fun c => UInt8.ofNat c.toNat

/-- An ASCII character is one byte, its code point. -/
theorem toBytes_ascii {cs : List Char} (h : ∀ c ∈ cs, c.toNat < 128) :
    toBytes (String.ofList cs) = asciiBytes cs := by
  rw [toBytes_ofList, asciiBytes]
  induction cs with
  | nil => rfl
  | cons c cs ih =>
    have hc : c.utf8Size = 1 := by
      have hlt := h c (by simp)
      rw [Char.utf8Size, if_pos]
      exact UInt32.le_iff_toNat_le.mpr (by
        show c.toNat ≤ 127
        omega)
    rw [List.flatMap_cons, List.map_cons, String.utf8EncodeChar_eq_singleton hc,
      ih fun d hd => h d (by simp [hd])]
    rfl

end AdbDaemon.Common

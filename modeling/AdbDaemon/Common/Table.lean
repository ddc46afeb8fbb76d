import Mathlib.Data.List.AList

/-!
# Tables

Finite maps without an order that matters: `AList` with one type of values. Beside Mathlib's
`insert`, `erase` and `lookup` a table has its `values` and a `retain`, which drops the entries that
fail a test.

Every lemma is about `lookup`, so that no proof looks at the entries.
-/

namespace AdbDaemon.Common

universe u v

/-- A finite map from `α` to `β`. -/
abbrev Table (α : Type u) (β : Type v) : Type (max u v) := AList fun _ : α => β

namespace Table

variable {α : Type u} {β : Type v} [DecidableEq α] {m : Table α β} {k k' : α} {v w : β}

/-- The values, in the order of the entries. -/
def values (m : Table α β) : List β := m.entries.map Sigma.snd

/-- Keep the entries that pass `p`. -/
def retain (m : Table α β) (p : α → β → Bool) : Table α β :=
  ⟨m.entries.filter fun e => p e.1 e.2, m.nodupKeys.sublist List.filter_sublist⟩

/-- Remove several keys. -/
def eraseAll (m : Table α β) (ks : List α) : Table α β := ks.foldl (fun m k => m.erase k) m

/-- The values are what some key leads to. -/
theorem mem_values : v ∈ values m ↔ ∃ k, m.lookup k = some v := by
  simp only [values, List.mem_map]
  constructor
  · rintro ⟨⟨k, v'⟩, he, rfl⟩
    exact ⟨k, AList.mem_lookup_iff.mpr he⟩
  · rintro ⟨k, hk⟩
    exact ⟨⟨k, v⟩, AList.mem_lookup_iff.mp hk, rfl⟩

/-- An insertion gives its own key a new value and keeps the others. -/
theorem lookup_insert_eq_some :
    (m.insert k v).lookup k' = some w ↔ (k' = k ∧ w = v) ∨ (k' ≠ k ∧ m.lookup k' = some w) := by
  by_cases hk : k' = k
  · subst hk
    rw [AList.lookup_insert]
    simp [eq_comm]
  · rw [AList.lookup_insert_ne hk]
    simp [hk]

/-- Insert a value under its own key, into a table that holds the values with `P` under theirs. -/
theorem lookup_insert_keyed {f : β → α} {P : β → Prop}
    (hm : ∀ k w, m.lookup k = some w ↔ f w = k ∧ P w)
    (hfresh : ∀ w, P w → f w ≠ f v) (k : α) (w : β) :
    (m.insert (f v) v).lookup k = some w ↔ f w = k ∧ (P w ∨ w = v) := by
  rw [lookup_insert_eq_some, hm]
  constructor
  · rintro (⟨rfl, rfl⟩ | ⟨-, hk, hP⟩)
    · exact ⟨rfl, .inr rfl⟩
    · exact ⟨hk, .inl hP⟩
  · rintro ⟨rfl, hP | rfl⟩
    · exact .inr ⟨hfresh w hP, rfl, hP⟩
    · exact .inl ⟨rfl, rfl⟩

theorem lookup_erase_eq_some : (m.erase k).lookup k' = some w ↔ k' ≠ k ∧ m.lookup k' = some w := by
  by_cases hk : k' = k
  · subst hk
    rw [AList.lookup_erase]
    simp
  · rw [AList.lookup_erase_ne hk]
    simp [hk]

/-- A removal of several keys keeps those that are not among them. -/
theorem lookup_eraseAll_eq_some {ks : List α} :
    (eraseAll m ks).lookup k' = some w ↔ k' ∉ ks ∧ m.lookup k' = some w := by
  induction ks generalizing m with
  | nil => simp [eraseAll]
  | cons k ks ih =>
    rw [eraseAll, List.foldl_cons, ← eraseAll, ih, lookup_erase_eq_some, List.mem_cons, not_or]
    tauto

/-- What a filter keeps is what was there and passes. -/
theorem lookup_retain_eq_some {p : α → β → Bool} :
    (retain m p).lookup k = some v ↔ m.lookup k = some v ∧ p k v = true := by
  rw [← Option.mem_def, AList.mem_lookup_iff, ← Option.mem_def, AList.mem_lookup_iff]
  exact List.mem_filter

/-- Values that are read off their keys are listed once. -/
theorem nodup_values {f : β → α} (hf : ∀ k v, m.lookup k = some v → f v = k) :
    (values m).Nodup := by
  refine List.Nodup.of_map f ?_
  have hkeys : (values m).map f = m.keys := by
    rw [values, List.map_map]
    refine List.map_congr_left ?_
    intro e he
    exact hf e.1 e.2 (AList.mem_lookup_iff.mpr he)
  rw [hkeys]
  exact m.keys_nodup

end Table

end AdbDaemon.Common

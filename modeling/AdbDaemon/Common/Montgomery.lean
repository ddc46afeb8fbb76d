import Mathlib.Data.Nat.ModEq
import Mathlib.Data.Int.ModEq
import Mathlib.Tactic.Ring
import Mathlib.Tactic.Linarith

/-!
# Montgomery reduction

Reduction modulo `n` word by word, in `k` rounds over words below `b`.  A round adds the multiple of
`n` that clears the lowest word and shifts by one word, so no division by `n` takes place.  It needs
the word `w` with `w * n ≡ -1` modulo `b`; conversion into the form that reduction works on needs
`rr ≡ (b ^ k) ^ 2` modulo `n`.

`reduce_eq` is the value of a reduction, `toMontgomery_eq` and `ofMontgomery_eq` those of the two
conversions.
-/

namespace AdbDaemon.Common.Montgomery

/-- One round on the value `t`. -/
def round (b n w t : Nat) : Nat := (t + t * w % b * n) / b

/-- The rounds of the reduction, one for each word. -/
def rounds (b n w : Nat) : Nat → Nat → Nat
  | 0, t => t
  | k + 1, t => rounds b n w k (round b n w t)

/-- The rounds, and one subtraction when the value is not below `n`. -/
def reduce (b k n w t : Nat) : Nat :=
  if n ≤ rounds b n w k t then rounds b n w k t - n else rounds b n w k t

/-- Conversion into Montgomery form: the reduced product with `rr`. -/
def toMontgomery (b k n w rr a : Nat) : Nat := reduce b k n w (a * rr)

/-- Conversion back. -/
def ofMontgomery (b k n w a : Nat) : Nat := reduce b k n w a

variable {b k n w rr : Nat}

/-! ## The rounds -/

/-- The word `w` is the negated inverse of `n` modulo `b`: a round divides without remainder. -/
theorem round_mul (hw : b ∣ w * n + 1) (t : Nat) : round b n w t * b = t + t * w % b * n := by
  apply Nat.div_mul_cancel
  have hmod : t * w % b * n + t ≡ t * (w * n + 1) [MOD b] := by
    have h := ((Nat.mod_modEq (t * w) b).mul_right n).add_right t
    rwa [show t * w * n + t = t * (w * n + 1) by ring] at h
  rw [Nat.add_comm]
  exact Nat.dvd_of_mod_eq_zero (hmod.trans (Nat.modEq_zero_iff_dvd.mpr (hw.mul_left t)))

/-- Each round divides by the base, so `k` of them undo a factor `b ^ k`. -/
theorem rounds_mul_modEq (hw : b ∣ w * n + 1) (k t : Nat) :
    rounds b n w k t * b ^ k ≡ t [MOD n] := by
  -- each round multiplies out to its argument modulo `n`
  induction k generalizing t with
  | zero => simp [rounds, Nat.ModEq]
  | succ k ih =>
    have hround : round b n w t * b ≡ t [MOD n] := by
      rw [round_mul hw]
      simp [Nat.ModEq]
    have h := (ih (round b n w t)).mul_right b
    rw [rounds, pow_succ, ← mul_assoc]
    exact h.trans hround

/-- The rounds add less than `b ^ k` times the modulus to the value they divide. -/
theorem rounds_mul_le (hb : 0 < b) (hw : b ∣ w * n + 1) (k t : Nat) :
    rounds b n w k t * b ^ k + n ≤ t + b ^ k * n := by
  -- a round adds a word times `n` and divides by `b`
  induction k generalizing t with
  | zero => simp [rounds]
  | succ k ih =>
    have h := Nat.mul_le_mul_right b (ih (round b n w t))
    have hword : t * w % b + 1 ≤ b := Nat.mod_lt _ hb
    have hmul := Nat.mul_le_mul_right n hword
    have hr := round_mul hw t
    rw [Nat.add_mul, Nat.add_mul, hr] at h
    rw [rounds, pow_succ]
    linarith

/-! ## Reduction -/

/-- The constant `w` can only exist for a base that is prime to the modulus. -/
theorem coprime_of_dvd (hw : b ∣ w * n + 1) : Nat.Coprime b n := by
  have hone : Nat.gcd b n ∣ 1 := by
    have hdvd := (Nat.gcd_dvd_left b n).trans hw
    exact (Nat.dvd_add_right ((Nat.gcd_dvd_right b n).mul_left w)).mp hdvd
  exact Nat.dvd_one.mp hone

/-- One subtraction is enough at the end. -/
theorem reduce_lt (hb : 0 < b) (hw : b ∣ w * n + 1) {t : Nat} (ht : t < n * b ^ k) :
    reduce b k n w t < n := by
  have hle := rounds_mul_le hb hw k t
  -- one subtraction is enough
  have htwo : rounds b n w k t < 2 * n := by
    by_contra hge
    have hmul := Nat.mul_le_mul_right (b ^ k) (Nat.le_of_not_lt hge)
    have hn : 0 < n := Nat.pos_of_mul_pos_right (Nat.zero_lt_of_lt ht)
    linarith [Nat.mul_comm n (b ^ k)]
  rw [reduce]
  split <;> omega

/-- A reduction divides by `b ^ k` in the residues of the modulus. -/
theorem reduce_mul_modEq (hw : b ∣ w * n + 1) (t : Nat) :
    reduce b k n w t * b ^ k ≡ t [MOD n] := by
  have h := rounds_mul_modEq hw k t
  rw [reduce]
  split
  · rename_i hge
    have hsub : rounds b n w k t - n ≡ rounds b n w k t [MOD n] := by
      have hadd : rounds b n w k t - n + n ≡ rounds b n w k t - n [MOD n] := by simp [Nat.ModEq]
      rw [Nat.sub_add_cancel hge] at hadd
      exact hadd.symm
    exact (hsub.mul_right (b ^ k)).trans h
  · exact h

/-- The value of a reduction: the one below `n` that `b ^ k` times gives the argument. -/
theorem reduce_eq (hb : 0 < b) (hw : b ∣ w * n + 1) {t r : Nat} (ht : t < n * b ^ k) (hr : r < n)
    (hmod : r * b ^ k ≡ t [MOD n]) : reduce b k n w t = r := by
  have h : reduce b k n w t * b ^ k ≡ r * b ^ k [MOD n] :=
    (reduce_mul_modEq hw t).trans hmod.symm
  have hcop : Nat.gcd n (b ^ k) = 1 := (Nat.Coprime.pow_left k (coprime_of_dvd hw)).symm
  exact Nat.ModEq.eq_of_lt_of_lt (Nat.ModEq.cancel_right_of_coprime hcop h)
    (reduce_lt hb hw ht) hr

/-! ## Conversions -/

section
variable (hb : 0 < b) (hw : b ∣ w * n + 1)
include hb hw

/-- With `rr` a number is brought into Montgomery form by one product. -/
theorem toMontgomery_eq (hn : n ≤ b ^ k) (hrr : rr ≡ (b ^ k) ^ 2 [MOD n])
    (hlt : rr < n) {a : Nat} (ha : a < n) :
    toMontgomery b k n w rr a = a * b ^ k % n := by
  have hbound : a * rr < n * b ^ k := Nat.mul_lt_mul'' ha (hlt.trans_le hn)
  apply reduce_eq hb hw hbound (Nat.mod_lt _ (Nat.zero_lt_of_lt ha))
  have hleft : a * b ^ k % n * b ^ k ≡ a * b ^ k * b ^ k [MOD n] :=
    (Nat.mod_modEq (a * b ^ k) n).mul_right (b ^ k)
  have hright : a * rr ≡ a * (b ^ k) ^ 2 [MOD n] := hrr.mul_left a
  rw [show a * b ^ k * b ^ k = a * (b ^ k) ^ 2 by ring] at hleft
  exact hleft.trans hright.symm

theorem ofMontgomery_eq {a : Nat} (ha : a < n) :
    ofMontgomery b k n w (a * b ^ k % n) = a := by
  have hlt : a * b ^ k % n < n := Nat.mod_lt _ (Nat.zero_lt_of_lt ha)
  have hbound : a * b ^ k % n < n * b ^ k :=
    hlt.trans_le (Nat.le_mul_of_pos_right n (Nat.pow_pos hb))
  exact reduce_eq hb hw hbound ha (Nat.mod_modEq (a * b ^ k) n).symm

end

end AdbDaemon.Common.Montgomery

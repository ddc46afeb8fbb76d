import AdbDaemon.Common.Base64
import AdbDaemon.Common.Montgomery
import AdbDaemon.Transport.Message
import Mathlib.Data.Int.GCD
import Mathlib.Data.Nat.Digits.Lemmas
import Mathlib.Data.Nat.Prime.Basic
import Mathlib.Data.Nat.Size

/-!
# The public key as a device reads it

Reference: `packages/transport/src/auth.rs`.

The encoded key is the `RSAPublicKey` of Android: the number of words of the modulus, the word that
Montgomery reduction needs, the modulus, the square of the Montgomery radix, and the exponent.  A
device reads the five at fixed offsets.  Both big numbers are appended with as many bytes as they
need, which is the width of the format exactly when the number fills it.
-/

namespace AdbDaemon.Transport

open Common

/-! ## Big numbers -/

/-- `RsaPublicKey`, by its two parts. -/
structure RsaPublicKey where
  n : Nat
  e : Nat
deriving DecidableEq

/-- `PublicKeyParts::size`: the bytes of the modulus. -/
def RsaPublicKey.size (key : RsaPublicKey) : Nat := (Nat.size key.n + 7) / 8

/-- `BigUint::to_bytes_le`: no byte more than the number needs, and one for zero. -/
def toBytesLe (v : Nat) : List UInt8 :=
  if v = 0 then [0] else (Nat.digits 256 v).map UInt8.ofNat

/-- The number of little-endian bytes. -/
def ofBytesLe (bytes : List UInt8) : Nat := Nat.ofDigits 256 (bytes.map UInt8.toNat)

/-- `ToPrimitive::to_u32`. -/
def toU32 (v : Nat) : Option UInt32 := if v < 2 ^ 32 then some (UInt32.ofNat v) else none

/-- `BigInt::to_biguint`. -/
def toBiguint (v : Int) : Option Nat := if 0 ≤ v then some v.toNat else none

/-- `num_bigint_dig::ModInverse`: the inverse between one and the modulus, for what has one. -/
structure ModInverse where
  modInverse : Nat → Nat → Option Int
  of_coprime : ∀ {a m : Nat}, 1 < m → a < m → Nat.Coprime a m →
    ∃ i : Int, modInverse a m = some i ∧ 1 ≤ i ∧ i < m ∧ i * a ≡ 1 [ZMOD m]
  of_not_coprime : ∀ {a m : Nat}, 1 < m → a < m → ¬ Nat.Coprime a m → modInverse a m = none

/-- The inverse from the coefficient that the extended algorithm of Euclid gives. -/
def ModInverse.euclid : ModInverse where
  modInverse a m := if Nat.gcd a m = 1 then some (Nat.gcdA a m % m) else none
  of_coprime {a m} hm _ hcop := by
    have hbezout : (1 : Int) = a * Nat.gcdA a m + m * Nat.gcdB a m := by
      have h := Nat.gcd_eq_gcd_ab a m
      rwa [hcop] at h
    have hinv : Nat.gcdA a m % m * a ≡ 1 [ZMOD m] := by
      have h : Nat.gcdA a m * a ≡ 1 [ZMOD m] := by
        rw [Int.modEq_iff_dvd]
        exact ⟨Nat.gcdB a m, by linarith⟩
      exact (Int.ModEq.mul_right _ (Int.mod_modEq _ _)).trans h
    have hpos : (0 : Int) < m := by omega
    have hnonneg := Int.emod_nonneg (Nat.gcdA a m) hpos.ne'
    have hzero : Nat.gcdA a m % (m : Int) ≠ 0 := by
      intro h
      rw [h, Int.zero_mul] at hinv
      have hdvd := Int.modEq_zero_iff_dvd.mp hinv.symm
      have hone := Int.le_of_dvd (by decide) hdvd
      omega
    exact ⟨_, if_pos hcop, by omega, Int.emod_lt_of_pos _ hpos, hinv⟩
  of_not_coprime _ _ hcop := if_neg hcop

/-! ## `encode_public_key` -/

/-- `ANDROID_KEY_SIZE`. -/
def ANDROID_KEY_SIZE : Nat := 2048 / 8

/-- How a key fails to encode: with an error, or with the panic of a `BigUint` subtraction whose
result would be negative. -/
inductive Fault where
  | error (e : Error)
  | panic
deriving DecidableEq

/-- `ok_or((ErrorKind::InvalidKey, text))?`. -/
def okOr {α : Type} (text : String) : Option α → Except Fault α
  | some a => .ok a
  | none => .error (.error (.text .invalidKey text))

/-- `&a - b` for `BigUint`. -/
def checkedSub (a b : Nat) : Except Fault Nat :=
  if b ≤ a then .ok (a - b) else .error .panic

section
variable (inv : ModInverse) (engine : Base64.Engine)

def encodePublicKey (key : RsaPublicKey) : Except Fault String :=
  if key.size ≠ ANDROID_KEY_SIZE then .error (.error (.text .invalidKey "wrong key size"))
  else do
    let buf := toLeBytes (UInt32.ofNat (ANDROID_KEY_SIZE / 4))
    let r32 := 2 ^ 32
    let inverse ← okOr "mod_inverse" (inv.modInverse (key.n % r32) r32)
    let inverse ← okOr "to_biguint" (toBiguint inverse)
    let ninv ← checkedSub r32 inverse
    let word ← okOr "ninv.to_u32" (toU32 ninv)
    let buf := buf ++ toLeBytes word
    let buf := buf ++ toBytesLe key.n
    -- `modpow` of `2 ^ 2048` with the exponent two
    let rr := (2 ^ (ANDROID_KEY_SIZE * 8)) ^ 2 % key.n
    let buf := buf ++ toBytesLe rr
    let e ← okOr "e.to_u32" (toU32 key.e)
    let buf := buf ++ toLeBytes e
    .ok (engine.encode buf)

end

/-! ## Widths -/

/-- A modulus of 256 bytes is one of 2041 to 2048 bits. -/
theorem RsaPublicKey.size_eq_iff (key : RsaPublicKey) :
    key.size = ANDROID_KEY_SIZE ↔ 2 ^ 2040 ≤ key.n ∧ key.n < 2 ^ 2048 := by
  rw [← Nat.lt_size, ← Nat.size_le, size, show ANDROID_KEY_SIZE = 256 from rfl]
  omega

/-- The bytes of a number give it back. -/
theorem ofBytesLe_toBytesLe (v : Nat) : ofBytesLe (toBytesLe v) = v := by
  rw [ofBytesLe, toBytesLe]
  split
  · rename_i hv
    simp [hv]
  · have hbytes : ((Nat.digits 256 v).map UInt8.ofNat).map UInt8.toNat = Nat.digits 256 v := by
      rw [List.map_map]
      conv_rhs => rw [← List.map_id (Nat.digits 256 v)]
      refine List.map_congr_left fun d hd => ?_
      exact UInt8.toNat_ofNat_of_lt (Nat.digits_lt_base (by decide) hd)
    rw [hbytes, Nat.ofDigits_digits]

/-- A number is written with 256 bytes exactly when it needs the last of them. -/
theorem length_toBytesLe_eq_iff (v : Nat) :
    (toBytesLe v).length = 256 ↔ 2 ^ 2040 ≤ v ∧ v < 2 ^ 2048 := by
  rw [show (2 ^ 2040 : Nat) = 256 ^ 255 by decide +kernel,
    show (2 ^ 2048 : Nat) = 256 ^ 256 by decide +kernel]
  rw [toBytesLe]
  split
  · rename_i hv
    simp [hv]
  · rw [List.length_map, ← Nat.lt_digits_length_iff (by decide),
      ← Nat.digits_length_le_iff (by decide)]
    omega

/-- The four bytes of a word give its value. -/
theorem ofBytesLe_toLeBytes (v : UInt32) : ofBytesLe (toLeBytes v) = v.toNat := by
  have hv := v.toNat_lt
  simp only [ofBytesLe, toLeBytes, List.map_cons, List.map_nil, Nat.ofDigits_cons,
    Nat.ofDigits_nil, UInt8.toNat_ofNat']
  omega

/-- A number below `2 ^ 32` is a word. -/
theorem toU32_of_lt {v : Nat} (hv : v < 2 ^ 32) :
    ∃ word : UInt32, toU32 v = some word ∧ word.toNat = v :=
  ⟨UInt32.ofNat v, if_pos hv, by rw [UInt32.toNat_ofNat']; exact Nat.mod_eq_of_lt hv⟩

/-! ## What the function returns -/

/-- The bytes of a key with the words `ninv` and `e`. -/
def keyBytes (n : Nat) (ninv e : UInt32) : List UInt8 :=
  toLeBytes (UInt32.ofNat (ANDROID_KEY_SIZE / 4)) ++ toLeBytes ninv ++ toBytesLe n ++
    toBytesLe ((2 ^ (ANDROID_KEY_SIZE * 8)) ^ 2 % n) ++ toLeBytes e

section
variable (inv : ModInverse)

/-- The inverse of an odd modulus gives the negated inverse as a word that is not zero. -/
theorem ninv_spec {n : Nat} (hodd : n % 2 = 1) :
    ∃ i : Int, ∃ v : Nat, ∃ ninv : UInt32,
      inv.modInverse (n % 2 ^ 32) (2 ^ 32) = some i ∧ toBiguint i = some v ∧ v ≤ 2 ^ 32 ∧
      toU32 (2 ^ 32 - v) = some ninv ∧ 0 < ninv.toNat ∧ 2 ^ 32 ∣ ninv.toNat * n + 1 := by
  have hlt : n % 2 ^ 32 < 2 ^ 32 := Nat.mod_lt _ (by decide)
  have hcop : Nat.Coprime (n % 2 ^ 32) (2 ^ 32) := by
    refine Nat.Coprime.pow_right 32 (Nat.coprime_two_right.mpr (Nat.odd_iff.mpr ?_))
    omega
  obtain ⟨i, hi, hpos, hltm, hinv⟩ := inv.of_coprime (by decide) hlt hcop
  -- the inverse lies between one and the modulus, and so does its negation
  obtain ⟨v, rfl⟩ := Int.eq_ofNat_of_zero_le (show 0 ≤ i by omega)
  -- so the subtraction from the modulus neither underflows nor leaves a word
  have hv : 1 ≤ v ∧ v < 2 ^ 32 := ⟨by exact_mod_cast hpos, by exact_mod_cast hltm⟩
  obtain ⟨ninv, hninv, hval⟩ := toU32_of_lt (show 2 ^ 32 - v < 2 ^ 32 by omega)
  refine ⟨v, v, ninv, hi, by simp [toBiguint], by omega, hninv, by omega, ?_⟩
  have hmul : v * n ≡ 1 [MOD 2 ^ 32] := by
    have h : v * (n % 2 ^ 32) ≡ 1 [MOD 2 ^ 32] :=
      Int.natCast_modEq_iff.mp (by exact_mod_cast hinv)
    exact ((Nat.mod_modEq n (2 ^ 32)).mul_left v).symm.trans h
  have hsum : ninv.toNat * n + v * n = 2 ^ 32 * n := by
    rw [← Nat.add_mul, hval]
    congr 1
    omega
  have hzero : ninv.toNat * n + 1 ≡ 0 [MOD 2 ^ 32] := by
    refine (hmul.symm.add_left (ninv.toNat * n)).trans ?_
    rw [hsum]
    exact Nat.modEq_zero_iff_dvd.mpr ⟨n, rfl⟩
  exact Nat.modEq_zero_iff_dvd.mp hzero

/-- An even modulus has no inverse modulo `2 ^ 32`. -/
theorem modInverse_even {n : Nat} (heven : n % 2 ≠ 1) :
    inv.modInverse (n % 2 ^ 32) (2 ^ 32) = none := by
  refine inv.of_not_coprime (by decide) (Nat.mod_lt _ (by decide)) fun hcop => ?_
  have htwo : Nat.Coprime (n % 2 ^ 32) 2 := Nat.Coprime.coprime_dvd_right ⟨2 ^ 31, by decide⟩ hcop
  have := Nat.odd_iff.mp (Nat.coprime_two_right.mp htwo)
  omega

variable (engine : Base64.Engine)

/-- Every outcome, in the order of the checks: the size, the inverse, the exponent, and then the
key. -/
theorem encodePublicKey_cases (key : RsaPublicKey) :
    (key.size ≠ ANDROID_KEY_SIZE ∧
      encodePublicKey inv engine key = .error (.error (.text .invalidKey "wrong key size"))) ∨
    (key.n % 2 ≠ 1 ∧
      encodePublicKey inv engine key = .error (.error (.text .invalidKey "mod_inverse"))) ∨
    (¬ key.e < 2 ^ 32 ∧
      encodePublicKey inv engine key = .error (.error (.text .invalidKey "e.to_u32"))) ∨
    (key.size = ANDROID_KEY_SIZE ∧ key.n % 2 = 1 ∧ key.e < 2 ^ 32 ∧
      ∃ ninv e : UInt32, 0 < ninv.toNat ∧ 2 ^ 32 ∣ ninv.toNat * key.n + 1 ∧ e.toNat = key.e ∧
        encodePublicKey inv engine key = .ok (engine.encode (keyBytes key.n ninv e))) := by
  by_cases hsize : key.size = ANDROID_KEY_SIZE
  · rw [encodePublicKey, if_neg (not_not.mpr hsize)]
    refine .inr ?_
    by_cases hodd : key.n % 2 = 1
    · obtain ⟨i, v, ninv, hi, hv, hle, hninv, hpos, hdvd⟩ := ninv_spec inv hodd
      simp only [hi, hv, okOr, checkedSub, if_pos hle, hninv, bind, Except.bind]
      refine .inr ?_
      by_cases he : key.e < 2 ^ 32
      · obtain ⟨e, hword, hval⟩ := toU32_of_lt he
        simp only [hword]
        exact .inr ⟨hsize, hodd, he, ninv, e, hpos, hdvd, hval, rfl⟩
      · rw [show toU32 key.e = none from if_neg he]
        exact .inl ⟨he, rfl⟩
    · simp only [modInverse_even inv hodd]
      exact .inl ⟨hodd, rfl⟩
  · exact .inl ⟨hsize, if_pos hsize⟩

/-- A key that is encoded has passed the three checks. -/
theorem encodePublicKey_of_ok {key : RsaPublicKey} {text : String}
    (hok : encodePublicKey inv engine key = .ok text) :
    key.size = ANDROID_KEY_SIZE ∧ key.n % 2 = 1 ∧ key.e < 2 ^ 32 := by
  obtain ⟨-, h⟩ | ⟨-, h⟩ | ⟨-, h⟩ | ⟨hsize, hodd, he, -⟩ := encodePublicKey_cases inv engine key
  · simp [h] at hok
  · simp [h] at hok
  · simp [h] at hok
  · exact ⟨hsize, hodd, he⟩

/-- What a key that passes the checks is encoded to. -/
theorem encodePublicKey_accepted {key : RsaPublicKey} (hsize : key.size = ANDROID_KEY_SIZE)
    (hodd : key.n % 2 = 1) (he : key.e < 2 ^ 32) :
    ∃ ninv e : UInt32, 0 < ninv.toNat ∧ 2 ^ 32 ∣ ninv.toNat * key.n + 1 ∧ e.toNat = key.e ∧
      encodePublicKey inv engine key = .ok (engine.encode (keyBytes key.n ninv e)) := by
  obtain ⟨h, -⟩ | ⟨h, -⟩ | ⟨h, -⟩ | ⟨-, -, -, h⟩ := encodePublicKey_cases inv engine key
  · exact absurd hsize h
  · exact absurd hodd h
  · exact absurd he h
  · exact h

end

/-! ## Acceptance and the constants -/

theorem radix_eq : (2 ^ (ANDROID_KEY_SIZE * 8) : Nat) = 2 ^ 2048 := by
  rw [show ANDROID_KEY_SIZE * 8 = 2048 from rfl]

/-- The radix is one of 64 words. -/
theorem radix_eq_words : (2 ^ 2048 : Nat) = (2 ^ 32) ^ 64 := by rw [← pow_mul]

/-- The two constants of a key are what conversion into and out of Montgomery form over 64 words
needs. -/
theorem conversion_correct {n ninv rr : Nat} (hn : n < 2 ^ 2048) (hninv : 2 ^ 32 ∣ ninv * n + 1)
    (hrr : rr ≡ (2 ^ 2048) ^ 2 [MOD n]) (hlt : rr < n) {a : Nat} (ha : a < n) :
    Montgomery.toMontgomery (2 ^ 32) 64 n ninv rr a = a * 2 ^ 2048 % n ∧
      Montgomery.ofMontgomery (2 ^ 32) 64 n ninv (a * 2 ^ 2048 % n) = a := by
  rw [radix_eq_words] at hn hrr ⊢
  exact ⟨Montgomery.toMontgomery_eq (by decide) hninv hn.le hrr hlt ha,
    Montgomery.ofMontgomery_eq (by decide) hninv ha⟩

/-- The constant of Montgomery's reduction is the negative inverse. -/
theorem modEq_neg_one_of_dvd {w n : Nat} (h : 2 ^ 32 ∣ w * n + 1) :
    (w * n : Int) ≡ -1 [ZMOD 2 ^ 32] := by
  obtain ⟨c, hc⟩ := h
  have hcast : (w * n + 1 : Int) = 2 ^ 32 * c := by exact_mod_cast hc
  rw [Int.modEq_iff_dvd]
  exact ⟨-c, by linarith⟩

/-- A key is accepted exactly when its modulus takes 256 bytes and is odd and its exponent is below
`2 ^ 32`; a refused key is refused for one of these, and no subtraction panics.  The words of an
accepted key are the constants of Montgomery reduction over 64 words: the negated inverse of the
modulus, and the residue that converts into Montgomery form. -/
theorem encodePublicKey_constants (inv : ModInverse) (engine : Base64.Engine)
    (key : RsaPublicKey) :
    ((∃ text, encodePublicKey inv engine key = .ok text) ↔
      (2 ^ 2040 ≤ key.n ∧ key.n < 2 ^ 2048) ∧ key.n % 2 = 1 ∧ key.e < 2 ^ 32) ∧
    (∀ fault, encodePublicKey inv engine key = .error fault →
      ∃ text ∈ ["wrong key size", "mod_inverse", "e.to_u32"],
        fault = .error (.text .invalidKey text)) ∧
    (∀ text, encodePublicKey inv engine key = .ok text →
      ∃ (n0inv e : UInt32) (rr : Nat),
        engine.decode text = some (toLeBytes 64 ++ toLeBytes n0inv ++ toBytesLe key.n ++
          toBytesLe rr ++ toLeBytes e) ∧
        e.toNat = key.e ∧
        0 < n0inv.toNat ∧ (n0inv.toNat * key.n : Int) ≡ -1 [ZMOD 2 ^ 32] ∧
        rr < key.n ∧ rr ≡ (2 ^ 2048) ^ 2 [MOD key.n] ∧
        (∀ r < key.n, r ≡ (2 ^ 2048) ^ 2 [MOD key.n] → r = rr) ∧
        ∀ a < key.n,
          Montgomery.toMontgomery (2 ^ 32) 64 key.n n0inv.toNat rr a = a * 2 ^ 2048 % key.n ∧
          Montgomery.ofMontgomery (2 ^ 32) 64 key.n n0inv.toNat (a * 2 ^ 2048 % key.n) = a) := by
  refine ⟨⟨?_, ?_⟩, ?_, ?_⟩
  · rintro ⟨text, hok⟩
    obtain ⟨hsize, hodd, he⟩ := encodePublicKey_of_ok inv engine hok
    exact ⟨key.size_eq_iff.mp hsize, hodd, he⟩
  · rintro ⟨hsize, hodd, he⟩
    obtain ⟨ninv, e, -, -, -, hok⟩ :=
      encodePublicKey_accepted inv engine (key.size_eq_iff.mpr hsize) hodd he
    exact ⟨_, hok⟩
  · intro fault hfault
    obtain ⟨-, h⟩ | ⟨-, h⟩ | ⟨-, h⟩ | ⟨-, -, -, ninv, e, -, -, -, h⟩ :=
      encodePublicKey_cases inv engine key
    · exact ⟨"wrong key size", by simp, Except.error.inj (hfault.symm.trans h)⟩
    · exact ⟨"mod_inverse", by simp, Except.error.inj (hfault.symm.trans h)⟩
    · exact ⟨"e.to_u32", by simp, Except.error.inj (hfault.symm.trans h)⟩
    · simp [h] at hfault
  · intro text htext
    obtain ⟨hsize, hodd, he⟩ := encodePublicKey_of_ok inv engine htext
    obtain ⟨ninv, e, hpos, hdvd, hval, hok⟩ := encodePublicKey_accepted inv engine hsize hodd he
    obtain ⟨hlow, hhigh⟩ := key.size_eq_iff.mp hsize
    have hn : 0 < key.n := Nat.lt_of_lt_of_le (Nat.pow_pos (by decide)) hlow
    -- `rr` is the least residue of the squared radix
    have hmod : (2 ^ 2048) ^ 2 % key.n ≡ (2 ^ 2048) ^ 2 [MOD key.n] := Nat.mod_modEq _ _
    have hlt : (2 ^ 2048) ^ 2 % key.n < key.n := Nat.mod_lt _ hn
    refine ⟨ninv, e, (2 ^ 2048) ^ 2 % key.n, ?_, hval, hpos, modEq_neg_one_of_dvd hdvd, hlt, hmod,
      ?_, ?_⟩
    · rw [hok] at htext
      cases htext
      rw [engine.decode_encode, keyBytes, radix_eq]
      rfl
    · intro r hr hrmod
      exact Nat.ModEq.eq_of_lt_of_lt (hrmod.trans hmod.symm) hr hlt
    · intro a ha
      exact conversion_correct hhigh hdvd hmod hlt ha

/-! ## Reading the key back -/

/-- The `RSAPublicKey` of Android. -/
structure AndroidPublicKey where
  modulusSizeWords : Nat
  n0inv : Nat
  modulus : Nat
  rr : Nat
  exponent : Nat
deriving DecidableEq

/-- The little-endian number of the `len` bytes at `offset`. -/
def readAt (bytes : List UInt8) (offset len : Nat) : Nat :=
  ofBytesLe ((bytes.drop offset).take len)

/-- The fields at their fixed offsets, from exactly as many bytes as the structure has. -/
def AndroidPublicKey.read (bytes : List UInt8) : Option AndroidPublicKey :=
  if bytes.length = 3 * 4 + 2 * 256 then
    some {
      modulusSizeWords := readAt bytes 0 4
      n0inv := readAt bytes 4 4
      modulus := readAt bytes 8 256
      rr := readAt bytes 264 256
      exponent := readAt bytes 520 4
    }
  else none

/-- The bytes between two known lengths. -/
theorem readAt_append (a b c : List UInt8) :
    readAt (a ++ (b ++ c)) a.length b.length = ofBytesLe b := by
  rw [readAt, List.drop_left, List.take_left]

/-- The modulus and `rr` are written with as many bytes as they need, without padding. -/
theorem length_keyBytes (n : Nat) (ninv e : UInt32) :
    (keyBytes n ninv e).length =
      12 + (toBytesLe n).length + (toBytesLe ((2 ^ 2048) ^ 2 % n)).length := by
  rw [keyBytes, radix_eq]
  simp only [List.length_append, length_toLeBytes]
  omega

/-- With both numbers 256 bytes long, every field stands where it is read. -/
theorem read_keyBytes {n : Nat} (ninv e : UInt32) (hn : (toBytesLe n).length = 256)
    (hrr : (toBytesLe ((2 ^ 2048) ^ 2 % n)).length = 256) :
    AndroidPublicKey.read (keyBytes n ninv e) =
      some ⟨64, ninv.toNat, n, (2 ^ 2048) ^ 2 % n, e.toNat⟩ := by
  rw [AndroidPublicKey.read, if_pos (by rw [length_keyBytes, hn, hrr]), keyBytes, radix_eq]
  -- the two numbers as lists of known length
  generalize hN : toBytesLe n = N at hn
  generalize hR : toBytesLe ((2 ^ 2048) ^ 2 % n) = R at hrr
  have hNval : ofBytesLe N = n := by rw [← hN, ofBytesLe_toBytesLe]
  have hRval : ofBytesLe R = (2 ^ 2048) ^ 2 % n := by rw [← hR, ofBytesLe_toBytesLe]
  have h₀ := readAt_append [] (toLeBytes 64) (toLeBytes ninv ++ N ++ R ++ toLeBytes e)
  have h₄ := readAt_append (toLeBytes 64) (toLeBytes ninv) (N ++ R ++ toLeBytes e)
  have h₈ := readAt_append (toLeBytes 64 ++ toLeBytes ninv) N (R ++ toLeBytes e)
  have h₂₆₄ := readAt_append (toLeBytes 64 ++ toLeBytes ninv ++ N) R (toLeBytes e)
  have h₅₂₀ := readAt_append (toLeBytes 64 ++ toLeBytes ninv ++ N ++ R) (toLeBytes e) []
  simp only [List.length_append, length_toLeBytes, List.length_nil, hn, hrr, List.append_assoc,
    List.nil_append, List.append_nil, Nat.reduceAdd, ofBytesLe_toLeBytes, hNval, hRval]
    at h₀ h₄ h₈ h₂₆₄ h₅₂₀
  simp only [show UInt32.ofNat (ANDROID_KEY_SIZE / 4) = 64 from rfl, List.append_assoc, h₀, h₄, h₈,
    h₂₆₄, h₅₂₀]
  rfl

/-- The key is encoded, and its encoding decodes to the bytes of Android's structure with the word
count, the negated inverse, the modulus, `2 ^ 4096` modulo the modulus and the exponent in their
places. -/
def ReadBack (inv : ModInverse) (engine : Base64.Engine) (key : RsaPublicKey) : Prop :=
  ∃ (text : String) (bytes : List UInt8) (n0inv : Nat),
    encodePublicKey inv engine key = .ok text ∧ engine.decode text = some bytes ∧
    bytes.length = 3 * 4 + 2 * 256 ∧
    n0inv < 2 ^ 32 ∧ (n0inv * key.n : Int) ≡ -1 [ZMOD 2 ^ 32] ∧
    AndroidPublicKey.read bytes = some {
      modulusSizeWords := 64
      n0inv := n0inv
      modulus := key.n
      rr := 2 ^ 4096 % key.n
      exponent := key.e
    }

/-- `rr` is the square of the radix. -/
theorem two_pow_mod (n : Nat) : 2 ^ 4096 % n = (2 ^ 2048) ^ 2 % n := by rw [← pow_mul]

section
variable (inv : ModInverse) (engine : Base64.Engine) {key : RsaPublicKey}

/-- A key that is read back has a residue that fills its bytes: the encoding is short otherwise. -/
theorem le_of_readBack (h : ReadBack inv engine key) : 2 ^ 2040 ≤ 2 ^ 4096 % key.n := by
  obtain ⟨text, bytes, n0inv, htext, hbytes, hlen, -⟩ := h
  obtain ⟨hsize, hodd, he⟩ := encodePublicKey_of_ok inv engine htext
  obtain ⟨ninv, e, -, -, -, hok⟩ := encodePublicKey_accepted inv engine hsize hodd he
  have hn := (length_toBytesLe_eq_iff key.n).mpr (key.size_eq_iff.mp hsize)
  rw [hok] at htext
  cases htext
  rw [engine.decode_encode] at hbytes
  cases hbytes
  rw [length_keyBytes, hn] at hlen
  rw [two_pow_mod]
  exact ((length_toBytesLe_eq_iff _).mp (by omega)).1

/-- With an `rr` of 256 bytes the structure is read back. -/
theorem readBack_of_le (hsize : 2 ^ 2040 ≤ key.n ∧ key.n < 2 ^ 2048) (hodd : key.n % 2 = 1)
    (he : key.e < 2 ^ 32) (hge : 2 ^ 2040 ≤ 2 ^ 4096 % key.n) : ReadBack inv engine key := by
  obtain ⟨ninv, e, -, hdvd, hval, hok⟩ :=
    encodePublicKey_accepted inv engine (key.size_eq_iff.mpr hsize) hodd he
  have hn : (toBytesLe key.n).length = 256 := (length_toBytesLe_eq_iff key.n).mpr hsize
  have hrr : (toBytesLe ((2 ^ 2048) ^ 2 % key.n)).length = 256 := by
    rw [two_pow_mod] at hge
    have hpos : 0 < key.n := Nat.lt_of_lt_of_le (Nat.pow_pos (by decide)) hsize.1
    exact (length_toBytesLe_eq_iff _).mpr ⟨hge, (Nat.mod_lt _ hpos).trans hsize.2⟩
  refine ⟨_, _, ninv.toNat, hok, engine.decode_encode _, ?_, ninv.toNat_lt,
    modEq_neg_one_of_dvd hdvd, ?_⟩
  · rw [length_keyBytes, hn, hrr]
  · rw [read_keyBytes ninv e hn hrr, hval, two_pow_mod]

end

/-- An accepted key is read back from the fixed offsets exactly when `2 ^ 4096` modulo its modulus
fills 256 bytes. -/
theorem encodePublicKey_readBack_iff (inv : ModInverse) (engine : Base64.Engine)
    (key : RsaPublicKey) (hsize : 2 ^ 2040 ≤ key.n ∧ key.n < 2 ^ 2048) (hodd : key.n % 2 = 1)
    (he : key.e < 2 ^ 32) : ReadBack inv engine key ↔ 2 ^ 2040 ≤ 2 ^ 4096 % key.n :=
  ⟨le_of_readBack inv engine, readBack_of_le inv engine hsize hodd he⟩

/-- A product of two primes whose residue fills its bytes. -/
theorem encodePublicKey_readBack_product :
    ReadBack .euclid .standard ⟨(2 ^ 1024 - 105) * (3 * 2 ^ 1022 + 1037), 65537⟩ :=
  (encodePublicKey_readBack_iff .euclid .standard
    ⟨(2 ^ 1024 - 105) * (3 * 2 ^ 1022 + 1037), 65537⟩ (by decide +kernel) (by decide +kernel)
    (by decide +kernel)).mpr (by decide +kernel)

/-- The product of the two greatest primes below `2 ^ 1024`: its residue needs 131 bytes, so the
encoding has 399 and not 524. -/
theorem encodePublicKey_short :
    ¬ ∀ key : RsaPublicKey, (2 ^ 2040 ≤ key.n ∧ key.n < 2 ^ 2048) → key.n % 2 = 1 →
      key.e < 2 ^ 32 → ReadBack .euclid .standard key := by
  intro h
  have hback := h ⟨(2 ^ 1024 - 105) * (2 ^ 1024 - 179), 65537⟩ (by decide +kernel)
    (by decide +kernel) (by decide +kernel)
  exact absurd (le_of_readBack .euclid .standard hback) (by decide +kernel)

end AdbDaemon.Transport

import Mathlib.Data.List.Basic
import Mathlib.Tactic.Common

/-!
# Base64

The standard alphabet with padding.  A codec is an encoder and a decoder that takes every encoding
back to the bytes it came from; `Engine.standard` is the one of three bytes to four characters, whose
decoder refuses what its encoder does not write: a character outside the alphabet, padding before
the end, and bits set below the last whole byte.
-/

namespace AdbDaemon.Common.Base64

/-- A faithful codec between bytes and text. -/
structure Engine where
  encode : List UInt8 → String
  decode : String → Option (List UInt8)
  decode_encode : ∀ bytes, decode (encode bytes) = some bytes

/-! ## Six bits and a character -/

/-- The standard alphabet, in the order of the values. -/
def alphabet : List Char :=
  "ABCDEFGHIJKLMNOPQRSTUVWXYZabcdefghijklmnopqrstuvwxyz0123456789+/".toList

/-- The character of a value below 64. -/
def digit (v : Nat) : Char := alphabet.getD v 'A'

def value (c : Char) : Option Nat := alphabet.idxOf? c

/-- A digit of the alphabet is read as the six bits it was written for. -/
theorem value_digit {v : Nat} (hv : v < 64) : value (digit v) = some v :=
  (by decide +kernel : ∀ v < 64, value (digit v) = some v) v hv

theorem digit_ne_pad {v : Nat} (hv : v < 64) : digit v ≠ '=' :=
  (by decide +kernel : ∀ v < 64, digit v ≠ '=') v hv

-- From here on a digit is known by its value only.
attribute [irreducible] digit value

/-! ## Three bytes and four characters -/

/-- Three bytes are four characters, and what is left over is padded. -/
def encodeChars : List UInt8 → List Char
  | [] => []
  | [a] => [digit (a.toNat / 4), digit (a.toNat % 4 * 16), '=', '=']
  | [a, b] =>
    [digit (a.toNat / 4), digit (a.toNat % 4 * 16 + b.toNat / 16), digit (b.toNat % 16 * 4), '=']
  | a :: b :: c :: rest =>
    digit (a.toNat / 4) :: digit (a.toNat % 4 * 16 + b.toNat / 16) ::
      digit (b.toNat % 16 * 4 + c.toNat / 64) :: digit (c.toNat % 64) :: encodeChars rest

/-- The three bytes of four characters. -/
def decodeGroup (x y z u : Char) : Option (List UInt8) :=
  match value x, value y, value z, value u with
  | some x, some y, some z, some u =>
    some [UInt8.ofNat (x * 4 + y / 16), UInt8.ofNat (y % 16 * 16 + z / 4),
      UInt8.ofNat (z % 4 * 64 + u)]
  | _, _, _, _ => none

/-- The one or two bytes of a group whose last character is padding. -/
def decodePadded (x y z : Char) : Option (List UInt8) :=
  match value x, value y with
  | some x, some y =>
    if z = '=' then
      if y % 16 = 0 then some [UInt8.ofNat (x * 4 + y / 16)] else none
    else
      match value z with
      | some z =>
        if z % 4 = 0 then
          some [UInt8.ofNat (x * 4 + y / 16), UInt8.ofNat (y % 16 * 16 + z / 4)]
        else none
      | none => none
  | _, _ => none

/-- Four characters at a time; the padding may stand in the last four only. -/
def decodeChars : List Char → Option (List UInt8)
  | [] => some []
  | x :: y :: z :: u :: rest =>
    if u = '=' then
      if rest = [] then decodePadded x y z else none
    else
      match decodeGroup x y z u, decodeChars rest with
      | some group, some bytes => some (group ++ bytes)
      | _, _ => none
  | _ => none

/-! ## The round trip -/

theorem decodeGroup_digit (a b c : UInt8) :
    decodeGroup (digit (a.toNat / 4)) (digit (a.toNat % 4 * 16 + b.toNat / 16))
      (digit (b.toNat % 16 * 4 + c.toNat / 64)) (digit (c.toNat % 64)) = some [a, b, c] := by
  have ha := a.toNat_lt
  have hb := b.toNat_lt
  have hc := c.toNat_lt
  rw [decodeGroup, value_digit (by omega), value_digit (by omega), value_digit (by omega),
    value_digit (by omega)]
  have h₀ : a.toNat / 4 * 4 + (a.toNat % 4 * 16 + b.toNat / 16) / 16 = a.toNat := by omega
  have h₁ : (a.toNat % 4 * 16 + b.toNat / 16) % 16 * 16 + (b.toNat % 16 * 4 + c.toNat / 64) / 4
      = b.toNat := by omega
  have h₂ : (b.toNat % 16 * 4 + c.toNat / 64) % 4 * 64 + c.toNat % 64 = c.toNat := by omega
  simp only [h₀, h₁, h₂, UInt8.ofNat_toNat]

/-- Two digits and the padding carry one byte, whose low bits are zero. -/
theorem decodePadded_one (a : UInt8) :
    decodePadded (digit (a.toNat / 4)) (digit (a.toNat % 4 * 16)) '=' = some [a] := by
  have ha := a.toNat_lt
  rw [decodePadded, value_digit (by omega), value_digit (by omega)]
  have h₀ : a.toNat / 4 * 4 + a.toNat % 4 * 16 / 16 = a.toNat := by omega
  have hlow : a.toNat % 4 * 16 % 16 = 0 := by omega
  simp only [h₀, hlow, if_true, UInt8.ofNat_toNat]

/-- Three digits and the padding carry two bytes. -/
theorem decodePadded_two (a b : UInt8) :
    decodePadded (digit (a.toNat / 4)) (digit (a.toNat % 4 * 16 + b.toNat / 16))
      (digit (b.toNat % 16 * 4)) = some [a, b] := by
  have ha := a.toNat_lt
  have hb := b.toNat_lt
  have hz : b.toNat % 16 * 4 < 64 := by omega
  rw [decodePadded, value_digit (by omega), value_digit (by omega)]
  have h₀ : a.toNat / 4 * 4 + (a.toNat % 4 * 16 + b.toNat / 16) / 16 = a.toNat := by omega
  have h₁ : (a.toNat % 4 * 16 + b.toNat / 16) % 16 * 16 + b.toNat % 16 * 4 / 4 = b.toNat := by
    omega
  have hlow : b.toNat % 16 * 4 % 4 = 0 := by omega
  simp only [if_neg (digit_ne_pad hz), value_digit hz, h₀, h₁, hlow, if_true, UInt8.ofNat_toNat]

/-- The groups of an encoding are read back one by one, the padded one last. -/
theorem decodeChars_encodeChars (bytes : List UInt8) :
    decodeChars (encodeChars bytes) = some bytes := by
  -- the recursion of the encoder: a last group of none, one or two bytes, or a whole one
  induction bytes using encodeChars.induct with
  | case1 => rfl
  | case2 a => simpa only [encodeChars, decodeChars, if_true] using decodePadded_one a
  | case3 a b => simpa only [encodeChars, decodeChars, if_true] using decodePadded_two a b
  | case4 a b c rest ih =>
    have hc : c.toNat % 64 < 64 := Nat.mod_lt _ (by decide)
    rw [encodeChars, decodeChars, if_neg (digit_ne_pad hc), decodeGroup_digit, ih]
    rfl

/-- `BASE64_STANDARD`. -/
def Engine.standard : Engine where
  encode bytes := String.ofList (encodeChars bytes)
  decode text := decodeChars text.toList
  decode_encode bytes := by
    rw [String.toList_ofList]
    exact decodeChars_encodeChars bytes

example : Engine.standard.encode [0x4d, 0x61, 0x6e, 0x4d] = "TWFuTQ==" := by decide +kernel

end AdbDaemon.Common.Base64

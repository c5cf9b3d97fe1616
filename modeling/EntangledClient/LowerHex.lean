import Mathlib.Data.List.Basic

/-!
# Lowercase hexadecimal text

Each byte is written as two digits, high half first, over the digits `0` to `9`
and `a` to `f`.  Decoding accepts exactly the texts that encoding produces.
-/

namespace LowerHex

/-- The digit of a half byte. -/
def digit (value : Nat) : Char :=
  if value < 10 then Char.ofNat (48 + value) else Char.ofNat (87 + value)

/-- The value of a digit; uppercase digits are not accepted. -/
def digitValue (char : Char) : Option Nat :=
  if 48 ≤ char.toNat ∧ char.toNat ≤ 57 then some (char.toNat - 48)
  else if 97 ≤ char.toNat ∧ char.toNat ≤ 102 then some (char.toNat - 87)
  else none

theorem digitValue_digit {value : Nat} (small : value < 16) :
    digitValue (digit value) = some value := by
  have checked : ∀ half : Fin 16, digitValue (digit half.val) = some half.val := by decide
  exact checked ⟨value, small⟩

/-- The two digits of a byte. -/
def encodeByte (byte : UInt8) : List Char :=
  [digit (byte.toNat / 16), digit (byte.toNat % 16)]

def encodeChars (bytes : List UInt8) : List Char :=
  bytes.flatMap encodeByte

def decodeChars : List Char → Option (List UInt8)
  | [] => some []
  | [_] => none
  | high :: low :: rest => do
      let highValue ← digitValue high
      let lowValue ← digitValue low
      let bytes ← decodeChars rest
      return UInt8.ofNat (16 * highValue + lowValue) :: bytes

theorem decodeChars_encodeChars (bytes : List UInt8) :
    decodeChars (encodeChars bytes) = some bytes := by
  induction bytes with
  | nil => rfl
  | cons byte bytes ih =>
      have bound : byte.toNat < 256 := byte.toNat_lt
      have high : digitValue (digit (byte.toNat / 16)) = some (byte.toNat / 16) :=
        digitValue_digit (by omega)
      have low : digitValue (digit (byte.toNat % 16)) = some (byte.toNat % 16) :=
        digitValue_digit (by omega)
      have halves :
          UInt8.ofNat (16 * (byte.toNat / 16) + byte.toNat % 16) = byte := by
        rw [Nat.div_add_mod, UInt8.ofNat_toNat]
      have rest : decodeChars (bytes.flatMap encodeByte) = some bytes := ih
      change decodeChars (digit (byte.toNat / 16) :: digit (byte.toNat % 16) ::
        bytes.flatMap encodeByte) = some (byte :: bytes)
      simp only [decodeChars, high, low, rest, Option.bind_eq_bind, Option.bind_some,
        halves, Option.pure_def]

/-- The text of some bytes ends with a digit. -/
theorem getLast?_encodeChars {bytes : List UInt8} (present : bytes ≠ []) :
    ∃ value < 16, (encodeChars bytes).getLast? = some (digit value) := by
  obtain ⟨earlier, last, rfl⟩ := (List.eq_nil_or_concat bytes).resolve_left present
  refine ⟨last.toNat % 16, Nat.mod_lt _ (by omega), ?_⟩
  simp [encodeChars, encodeByte]

/-- The text of a byte string. -/
def encode (bytes : List UInt8) : String :=
  String.ofList (encodeChars bytes)

/-- The byte string of a text, if it is one. -/
def decode (text : String) : Option (List UInt8) :=
  decodeChars text.toList

@[simp]
theorem decode_encode (bytes : List UInt8) : decode (encode bytes) = some bytes := by
  simp [decode, encode, decodeChars_encodeChars]

end LowerHex

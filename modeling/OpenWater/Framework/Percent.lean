import Mathlib.Tactic.Common

/-!
# Percent-encoding

Texts in the path of a request: UTF-8, with every byte escaped that is not an unreserved character.
-/

namespace OpenWater.Framework

def utf8 (s : String) : List UInt8 := s.toUTF8.data.toList

def utf8Decode (bytes : List UInt8) : Option String := String.fromUTF8? bytes.toByteArray

def unreserved (b : UInt8) : Bool :=
  (48 ≤ b && b ≤ 57) || (65 ≤ b && b ≤ 90) || (97 ≤ b && b ≤ 122) || b == 45 || b == 46 ||
    b == 95 || b == 126

def hexDigit (n : Nat) : UInt8 := if n < 10 then (48 + n).toUInt8 else (55 + n).toUInt8

def hexValue (b : UInt8) : Option Nat :=
  if 48 ≤ b ∧ b ≤ 57 then some (b.toNat - 48)
  else if 65 ≤ b ∧ b ≤ 70 then some (b.toNat - 55)
  else if 97 ≤ b ∧ b ≤ 102 then some (b.toNat - 87)
  else none

def percentByte (b : UInt8) : List UInt8 :=
  if unreserved b then [b] else [37, hexDigit (b.toNat / 16), hexDigit (b.toNat % 16)]

def percentEncode (bytes : List UInt8) : List UInt8 := bytes.flatMap percentByte

/-- A `%` that no two hexadecimal digits follow stays. -/
def percentDecode : List UInt8 → List UInt8
  | b :: h :: l :: rest =>
    if b = 37 then
      match hexValue h, hexValue l with
      | some high, some low => (16 * high + low).toUInt8 :: percentDecode rest
      | _, _ => b :: percentDecode (h :: l :: rest)
    else b :: percentDecode (h :: l :: rest)
  | b :: rest => b :: percentDecode rest
  | [] => []

theorem utf8_append (s t : String) : utf8 (s ++ t) = utf8 s ++ utf8 t := by
  simp [utf8]

theorem utf8Decode_utf8 (s : String) : utf8Decode (utf8 s) = some s := by
  have hbytes : (utf8 s).toByteArray = s.toUTF8 := by
    apply ByteArray.ext
    simp [utf8]
  have hvalid : s.toUTF8.IsValidUTF8 := s.isValidUTF8
  rw [utf8Decode, hbytes, String.fromUTF8?, dif_pos hvalid]
  rfl

private theorem percentDecode_plain {b : UInt8} (hb : b ≠ 37) (rest : List UInt8) :
    percentDecode (b :: rest) = b :: percentDecode rest := by
  match rest with
  | [] | [_] => rfl
  | _ :: _ :: _ => rw [percentDecode, if_neg hb]

private theorem hexValue_hexDigit : ∀ n < 16, hexValue (hexDigit n) = some n := by
  decide

private theorem percentDecode_escape (b : UInt8) (rest : List UInt8) :
    percentDecode (37 :: hexDigit (b.toNat / 16) :: hexDigit (b.toNat % 16) :: rest) =
      b :: percentDecode rest := by
  have hbyte := b.toNat_lt
  rw [percentDecode, if_pos rfl, hexValue_hexDigit _ (by omega),
    hexValue_hexDigit _ (Nat.mod_lt _ (by decide))]
  simp only [Nat.div_add_mod]
  simp

private theorem percentDecode_byte (b : UInt8) (rest : List UInt8) :
    percentDecode (percentByte b ++ rest) = b :: percentDecode rest := by
  unfold percentByte
  split
  · rename_i h
    exact percentDecode_plain (fun heq => by subst heq; revert h; decide) rest
  · exact percentDecode_escape b rest

theorem percentDecode_encode (bytes rest : List UInt8) :
    percentDecode (percentEncode bytes ++ rest) = bytes ++ percentDecode rest := by
  induction bytes with
  | nil => rfl
  | cons b bytes ih =>
    rw [percentEncode, List.flatMap_cons, List.append_assoc, percentDecode_byte]
    exact congrArg (b :: ·) ih

theorem percentDecode_append {plain : List UInt8} (h : 37 ∉ plain) (rest : List UInt8) :
    percentDecode (plain ++ rest) = plain ++ percentDecode rest := by
  induction plain with
  | nil => rfl
  | cons b plain ih =>
    rw [List.mem_cons, not_or] at h
    rw [List.cons_append, percentDecode_plain (Ne.symm h.1), ih h.2]
    rfl

end OpenWater.Framework

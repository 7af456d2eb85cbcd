import Mathlib.Data.List.Lex
import Mathlib.Tactic.Ring

/-!
# Raw data

Packets, file contents and the strings inside packets are sequences of bytes.
The integer codec writes 16-bit integers in network byte order; what is read is
always read from the front of a span, which is handed back without it.

Decoding can fail in one way only that the library knows of, the
`InvalidPacketException`. A second failure, `Tftp.DecodeError.outOfBounds`, stands for
an access beyond a buffer: it has no counterpart in the source, where such an
access is undefined, and it is here so that its absence can be proved.
-/

namespace Tftp

/-- A sequence of bytes (`Helper::RawData`, and also the contents of a
`std::string`). -/
abbrev RawData := List UInt8

/-- Bytes are ordered by their value, so strings of bytes are ordered
lexicographically, as `std::string` is. -/
instance linearOrderUInt8 : LinearOrder UInt8 where
  le_refl := UInt8.le_refl
  le_trans _ _ _ := UInt8.le_trans
  le_antisymm _ _ := UInt8.le_antisymm
  le_total := UInt8.le_total
  lt_iff_le_not_ge a b := by
    simp only [UInt8.lt_iff_toNat_lt, UInt8.le_iff_toNat_le]
    omega
  toDecidableLE := inferInstance
  toDecidableLT := inferInstance
  toDecidableEq := inferInstance

/-- The bytes of an ASCII text. -/
def ascii (text : String) : RawData := text.toList.map fun c => UInt8.ofNat c.toNat

/-- Why decoding stopped. -/
inductive DecodeError where
  /-- An `InvalidPacketException` with its additional information. -/
  | invalidPacket (additionalInfo : String)
  /-- An access beyond the end of the buffer. -/
  | outOfBounds
  deriving DecidableEq, Repr

namespace RawData

/-- Writes a 16-bit integer, most significant byte first. -/
def setInt (value : UInt16) : RawData :=
  [UInt8.ofNat (value.toNat / 256), UInt8.ofNat (value.toNat % 256)]

/-- Reads a 16-bit integer; also returns the remaining data. -/
def getInt : RawData → Except DecodeError (RawData × UInt16)
  | high :: low :: remaining => .ok (remaining, UInt16.ofNat (high.toNat * 256 + low.toNat))
  | _ => .error .outOfBounds

/-- The last byte. -/
def back (raw : RawData) : Except DecodeError UInt8 :=
  match raw.getLast? with
  | some byte => .ok byte
  | none => .error .outOfBounds

/-- Reads the given number of bytes as a string; also returns the remaining
data. -/
def getString (raw : RawData) (size : ℕ) : Except DecodeError (RawData × RawData) :=
  if size ≤ raw.length then .ok (raw.drop size, raw.take size) else .error .outOfBounds

@[simp] theorem length_setInt (value : UInt16) : (setInt value).length = 2 := rfl

@[simp] theorem getInt_setInt (value : UInt16) (raw : RawData) :
    getInt (setInt value ++ raw) = .ok (raw, value) := by
  have hv : value.toNat < 65536 := value.toNat_lt
  simp only [setInt, List.cons_append, List.nil_append, getInt]
  have h1 : (UInt8.ofNat (value.toNat / 256)).toNat = value.toNat / 256 := by
    rw [UInt8.toNat_ofNat']
    omega
  have h2 : (UInt8.ofNat (value.toNat % 256)).toNat = value.toNat % 256 := by
    rw [UInt8.toNat_ofNat']
    omega
  rw [h1, h2, Nat.div_add_mod' value.toNat 256, UInt16.ofNat_toNat]

/-- Two bytes are an integer, so every span that is long enough starts with one. -/
theorem exists_setInt {raw : RawData} (h : 2 ≤ raw.length) :
    ∃ value remaining, raw = setInt value ++ remaining := by
  match raw, h with
  | high :: low :: remaining, _ =>
    refine ⟨UInt16.ofNat (high.toNat * 256 + low.toNat), remaining, ?_⟩
    have hh : high.toNat < 256 := high.toNat_lt
    have hl : low.toNat < 256 := low.toNat_lt
    have hv : (UInt16.ofNat (high.toNat * 256 + low.toNat)).toNat =
        high.toNat * 256 + low.toNat := by
      rw [UInt16.toNat_ofNat']
      omega
    have hdiv : (high.toNat * 256 + low.toNat) / 256 = high.toNat := by omega
    have hmod : (high.toNat * 256 + low.toNat) % 256 = low.toNat := by omega
    rw [setInt, hv, hdiv, hmod, UInt8.ofNat_toNat, UInt8.ofNat_toNat]
    rfl

@[simp] theorem back_concat (raw : RawData) (byte : UInt8) : back (raw ++ [byte]) = .ok byte := by
  simp [back]

@[simp] theorem getString_length (raw : RawData) :
    getString raw raw.length = .ok ([], raw) := by
  simp [getString]

end RawData

end Tftp

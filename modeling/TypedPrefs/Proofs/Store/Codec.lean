import TypedPrefs.Store.Basic

/-!
# What is stored for a value

A stored value stands for a value of a kind if it is the same value: the same number for integers of
any width, and the same bits for floating-point numbers. That is said here without a conversion, and
the conversions that the stores use are measured by it.
-/

namespace TypedPrefs

theorem Number.Single.bits_inj {x y : Number.Single} : x.bits = y.bits ↔ x = y := by
  cases x
  cases y
  simp

namespace StoredKind

/-- A stored value is the value of a kind: an integer as the number that it is, a number of 64 bits
as its bit pattern, and all else as it is. -/
def Represents : (k : StoredKind) → StoredValue → k.Value → Prop
  | .boolean, .boolean stored, b => stored = b
  | .byte, .int stored, i => stored.toInt = Int8.toInt i
  | .char, .int stored, c => stored.toInt = (UInt16.toNat c : Int)
  | .short, .int stored, i => stored.toInt = Int16.toInt i
  | .int, .int stored, i => stored = i
  | .long, .long stored, i => stored = i
  | .float, .float stored, x => stored.bits = Number.Single.bits x
  | .double, .long stored, x => stored.toBitVec = (Number.Double.bits x).toBitVec
  | .string, .string stored, s => s = some stored
  | .stringSet, .strings stored, s => s = some stored
  | _, _, _ => False

/-- A value for which nothing is stored. -/
def IsAbsent : (k : StoredKind) → k.Value → Prop
  | .string, s => s = none
  | .stringSet, s => s = none
  | .void, () => True
  | _, _ => False

/-- Widening a character keeps its number, as the 32 bits are more than the sixteen. -/
theorem toInt_toInt32_toUInt32 (c : UInt16) : c.toUInt32.toInt32.toInt = (c.toNat : Int) := by
  have hsmall : 2 * c.toUInt32.toBitVec.toNat < 2 ^ 32 := by
    rw [UInt32.toNat_toBitVec, UInt16.toNat_toUInt32]
    have := c.toNat_lt
    omega
  calc c.toUInt32.toInt32.toInt = c.toUInt32.toBitVec.toInt := rfl
    _ = c.toUInt32.toBitVec.toNat := BitVec.toInt_eq_toNat_of_lt hsmall
    _ = c.toNat := by rw [UInt32.toNat_toBitVec, UInt16.toNat_toUInt32]

/-- What is stored for a value is what stands for it, and nothing else. -/
theorem encode_eq_some_iff {k : StoredKind} {v : k.Value} {s : StoredValue} :
    k.encode v = some s ↔ k.Represents s v := by
  cases k with
  | boolean | int | long => cases s <;> simp [encode, Represents, eq_comm]
  | byte => cases s <;> simp [encode, Represents, ← Int32.toInt_inj, eq_comm]
  | char =>
    cases s <;> simp [encode, Represents, ← Int32.toInt_inj, toInt_toInt32_toUInt32, eq_comm]
  | short => cases s <;> simp [encode, Represents, ← Int32.toInt_inj, eq_comm]
  | float => cases s <;> simp [encode, Represents, ← Number.Single.bits_inj, eq_comm]
  | double => cases s <;> simp [encode, Represents, ← Int64.toBitVec_inj, eq_comm]
  | string | stringSet => cases s <;> simp [encode, Represents]
  | void => cases s <;> simp [encode, Represents]

/-- A negative byte keeps its sign, and a character has none. -/
example : StoredKind.byte.encode (-1) = some (.int (-1)) ∧
    StoredKind.char.encode 0xFFFF = some (.int 65535) := by
  decide

theorem encode_eq_none_iff {k : StoredKind} {v : k.Value} : k.encode v = none ↔ k.IsAbsent v := by
  cases k <;> simp [encode, IsAbsent]

theorem decode_eq_none_iff {k : StoredKind} {s : StoredValue} :
    k.decode s = none ↔ k.shape? ≠ some s.shape := by
  cases k <;> cases s <;> simp [decode, shape?, StoredValue.shape]

end StoredKind

/-! ## Reading -/

namespace Store

variable {s : Store} {k : StoredKind} {key : String}

/-- What stands for a value is read as that value. -/
theorem read_of_represents {stored : StoredValue} {v : k.Value} (h : s.get? key = some stored)
    (hstored : k.Represents stored v) (default : k.Value) : s.read k key default = v := by
  have hdecode : k.decode stored = some v :=
    StoredKind.decode_of_encode (StoredKind.encode_eq_some_iff.mpr hstored)
  rw [read_eq, h]
  simp only [hdecode, Option.getD_some]

/-- A value of another shape is read as if there were none. -/
theorem read_of_unfit (h : ∀ stored, s.get? key = some stored → k.shape? ≠ some stored.shape)
    (default : k.Value) : s.read k key default = default := by
  rw [read_eq]
  cases hget : s.get? key with
  | none => rfl
  | some stored =>
    have hdecode : k.decode stored = none := StoredKind.decode_eq_none_iff.mpr (h stored hget)
    simp only [hdecode, Option.getD_none]

end Store

end TypedPrefs

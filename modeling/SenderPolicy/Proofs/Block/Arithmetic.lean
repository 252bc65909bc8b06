import SenderPolicy.Proofs.Block.Invariant

/-! # Arithmetic that can fail

A machine has no difference where more is taken away than there is, and no shift by the width of a word. The
steps of making and asking a block are written out here with operations that have no result in these cases.
They agree with the plain ones: making a block judges its length first, and a well-formed block brings a
length that suits its mask.
-/

namespace SenderPolicy

variable {width length : Nat}

/-- The difference, unless more is taken away than there is. -/
def sub? (left right : Nat) : Option Nat := if right ≤ left then some (left - right) else none

/-- The word shifted to the left, unless by its whole width or more. -/
def shiftLeft? (word : BitVec width) (amount : Nat) : Option (BitVec width) :=
  if amount < width then some (word <<< amount) else none

/-- The word of which exactly the first `length` bits are set, computed with a difference and a shift. -/
def leadingMask? (width length : Nat) : Option (BitVec width) := do
  let amount ← sub? width length
  shiftLeft? (BitVec.allOnes width) amount

/-- The mask can be computed for the lengths from one to the width, and for no others. -/
theorem leadingMask?_eq_some_iff {mask : BitVec width} :
    leadingMask? width length = some mask ↔
      (1 ≤ length ∧ length ≤ width) ∧ mask = leadingMask width length := by
  unfold leadingMask? sub?
  split
  · next le =>
    change shiftLeft? (BitVec.allOnes width) (width - length) = some mask ↔ _
    rw [shiftLeft?, leadingMask]
    split
    · next less =>
      have positive : 1 ≤ length := by omega
      simp [positive, le, eq_comm]
    · next whole =>
      have zero : ¬1 ≤ length := by omega
      simp [zero]
  · next beyond => simp [beyond]

theorem leadingMask?_eq_some (positive : 1 ≤ length) (le : length ≤ width) :
    leadingMask? width length = some (leadingMask width length) :=
  leadingMask?_eq_some_iff.mpr ⟨⟨positive, le⟩, rfl⟩

namespace Block

open Address

def ofShort? (bits : BitVec 32) (length : Nat) : Option Block := do
  let mask ← leadingMask? 32 length
  return .v4 (bits &&& mask) length

def ofLong? (bits : BitVec 128) (length : Nat) : Option Block :=
  match mapped? bits, decide (96 < length) with
  | some low, true => do
      let rest ← sub? length 96
      ofShort? low rest
  | _, _ => do
      let mask ← leadingMask? 128 length
      return .v6 (bits &&& mask) length

/-- The block of the first `length` bits of an address, or why it makes none. -/
def ofAddress? (address : Address) (length : Nat) : Option (Except BlockError Block) :=
  if 1 ≤ length ∧ length ≤ address.version.width then
    match address with
    | .v4 bits => (ofShort? bits length).map .ok
    | .v6 bits => (ofLong? bits length).map .ok
  else some (.error (.lengthOutOfRange address length))

/-- Whether the address is of the block's version and agrees with its network. -/
def contains? (block : Block) (address : Address) : Option Bool :=
  match block, address.canonical with
  | .v4 network length, .v4 bits => do
      let mask ← leadingMask? 32 length
      return bits &&& mask == network &&& mask
  | .v6 network length, .v6 bits => do
      let mask ← leadingMask? 128 length
      return bits &&& mask == network &&& mask
  | _, _ => some false

theorem ofShort?_eq (positive : 1 ≤ length) (le : length ≤ 32) (bits : BitVec 32) :
    ofShort? bits length = some (ofShort bits length) := by
  rw [ofShort?, leadingMask?_eq_some positive le]
  rfl

theorem ofLong?_eq (positive : 1 ≤ length) (le : length ≤ 128) (bits : BitVec 128) :
    ofLong? bits length = some (ofLong bits length) := by
  have mask := leadingMask?_eq_some positive le
  rw [ofLong?, ofLong]
  cases mapped? bits with
  | none =>
    dsimp only
    rw [mask]
    rfl
  | some low =>
    by_cases beyond : 96 < length
    · have rest : sub? length 96 = some (length - 96) := if_pos (Nat.le_of_lt beyond)
      have short := ofShort?_eq (Nat.sub_pos_of_lt beyond) (Nat.sub_le_of_le_add le) low
      simp only [beyond, decide_true, if_true, rest, Option.bind_eq_bind, Option.bind_some, short]
    · simp only [beyond, decide_false, if_false]
      rw [mask]
      rfl

/-- Making a block never takes away too much and never shifts too far, whatever its length. -/
theorem ofAddress?_eq (address : Address) (length : Nat) :
    ofAddress? address length = some (ofAddress address length) := by
  unfold ofAddress? ofAddress
  split
  · next inRange =>
    cases address with
    | v4 bits =>
      dsimp only
      rw [ofShort?_eq inRange.1 inRange.2, Option.map_some]
    | v6 bits =>
      dsimp only
      rw [ofLong?_eq inRange.1 inRange.2, Option.map_some]
  · rfl

/-- Neither does asking a block that is well-formed. -/
theorem WellFormed.contains?_eq {block : Block} (formed : block.WellFormed) (candidate : Address) :
    block.contains? candidate = some (block.contains candidate) := by
  unfold contains? contains
  cases block with
  | v4 network length =>
    have mask := leadingMask?_eq_some formed.1 formed.2.1
    cases candidate.canonical with
    | v4 bits =>
      dsimp only
      rw [mask]
      rfl
    | v6 bits => rfl
  | v6 network length =>
    have mask := leadingMask?_eq_some formed.1 formed.2.1
    cases candidate.canonical with
    | v4 bits => rfl
    | v6 bits =>
      dsimp only
      rw [mask]
      rfl

/-- A block whose length is not one of its version cannot be asked. -/
example : (Block.v4 0#32 0).contains? (.v4 1#32) = none := rfl

end Block

end SenderPolicy

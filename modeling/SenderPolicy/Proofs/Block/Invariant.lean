import SenderPolicy.Proofs.Block.Membership

/-! # Blocks that are made

A block that is made has a length that its network can have, and its network has no bits beyond it. So it is
made again from its own network and length, and its network does not change from one form to the other. This
is what tells the blocks that are made from all others.
-/

namespace SenderPolicy.Block

open Address

variable {address : Address} {block : Block} {length : Nat}

/-- No bit of the word is set after the first `length`. -/
def ClearAfter {width : Nat} (length : Nat) (word : BitVec width) : Prop :=
  ∀ i < width, length ≤ i → word.getMsbD i = false

instance {width : Nat} (length : Nat) (word : BitVec width) : Decidable (ClearAfter length word) :=
  inferInstanceAs (Decidable (∀ i < width, length ≤ i → word.getMsbD i = false))

theorem clearAfter_and_leadingMask {width : Nat} (length : Nat) (word : BitVec width) :
    ClearAfter length (word &&& leadingMask width length) := by
  intro i _ beyond
  rw [BitVec.getMsbD_and, getMsbD_leadingMask]
  simp [Nat.not_lt.mpr beyond]

/-- A word has no bits after the first ones when the mask leaves all of it. -/
theorem clearAfter_iff {width : Nat} {word : BitVec width} :
    ClearAfter length word ↔ word &&& leadingMask width length = word := by
  constructor
  · intro clear
    apply BitVec.eq_of_getMsbD_eq
    intro i inside
    rw [BitVec.getMsbD_and, getMsbD_leadingMask]
    by_cases beyond : length ≤ i
    · rw [clear i inside beyond, Bool.false_and]
    · simp [inside, Nat.lt_of_not_le beyond]
  · intro kept
    rw [← kept]
    exact clearAfter_and_leadingMask length word

/-- The length is one that the version has, no bit of the network is set after it, and a mapped network has no
more bits than all mapped addresses share. -/
def WellFormed : Block → Prop
  | .v4 network length => 1 ≤ length ∧ length ≤ 32 ∧ ClearAfter length network
  | .v6 network length => 1 ≤ length ∧ length ≤ 128 ∧ ClearAfter length network ∧
      ((mapped? network).isSome = true → length ≤ 96)

instance : DecidablePred WellFormed
  | .v4 network length => inferInstanceAs (Decidable (1 ≤ length ∧ length ≤ 32 ∧ ClearAfter length network))
  | .v6 network length => inferInstanceAs (Decidable (1 ≤ length ∧ length ≤ 128 ∧
      ClearAfter length network ∧ ((mapped? network).isSome = true → length ≤ 96)))

/-- Beyond the first 96 bits, the mask makes no address a mapped one. -/
theorem length_le_of_isSome_mapped? {bits : BitVec 128} (free : mapped? bits = none)
    (mapped : (mapped? (bits &&& leadingMask 128 length)).isSome = true) : length ≤ 96 := by
  apply Nat.le_of_not_lt
  intro beyond
  obtain ⟨low, found⟩ := Option.isSome_iff_exists.mp mapped
  have agree := agreeOn_and_leadingMask length bits
  rw [mapped?_eq_some_iff.mp found] at agree
  obtain ⟨other, rfl⟩ := exists_embed_of_agreeOn (Nat.le_of_lt beyond) agree
  rw [mapped?_embed] at free
  cases free

theorem wellFormed_ofShort (positive : 1 ≤ length) (le : length ≤ 32) (bits : BitVec 32) :
    (ofShort bits length).WellFormed :=
  ⟨positive, le, clearAfter_and_leadingMask length bits⟩

/-- The block of a long address is well-formed in either form. -/
theorem wellFormed_ofLong (positive : 1 ≤ length) (le : length ≤ 128) (bits : BitVec 128) :
    (ofLong bits length).WellFormed := by
  have clear := clearAfter_and_leadingMask length bits
  unfold ofLong
  cases found : mapped? bits with
  | none => exact ⟨positive, le, clear, length_le_of_isSome_mapped? found⟩
  | some low =>
    dsimp only
    split
    · next beyond => exact wellFormed_ofShort (Nat.sub_pos_of_lt beyond) (Nat.sub_le_of_le_add le) low
    · next within => exact ⟨positive, le, clear, fun _ => Nat.le_of_not_lt within⟩

/-- Whatever is made is well-formed. -/
theorem wellFormed_of_ofAddress (made : ofAddress address length = .ok block) : block.WellFormed := by
  obtain ⟨⟨positive, le⟩, rfl⟩ := ofAddress_eq_ok_iff.mp made
  cases address with
  | v4 bits => exact wellFormed_ofShort positive le bits
  | v6 bits => exact wellFormed_ofLong positive le bits

/-- A block of long addresses is made again from its network when no bit is set after the length, and the
network is mapped only where no more bits count than all mapped addresses share. -/
theorem ofLong_eq_self_iff {network : BitVec 128} :
    ofLong network length = .v6 network length ↔
      ClearAfter length network ∧ ((mapped? network).isSome = true → length ≤ 96) := by
  rw [clearAfter_iff, ofLong]
  cases mapped? network with
  | none => simp
  | some low =>
    dsimp only
    split
    · next beyond => simp [ofShort, Nat.not_le.mpr beyond]
    · next within => simp [Nat.le_of_not_lt within]

/-- A block is well-formed when it is made again from its own network and length. -/
theorem wellFormed_iff : block.WellFormed ↔ ofAddress block.network block.length = .ok block := by
  rw [ofAddress_eq_ok_iff]
  cases block with
  | v4 network length =>
    change _ ↔ (1 ≤ length ∧ length ≤ 32) ∧ Block.v4 network length = ofShort network length
    rw [WellFormed, clearAfter_iff, ofShort, Block.v4.injEq, and_iff_left rfl, eq_comm, and_assoc]
  | v6 network length =>
    change _ ↔ (1 ≤ length ∧ length ≤ 128) ∧ Block.v6 network length = ofLong network length
    rw [WellFormed, @eq_comm _ _ (ofLong network length), ofLong_eq_self_iff, and_assoc]

/-- A block that is made is the block around its own network, and its length is one that the network can
have. -/
theorem ofAddress_network_length (made : ofAddress address length = .ok block) :
    ofAddress block.network block.length = .ok block :=
  wellFormed_iff.mp (wellFormed_of_ofAddress made)

end SenderPolicy.Block

import SenderPolicy.Block

/-! # Membership in a block

A block keeps its network with the later bits cleared, and compares an address with it under the same
mask. What is left of this is an agreement of leading bits. All addresses have a place among the long
ones, the short ones as the mapped addresses that stand for them, and there one agreement decides about
blocks of either form.
-/

namespace SenderPolicy

/-- The first bits of two words are the same. -/
def AgreeOn {width : Nat} (length : Nat) (left right : BitVec width) : Prop :=
  ∀ i < length, left.getMsbD i = right.getMsbD i

instance {width length : Nat} (left right : BitVec width) : Decidable (AgreeOn length left right) :=
  inferInstanceAs (Decidable (∀ i < length, _))

variable {width length : Nat} {left right : BitVec width}

theorem AgreeOn.refl (length : Nat) (word : BitVec width) : AgreeOn length word word := fun _ _ => rfl

theorem AgreeOn.symm (agree : AgreeOn length left right) : AgreeOn length right left :=
  fun i bound => (agree i bound).symm

theorem AgreeOn.trans {last : BitVec width} (agree : AgreeOn length left right)
    (after : AgreeOn length right last) : AgreeOn length left last :=
  fun i bound => (agree i bound).trans (after i bound)

theorem AgreeOn.mono {fewer : Nat} (agree : AgreeOn length left right) (le : fewer ≤ length) :
    AgreeOn fewer left right :=
  fun i bound => agree i (Nat.lt_of_lt_of_le bound le)

/-- The leading mask has the leading bits, as far as there are any. -/
theorem getMsbD_leadingMask (width length i : Nat) :
    (leadingMask width length).getMsbD i = decide (i < length ∧ i < width) := by
  rw [leadingMask, BitVec.getMsbD_shiftLeft, BitVec.getMsbD_allOnes]
  apply decide_eq_decide.mpr
  omega

/-- A word agrees with what the mask leaves of it. -/
theorem agreeOn_and_leadingMask (length : Nat) (word : BitVec width) :
    AgreeOn length (word &&& leadingMask width length) word := by
  intro i bound
  rw [BitVec.getMsbD_and, getMsbD_leadingMask]
  by_cases inside : i < width
  · simp [bound, inside]
  · rw [BitVec.getMsbD_of_ge word i (Nat.le_of_not_lt inside), Bool.false_and]

theorem agreeOn_comm : AgreeOn length left right ↔ AgreeOn length right left := ⟨.symm, .symm⟩

/-- For the bits that count it does not matter whether the others are cleared. -/
theorem masked_agreeOn_iff :
    AgreeOn length (left &&& leadingMask width length) right ↔ AgreeOn length left right := by
  have masked := agreeOn_and_leadingMask length left
  exact ⟨masked.symm.trans, masked.trans⟩

/-- Two words agree where the mask leaves the same of both. -/
theorem and_leadingMask_eq_iff :
    left &&& leadingMask width length = right &&& leadingMask width length ↔
      AgreeOn length left right := by
  constructor
  · intro same i bound
    rw [← agreeOn_and_leadingMask length left i bound, same]
    exact agreeOn_and_leadingMask length right i bound
  · intro agree
    apply BitVec.eq_of_getMsbD_eq
    intro i inside
    simp only [BitVec.getMsbD_and, getMsbD_leadingMask, inside, and_true]
    by_cases bound : i < length
    · rw [agree i bound]
    · simp [bound]

/-- Words in two parts agree beyond the first part when it is the same and the second parts agree. -/
theorem agreeOn_append_iff {rest : Nat} {low low' : BitVec rest} :
    AgreeOn (width + length) (left ++ low) (right ++ low') ↔ left = right ∧ AgreeOn length low low' := by
  simp only [AgreeOn, BitVec.getMsbD_append]
  constructor
  · intro agree
    constructor
    · apply BitVec.eq_of_getMsbD_eq
      intro i inside
      have here := agree i (by omega)
      rwa [if_neg (by omega), if_neg (by omega)] at here
    · intro i bound
      have here := agree (width + i) (by omega)
      rwa [if_pos (by omega), if_pos (by omega), Nat.add_sub_cancel_left] at here
  · rintro ⟨rfl, agree⟩ i bound
    split
    · next beyond => exact agree _ (by omega)
    · rfl

namespace Address

/-- The address among the long ones, where a mapped address stands for a short one. -/
def asLong : Address → BitVec 128
  | .v4 bits => embed bits
  | .v6 bits => bits

/-- How many bits of the long form count where so many of the address do. -/
def longLength : Address → Nat → Nat
  | .v4 _, length => 96 + length
  | .v6 _, length => length

theorem embed_inj {left right : BitVec 32} : embed left = embed right ↔ left = right := by
  constructor
  · intro same
    apply Option.some.inj
    rw [← mapped?_embed, same, mapped?_embed]
  · rintro rfl
    rfl

theorem agreeOn_embed_iff {left right : BitVec 32} :
    AgreeOn (96 + length) (embed left) (embed right) ↔ AgreeOn length left right := by
  rw [embed, embed, agreeOn_append_iff]
  exact and_iff_right rfl

/-- Whatever agrees with a mapped address on the first 96 bits is mapped. -/
theorem exists_embed_of_agreeOn {low : BitVec 32} {word : BitVec 128} (beyond : 96 ≤ length)
    (agree : AgreeOn length (embed low) word) : ∃ other, word = embed other := by
  have parts : word.extractLsb' 32 96 ++ word.extractLsb' 0 32 = word :=
    @BitVec.extractLsb'_append_extractLsb' 96 32 word
  have front : AgreeOn (96 + 0) (embed low) word := agree.mono beyond
  rw [← parts, embed, agreeOn_append_iff] at front
  exact ⟨word.extractLsb' 0 32, by rw [embed, front.1, parts]⟩

/-- An address and its canonical form have one long form. -/
theorem asLong_canonical (address : Address) : address.canonical.asLong = address.asLong := by
  cases address with
  | v4 bits => rfl
  | v6 bits =>
    rw [canonical]
    cases found : mapped? bits with
    | none => rfl
    | some low => exact (mapped?_eq_some_iff.mp found).symm

/-- An address counts as a short one when its long form is mapped. -/
theorem canonical_eq_v4_iff {address : Address} {low : BitVec 32} :
    address.canonical = .v4 low ↔ address.asLong = embed low := by
  constructor
  · intro form
    rw [← asLong_canonical, form, asLong]
  · intro mapped
    cases address with
    | v4 bits => rw [canonical, embed_inj.mp mapped]
    | v6 bits =>
      obtain rfl : bits = embed low := mapped
      exact canonical_embed low

/-- An address counts as a long one when its long form is not mapped. -/
theorem canonical_eq_v6_iff {address : Address} {bits : BitVec 128} :
    address.canonical = .v6 bits ↔ address.asLong = bits ∧ ∀ low, address.asLong ≠ embed low := by
  have kept := asLong_canonical address
  cases form : address.canonical with
  | v4 low =>
    rw [form, asLong] at kept
    constructor
    · exact nofun
    · rintro ⟨-, free⟩
      exact absurd kept.symm (free low)
  | v6 long =>
    rw [form, asLong] at kept
    rw [Address.v6.injEq, kept]
    refine (and_iff_left fun low mapped => ?_).symm
    rw [canonical_eq_v4_iff.mpr mapped] at form
    cases form

end Address

namespace Block

open Address

/-- The block of the first `length` bits of an address, if it has so many. -/
def around : Address → Nat → Block
  | .v4 bits, length => ofShort bits length
  | .v6 bits, length => ofLong bits length

theorem ofAddress_eq_ok_iff {address : Address} {block : Block} :
    ofAddress address length = .ok block ↔
      (1 ≤ length ∧ length ≤ address.version.width) ∧ block = around address length := by
  unfold ofAddress
  split
  · next inRange => cases address <;> simp [inRange, around, eq_comm]
  · next outside => simp [outside]

variable {candidate : Address}

theorem contains_v4_iff {network : BitVec 32} :
    (Block.v4 network length).contains candidate = true ↔
      ∃ bits, candidate.canonical = .v4 bits ∧ AgreeOn length network bits := by
  unfold contains
  cases candidate.canonical with
  | v4 bits =>
    dsimp only
    rw [beq_iff_eq, and_leadingMask_eq_iff, agreeOn_comm]
    simp
  | v6 bits => simp

theorem contains_v6_iff {network : BitVec 128} :
    (Block.v6 network length).contains candidate = true ↔
      ∃ bits, candidate.canonical = .v6 bits ∧ AgreeOn length network bits := by
  unfold contains
  cases candidate.canonical with
  | v4 bits => simp
  | v6 bits =>
    dsimp only
    rw [beq_iff_eq, and_leadingMask_eq_iff, agreeOn_comm]
    simp

/-- A block of short addresses holds whatever agrees with the mapped address that stands for its own. -/
theorem contains_ofShort_iff {bits : BitVec 32} :
    (ofShort bits length).contains candidate = true ↔
      AgreeOn (96 + length) (embed bits) candidate.asLong := by
  simp only [ofShort, contains_v4_iff, canonical_eq_v4_iff, masked_agreeOn_iff]
  constructor
  · rintro ⟨low, mapped, agree⟩
    rw [mapped]
    exact agreeOn_embed_iff.mpr agree
  · intro agree
    obtain ⟨low, mapped⟩ := exists_embed_of_agreeOn (Nat.le_add_right 96 length) agree
    rw [mapped] at agree
    exact ⟨low, mapped, agreeOn_embed_iff.mp agree⟩

/-- A block that is kept as one of long addresses holds what agrees with its network and is not mapped. -/
theorem contains_masked_iff {bits : BitVec 128} :
    (Block.v6 (bits &&& leadingMask 128 length) length).contains candidate = true ↔
      AgreeOn length bits candidate.asLong ∧ ∀ low, candidate.asLong ≠ embed low := by
  simp only [contains_v6_iff, canonical_eq_v6_iff, masked_agreeOn_iff]
  constructor
  · rintro ⟨_, ⟨rfl, free⟩, agree⟩
    exact ⟨agree, free⟩
  · rintro ⟨agree, free⟩
    exact ⟨candidate.asLong, ⟨rfl, free⟩, agree⟩

/-- Beyond the first 96 bits a block of a long address holds mapped addresses where its own is mapped, and
up to there it holds none. -/
theorem contains_ofLong_iff {bits : BitVec 128} :
    (ofLong bits length).contains candidate = true ↔
      AgreeOn length bits candidate.asLong ∧ (96 < length ∨ ∀ low, candidate.asLong ≠ embed low) := by
  unfold ofLong
  cases found : mapped? bits with
  | some low =>
    obtain rfl := mapped?_eq_some_iff.mp found
    dsimp only
    split
    · next beyond =>
      rw [contains_ofShort_iff, Nat.add_sub_cancel' (Nat.le_of_lt beyond)]
      exact (and_iff_left (.inl beyond)).symm
    · next within => rw [contains_masked_iff, or_iff_right within]
  | none =>
    dsimp only
    rw [contains_masked_iff]
    refine and_congr_right fun agree => ⟨.inr, ?_⟩
    rintro (beyond | free)
    · intro low mapped
      -- The network would be mapped as well, since it agrees with the candidate beyond the first 96 bits.
      rw [mapped] at agree
      obtain ⟨other, rfl⟩ := exists_embed_of_agreeOn (Nat.le_of_lt beyond) agree.symm
      rw [mapped?_embed] at found
      cases found
    · exact free

/-- Among the long forms there is one rule for all blocks. -/
theorem contains_around_iff {address : Address} (positive : 1 ≤ length) :
    (around address length).contains candidate = true ↔
      AgreeOn (address.longLength length) address.asLong candidate.asLong ∧
        (96 < address.longLength length ∨ ∀ low, candidate.asLong ≠ embed low) := by
  cases address with
  | v4 bits =>
    have beyond : 96 < 96 + length := by omega
    rw [around, contains_ofShort_iff]
    exact (and_iff_left (.inl beyond)).symm
  | v6 bits => exact contains_ofLong_iff

/-- An address is in the block around it, unless it is a mapped one and no more than 96 of its bits count. -/
theorem contains_around_self_iff {address : Address} (positive : 1 ≤ length) :
    (around address length).contains address = true ↔
      ∀ low, address = .v6 (embed low) → 96 < length := by
  rw [contains_around_iff positive, and_iff_right (AgreeOn.refl _ _)]
  cases address with
  | v4 bits =>
    have beyond : 96 < 96 + length := by omega
    exact iff_of_true (.inl beyond) nofun
  | v6 bits =>
    simp only [longLength, asLong, Address.v6.injEq]
    constructor
    · rintro (beyond | free) low mapped
      · exact beyond
      · exact absurd mapped (free low)
    · intro covered
      by_cases beyond : 96 < length
      · exact .inl beyond
      · exact .inr fun low mapped => beyond (covered low mapped)

/-- A block holds exactly the addresses whose long form agrees with that of its own address, on as many bits
as count there. If these are no more than 96, it holds neither short nor mapped addresses. -/
theorem contains_iff_of_ofAddress {address : Address} {block : Block}
    (made : ofAddress address length = .ok block) (candidate : Address) :
    block.contains candidate = true ↔
      AgreeOn (address.longLength length) address.asLong candidate.asLong ∧
        (96 < address.longLength length ∨ ∀ low, candidate.asLong ≠ embed low) := by
  obtain ⟨⟨positive, -⟩, rfl⟩ := ofAddress_eq_ok_iff.mp made
  exact contains_around_iff positive

/-- With 100 bits, a mapped address covers the short addresses that agree with its short part on four bits. With
95 it does not cover itself, but it covers long addresses beside the mapped ones. -/
theorem contains_iff_of_ofAddress_boundary :
    let address : Address := .v6 (embed 0x0A010203#32)
    (∃ block, ofAddress address 100 = .ok block ∧ block.contains (.v4 0x0FFFFFFF#32) = true ∧
      block.contains (.v4 0x10000000#32) = false) ∧
    ∃ block, ofAddress address 95 = .ok block ∧ block.contains address = false ∧
      block.contains (.v6 0xFFFE00000000#128) = true := by
  intro address
  have deep : ofAddress address 100 = .ok (.v4 0x00000000#32 4) := rfl
  have wide : ofAddress address 95 = .ok (.v6 0xFFFE00000000#128 95) := rfl
  refine ⟨⟨_, deep, ?_, ?_⟩, ⟨_, wide, ?_, ?_⟩⟩
  · exact (contains_iff_of_ofAddress deep _).mpr ⟨by decide, .inl (by decide)⟩
  · apply Bool.eq_false_iff.mpr
    intro held
    exact absurd ((contains_iff_of_ofAddress deep _).mp held).1 (by decide)
  · apply Bool.eq_false_iff.mpr
    intro held
    rcases ((contains_iff_of_ofAddress wide _).mp held).2 with beyond | free
    · exact absurd beyond (by decide)
    · exact free _ rfl
  · refine (contains_iff_of_ofAddress wide _).mpr ⟨by decide, .inr fun low mapped => ?_⟩
    have high := congrArg (BitVec.extractLsb' 32 96) mapped
    rw [embed, BitVec.extractLsb'_append_eq_left] at high
    exact absurd high (by decide)

end Block

end SenderPolicy

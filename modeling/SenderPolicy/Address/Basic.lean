/-! # Internet addresses

An address is a word of 32 or of 128 bits. The block `::ffff:0:0/96` of the longer ones stands for
the shorter ones; an address of that block is *mapped*, and its canonical form is the short address
that it stands for.
-/

namespace SenderPolicy

inductive Version where
  | v4
  | v6
deriving DecidableEq, Repr

namespace Version

/-- The number of bits of an address, and so its longest prefix. -/
def width : Version → Nat
  | .v4 => 32
  | .v6 => 128

def name : Version → String
  | .v4 => "IPv4"
  | .v6 => "IPv6"

end Version

inductive Address where
  | v4 (bits : BitVec 32)
  | v6 (bits : BitVec 128)
deriving DecidableEq, Repr

namespace Address

def version : Address → Version
  | .v4 _ => .v4
  | .v6 _ => .v6

/-- The mapped address that stands for a short one. -/
def embed (bits : BitVec 32) : BitVec 128 := 0xFFFF#96 ++ bits

/-- The short address that a mapped one stands for. -/
def mapped? (bits : BitVec 128) : Option (BitVec 32) :=
  if bits.extractLsb' 32 96 = 0xFFFF#96 then some (bits.extractLsb' 0 32) else none

/-- A mapped address becomes the short address that it stands for. -/
def canonical : Address → Address
  | .v4 bits => .v4 bits
  | .v6 bits =>
      match mapped? bits with
      | some low => .v4 low
      | none => .v6 bits

theorem mapped?_embed (bits : BitVec 32) : mapped? (embed bits) = some bits := by
  rw [mapped?, embed, BitVec.extractLsb'_append_eq_left, if_pos rfl,
    BitVec.extractLsb'_append_eq_right]

/-- Mapped addresses are exactly the embedded ones. -/
theorem mapped?_eq_some_iff {bits : BitVec 128} {low : BitVec 32} :
    mapped? bits = some low ↔ bits = embed low := by
  constructor
  · intro found
    unfold mapped? at found
    split at found
    · next high =>
      cases found
      rw [embed, ← high]
      exact (@BitVec.extractLsb'_append_extractLsb' 96 32 bits).symm
    · contradiction
  · rintro rfl
    exact mapped?_embed low

theorem canonical_embed (bits : BitVec 32) : (Address.v6 (embed bits)).canonical = .v4 bits := by
  simp [canonical, mapped?_embed]

/-- The canonical form is its own canonical form. -/
@[simp] theorem canonical_canonical (address : Address) :
    address.canonical.canonical = address.canonical := by
  cases address with
  | v4 bits => rfl
  | v6 bits =>
    cases found : mapped? bits <;> simp [canonical, found]

end Address

end SenderPolicy

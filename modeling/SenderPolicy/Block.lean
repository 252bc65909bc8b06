import SenderPolicy.Address.Text

/-! # Blocks of addresses

A block is the set of addresses of one version that agree with a network on a number of leading
bits. The network is kept with every later bit cleared. A mapped address with more than 96 bits
covers short addresses only, and its block is kept as a block of those.
-/

namespace SenderPolicy

/-- The word of which exactly the first `length` bits are set. -/
def leadingMask (width length : Nat) : BitVec width := BitVec.allOnes width <<< (width - length)

/-- The addresses of one version that agree with `network` on the first `length` bits. -/
inductive Block where
  | v4 (network : BitVec 32) (length : Nat)
  | v6 (network : BitVec 128) (length : Nat)
deriving DecidableEq, Repr

inductive BlockError where
  | lengthOutOfRange (address : Address) (length : Nat)
deriving DecidableEq, Repr

/-- The length is judged by the version that the address is written in. -/
def BlockError.message : BlockError → String
  | .lengthOutOfRange address length =>
      "prefix /" ++ toString length ++ " out of range 1-" ++ toString address.version.width ++ " for "
        ++ address.text

namespace Block

def ofShort (bits : BitVec 32) (length : Nat) : Block := .v4 (bits &&& leadingMask 32 length) length

def ofLong (bits : BitVec 128) (length : Nat) : Block :=
  match Address.mapped? bits with
  | some low =>
      if 96 < length then ofShort low (length - 96) else .v6 (bits &&& leadingMask 128 length) length
  | none => .v6 (bits &&& leadingMask 128 length) length

/-- The block of the first `length` bits of an address: at least one, at most all that the version it
is written in has. -/
def ofAddress (address : Address) (length : Nat) : Except BlockError Block :=
  if 1 ≤ length ∧ length ≤ address.version.width then
    match address with
    | .v4 bits => .ok (ofShort bits length)
    | .v6 bits => .ok (ofLong bits length)
  else .error (.lengthOutOfRange address length)

/-- The address, made canonical, is of the block's version and agrees with its network. -/
def contains (block : Block) (address : Address) : Bool :=
  match block, address.canonical with
  | .v4 network length, .v4 bits =>
      bits &&& leadingMask 32 length == network &&& leadingMask 32 length
  | .v6 network length, .v6 bits =>
      bits &&& leadingMask 128 length == network &&& leadingMask 128 length
  | _, _ => false

def network : Block → Address
  | .v4 network _ => .v4 network
  | .v6 network _ => .v6 network

def length : Block → Nat
  | .v4 _ length => length
  | .v6 _ length => length

def text (block : Block) : String := block.network.text ++ "/" ++ toString block.length

/-- A block that fails to be built has a length outside the range of its address. -/
theorem ofAddress_eq_error_iff {address : Address} {length : Nat} {error : BlockError} :
    ofAddress address length = .error error ↔
      ¬(1 ≤ length ∧ length ≤ address.version.width) ∧ error = .lengthOutOfRange address length := by
  unfold ofAddress
  split
  · next inRange => cases address <;> simp [inRange]
  · next outside => simp [outside, eq_comm]

end Block

end SenderPolicy

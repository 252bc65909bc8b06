import SenderPolicy.Address.Basic

/-! # The text of an address

A short address is four decimal octets with dots between them. A long one is eight hexadecimal
groups with colons between them, of which the longest run of zeros, if it has two groups or more, is
left out; a mapped address keeps its short part as octets. When an address is read, the whole text has
to be one: neither a zone, nor brackets, nor blanks may stand beside it. Octets have no leading zeros;
groups may have them. A long address may leave out one run of zero groups, and may end in four octets
in place of its last two groups.
-/

namespace SenderPolicy

namespace Positional

/-- The last `count` digits of a number, the most significant first. -/
def digits (base : Nat) : Nat → Nat → List Nat
  | 0, _ => []
  | count + 1, n => digits base count (n / base) ++ [n % base]

/-- The number that digits stand for, the most significant first. -/
def value (base : Nat) (ds : List Nat) : Nat := ds.foldl (fun sum d => sum * base + d) 0

@[simp] theorem length_digits (base count n : Nat) : (digits base count n).length = count := by
  induction count generalizing n with
  | zero => rfl
  | succ count ih => simp [digits, ih]

theorem lt_of_mem_digits {base count n d : Nat} (positive : 0 < base)
    (member : d ∈ digits base count n) : d < base := by
  induction count generalizing n with
  | zero => simp [digits] at member
  | succ count ih =>
    simp only [digits, List.mem_append, List.mem_singleton] at member
    rcases member with earlier | rfl
    · exact ih earlier
    · exact Nat.mod_lt _ positive

theorem value_append_singleton (base : Nat) (ds : List Nat) (d : Nat) :
    value base (ds ++ [d]) = value base ds * base + d := by
  simp [value]

end Positional

namespace Address

def octets (bits : BitVec 32) : List Nat := Positional.digits 256 4 bits.toNat

def groups (bits : BitVec 128) : List Nat := Positional.digits 65536 8 bits.toNat

def dotted (bits : BitVec 32) : List Char :=
  List.intercalate ['.'] ((octets bits).map (Nat.toDigits 10))

def colonated (gs : List Nat) : List Char := List.intercalate [':'] (gs.map (Nat.toDigits 16))

/-- How many zeros stand together from a position on. -/
def zerosFrom (gs : List Nat) (start : Nat) : Nat := ((gs.drop start).takeWhile (· = 0)).length

/-- Where the longest run of zeros starts; of several runs of one length, the first. -/
def longestZeros (gs : List Nat) : Nat :=
  (List.range gs.length).foldl
    (fun best start => if zerosFrom gs best < zerosFrom gs start then start else best) 0

/-- The groups of a long address, without the longest run of two or more zeros. -/
def compressed (gs : List Nat) : List Char :=
  let start := longestZeros gs
  let count := zerosFrom gs start
  if count < 2 then colonated gs
  else colonated (gs.take start) ++ [':', ':'] ++ colonated (gs.drop (start + count))

/-- A long address; a mapped one shows the short address that it stands for. -/
def longText (bits : BitVec 128) : List Char :=
  match mapped? bits with
  | some low => "::ffff:".toList ++ dotted low
  | none => compressed (groups bits)

def text : Address → String
  | .v4 bits => String.ofList (dotted bits)
  | .v6 bits => String.ofList (longText bits)

/-- One to three decimal digits below 256, without a leading zero. -/
def octet? (cs : List Char) : Option Nat :=
  let n := Nat.ofDigitChars 10 cs 0
  if cs ≠ [] ∧ cs.length ≤ 3 ∧ cs.all Char.isDigit = true ∧ (cs.head? = some '0' → cs.length = 1)
      ∧ n < 256 then
    some n
  else none

/-- Four octets with dots between them. -/
def octets? (cs : List Char) : Option (List Nat) :=
  let parts := cs.splitOn '.'
  if parts.length = 4 then parts.mapM octet? else none

/-- The value of a hexadecimal digit, in either case. -/
def hexDigit? (c : Char) : Option Nat :=
  if c.isDigit then some (c.toNat - '0'.toNat)
  else if 'a' ≤ c ∧ c ≤ 'f' then some (c.toNat - 'a'.toNat + 10)
  else if 'A' ≤ c ∧ c ≤ 'F' then some (c.toNat - 'A'.toNat + 10)
  else none

/-- One to four hexadecimal digits. -/
def group? (cs : List Char) : Option Nat :=
  if cs ≠ [] ∧ cs.length ≤ 4 then (cs.mapM hexDigit?).map (Positional.value 16) else none

/-- The two groups that four octets stand for. -/
def pairOctets : List Nat → List Nat
  | high :: low :: rest => (high * 256 + low) :: pairOctets rest
  | _ => []

/-- Groups from the texts between colons. Only the last text may be four octets, and only where
`quadAllowed`. -/
def readGroups (quadAllowed : Bool) : List (List Char) → Option (List Nat)
  | [] => some []
  | [last] =>
      match group? last with
      | some g => some [g]
      | none => if quadAllowed then (octets? last).map pairOctets else none
  | first :: rest => do
      let g ← group? first
      let gs ← readGroups quadAllowed rest
      return g :: gs

/-- The texts between colons; an empty text has none. -/
def colonFields (cs : List Char) : List (List Char) := if cs = [] then [] else cs.splitOn ':'

/-- The texts before and after the first pair of colons. -/
def splitAtGap : List Char → Option (List Char × List Char)
  | [] => none
  | ':' :: ':' :: rest => some ([], rest)
  | c :: rest => (splitAtGap rest).map fun (before, after) => (c :: before, after)

/-- The eight groups of a long address. The gap stands for at least one of them. -/
def groups? (cs : List Char) : Option (List Nat) :=
  match splitAtGap cs with
  | none => do
      let gs ← readGroups true (colonFields cs)
      if gs.length = 8 then some gs else none
  | some (before, after) => do
      let front ← readGroups false (colonFields before)
      let back ← readGroups true (colonFields after)
      if front.length + back.length ≤ 7 then
        some (front ++ List.replicate (8 - front.length - back.length) 0 ++ back)
      else none

def shortOfText? (cs : List Char) : Option (BitVec 32) :=
  (octets? cs).map fun os => BitVec.ofNat 32 (Positional.value 256 os)

def longOfText? (cs : List Char) : Option (BitVec 128) :=
  (groups? cs).map fun gs => BitVec.ofNat 128 (Positional.value 65536 gs)

def ofVersion? : Version → List Char → Option Address
  | .v4, cs => (shortOfText? cs).map .v4
  | .v6, cs => (longOfText? cs).map .v6

/-- Reads an address of either version. A mapped address stays a long one. -/
def ofText? (text : String) : Option Address :=
  (ofVersion? .v4 text.toList).or (ofVersion? .v6 text.toList)

end Address

end SenderPolicy

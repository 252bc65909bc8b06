import Mathlib.Algebra.Group.Nat.Defs
import Mathlib.Data.List.Induction
import Mathlib.Tactic.Ring
import SenderPolicy.Address.Text
import SenderPolicy.Proofs.Text

/-! # Reading short addresses back

Taking digits off a number and reading them are inverse to each other. So the text of a short address is
read as that address, by itself and as the end of the mapped address that stands for it.
-/

namespace SenderPolicy

namespace Positional

/-- Digits that are taken off a number and read again give what fits into them. -/
theorem value_digits (base count n : Nat) : value base (digits base count n) = n % base ^ count := by
  induction count generalizing n with
  | zero => simp [digits, value, Nat.mod_one]
  | succ count ih =>
    rw [digits, value_append_singleton, ih, Nat.pow_succ, Nat.mul_comm (base ^ count) base,
      Nat.mod_mul]
    rw [Nat.mul_comm, Nat.add_comm]

end Positional

namespace Address

/-- Only zero is written with a zero in front. -/
theorem head?_toDigits_eq_zero_iff {n : Nat} : (Nat.toDigits 10 n).head? = some '0' ↔ n = 0 := by
  induction n using Nat.strongRecOn with
  | ind n ih =>
    rw [Nat.toDigits_eq_if (by decide)]
    split
    · simp
    · next large =>
      have front : (Nat.toDigits 10 (n / 10)).head?.isSome := by simp
      rw [List.head?_append, Option.or_of_isSome front, ih (n / 10) (by omega)]
      omega

theorem isDigit_toDigits (n : Nat) : (Nat.toDigits 10 n).all Char.isDigit = true :=
  List.all_eq_true.mpr fun _ member => Nat.isDigit_of_mem_toDigits (by decide) (by decide) member

/-- A mark that is no digit does not stand in a decimal number. -/
theorem not_mem_toDigits {mark : Char} (other : mark.isDigit = false) (n : Nat) :
    mark ∉ Nat.toDigits 10 n := by
  intro member
  rw [Nat.isDigit_of_mem_toDigits (by decide) (by decide) member] at other
  contradiction

/-- A digit is the one that its value is written with. -/
theorem exists_digitChar_of_isDigit {c : Char} (digit : c.isDigit = true) :
    ∃ d < 10, c.toNat - '0'.toNat = d ∧ d.digitChar = c := by
  have table : ∀ d < 10, Nat.digitChar d = Char.ofNat ('0'.toNat + d) := by decide
  obtain ⟨low, high⟩ := Char.isDigit_iff_toNat.mp digit
  have nine : '9'.toNat = '0'.toNat + 9 := rfl
  have place : c.toNat = '0'.toNat + (c.toNat - '0'.toNat) := by omega
  refine ⟨_, by omega, rfl, ?_⟩
  rw [table _ (by omega), ← place, Char.ofNat_toNat]

/-- Decimal digits without a zero in front are those that their number is written with. -/
theorem toDigits_ofDigitChars {cs : List Char} (filled : cs ≠ []) (digits : ∀ c ∈ cs, c.isDigit = true)
    (leading : cs.head? ≠ some '0') : Nat.toDigits 10 (Nat.ofDigitChars 10 cs 0) = cs := by
  induction cs using List.reverseRecOn with
  | nil => contradiction
  | append_singleton front last ih =>
    obtain ⟨d, small, value, char⟩ :=
      exists_digitChar_of_isDigit (digits last (List.mem_append_right _ List.mem_cons_self))
    have single : Nat.toDigits 10 d = [last] := by rw [Nat.toDigits_of_lt_base small, char]
    rw [Nat.ofDigitChars_append, Nat.ofDigitChars_cons, Nat.ofDigitChars_nil, value]
    by_cases empty : front = []
    · subst empty
      rw [Nat.ofDigitChars_nil, Nat.mul_zero, Nat.zero_add, single, List.nil_append]
    · rw [List.head?_append, Option.or_of_isSome (List.isSome_head?.mpr empty)] at leading
      have written := ih empty (fun c member => digits c (List.mem_append_left _ member)) leading
      -- Were the number in front zero, a zero would stand in front.
      have positive : 0 < Nat.ofDigitChars 10 front 0 := by
        rw [← written, ne_eq, head?_toDigits_eq_zero_iff] at leading
        exact Nat.pos_of_ne_zero leading
      rw [← Nat.toDigits_append_toDigits (by decide) positive small, written, single]

/-- What is below 256 is read as an octet. -/
theorem octet?_toDigits {n : Nat} (small : n < 256) : octet? (Nat.toDigits 10 n) = some n := by
  have short : (Nat.toDigits 10 n).length ≤ 3 :=
    (Nat.length_toDigits_le_iff (by decide) (by decide)).mpr (by omega)
  have leading : (Nat.toDigits 10 n).head? = some '0' → (Nat.toDigits 10 n).length = 1 := by
    intro zero
    rw [head?_toDigits_eq_zero_iff.mp zero]
    rfl
  simp only [octet?, Nat.ofDigitChars_ten_toDigits]
  exact if_pos ⟨Nat.toDigits_ne_nil, short, isDigit_toDigits n, leading, small⟩

theorem length_octets (bits : BitVec 32) : (octets bits).length = 4 := Positional.length_digits 256 4 _

theorem lt_of_mem_octets {bits : BitVec 32} {octet : Nat} (member : octet ∈ octets bits) :
    octet < 256 := Positional.lt_of_mem_digits (by decide) member

theorem value_octets (bits : BitVec 32) : Positional.value 256 (octets bits) = bits.toNat := by
  rw [octets, Positional.value_digits]
  exact Nat.mod_eq_of_lt bits.isLt

theorem splitOn_dotted (bits : BitVec 32) :
    (dotted bits).splitOn '.' = (octets bits).map (Nat.toDigits 10) := by
  have noDot : ∀ part ∈ (octets bits).map (Nat.toDigits 10), '.' ∉ part := by
    intro part member
    obtain ⟨octet, -, rfl⟩ := List.mem_map.mp member
    exact not_mem_toDigits rfl octet
  have nonempty : (octets bits).map (Nat.toDigits 10) ≠ [] := by
    rw [← List.length_pos_iff, List.length_map, length_octets]
    decide
  exact List.splitOn_intercalate '.' noDot nonempty

theorem octets?_dotted (bits : BitVec 32) : octets? (dotted bits) = some (octets bits) := by
  rw [octets?, splitOn_dotted, List.length_map, length_octets, if_pos rfl]
  exact mapM_map_eq_some fun octet member => octet?_toDigits (lt_of_mem_octets member)

/-- A short address is read as it is written. -/
theorem shortOfText?_dotted (bits : BitVec 32) : shortOfText? (dotted bits) = some bits := by
  rw [shortOfText?, octets?_dotted, Option.map_some, value_octets, BitVec.ofNat_toNat,
    BitVec.setWidth_eq]

/-- A short address is written in digits and dots. -/
theorem mem_dotted {bits : BitVec 32} {c : Char} (member : c ∈ dotted bits) :
    c = '.' ∨ c.isDigit = true := by
  apply (mem_of_mem_intercalate member).imp_right
  rintro ⟨piece, among, inside⟩
  obtain ⟨octet, -, rfl⟩ := List.mem_map.mp among
  exact Nat.isDigit_of_mem_toDigits (by decide) (by decide) inside

theorem dot_mem_dotted (bits : BitVec 32) : '.' ∈ dotted bits := by
  by_contra free
  have pieces := congrArg List.length (splitOn_dotted bits)
  rw [List.splitOn_eq_singleton free, List.length_map, length_octets] at pieces
  simp at pieces

/-- Four octets stand for two groups with the same value. -/
theorem exists_pairOctets (bits : BitVec 32) : ∃ high low, pairOctets (octets bits) = [high, low] ∧
    high * 65536 + low = bits.toNat := by
  have four := length_octets bits
  have value := value_octets bits
  match octets bits, four, value with
  | [first, second, third, fourth], _, value =>
    refine ⟨first * 256 + second, third * 256 + fourth, rfl, ?_⟩
    rw [← value]
    simp only [Positional.value, List.foldl_cons, List.foldl_nil]
    ring

theorem toNat_embed (bits : BitVec 32) : (embed bits).toNat = 65535 * 2 ^ 32 + bits.toNat := by
  rw [embed, BitVec.toNat_append, ← Nat.shiftLeft_add_eq_or_of_lt bits.isLt, Nat.shiftLeft_eq]
  rfl

/-- A text with a character that is no hexadecimal digit is no group. -/
theorem group?_eq_none {cs : List Char} {c : Char} (member : c ∈ cs) (other : hexDigit? c = none) :
    group? cs = none := by
  rw [group?, mapM_eq_none member other, Option.map_none, ite_self]

/-- Four octets are no group. -/
theorem group?_dotted (bits : BitVec 32) : group? (dotted bits) = none :=
  group?_eq_none (dot_mem_dotted bits) rfl

/-- A mapped address is read as the one that stands for its short part. -/
theorem longOfText?_mapped (bits : BitVec 32) :
    longOfText? ("::ffff:".toList ++ dotted bits) = some (embed bits) := by
  obtain ⟨high, low, pairs, value⟩ := exists_pairOctets bits
  have noColon : ':' ∉ dotted bits := by
    intro member
    rcases mem_dotted member with same | digit
    · exact absurd same (by decide)
    · exact absurd digit (by decide)
  have fields : colonFields ("ffff:".toList ++ dotted bits) = ["ffff".toList, dotted bits] := by
    rw [colonFields, if_neg (by simp)]
    -- The colon before the octets is the last one.
    change ("ffff".toList ++ ':' :: dotted bits).splitOn ':' = _
    rw [List.splitOn_append_cons_self_of_not_mem (by decide), List.splitOn_eq_singleton noColon]
  have back : readGroups true ["ffff".toList, dotted bits] = some [65535, high, low] := by
    have first : group? "ffff".toList = some 65535 := by decide
    simp only [readGroups, first, group?_dotted, octets?_dotted, Option.map_some, pairs, if_true]
    rfl
  have read : groups? ("::ffff:".toList ++ dotted bits) = some [0, 0, 0, 0, 0, 65535, high, low] := by
    have gap : splitAtGap ("::ffff:".toList ++ dotted bits) = some ([], "ffff:".toList ++ dotted bits) :=
      rfl
    rw [groups?, gap]
    simp only [fields, back]
    rfl
  rw [longOfText?, read, Option.map_some]
  apply congrArg some
  apply BitVec.eq_of_toNat_eq
  have total : Positional.value 65536 [0, 0, 0, 0, 0, 65535, high, low] = (embed bits).toNat := by
    rw [toNat_embed, ← value]
    simp only [Positional.value, List.foldl_cons, List.foldl_nil]
    ring
  rw [total, BitVec.toNat_ofNat, Nat.mod_eq_of_lt (embed bits).isLt]

end Address

end SenderPolicy

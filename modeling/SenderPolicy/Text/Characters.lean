/-! # Characters

Keywords, the version tag and the names of domains are compared without regard to the case of ASCII
letters: capitals are lowered one by one, and every other character stays as it is. A property that a
standard lists character by character is kept as closed ranges of code points in ascending order, so
that a look-up can stop at the first range that lies above its character.
-/

namespace SenderPolicy.Text

/-- Lowering twice is lowering once. -/
@[simp] theorem toLower_toLower (c : Char) : c.toLower.toLower = c.toLower := by
  delta Char.toLower
  split
  · split
    · next first second =>
      simp only [UInt32.le_iff_toNat_le, UInt32.toNat_add, seval] at first second
      omega
    · rfl
  · rfl

/-- The small form of a letter is a letter, and of another character it is none. -/
theorem isAlpha_toLower (c : Char) : c.toLower.isAlpha = c.isAlpha := by
  delta Char.toLower Char.isAlpha Char.isUpper Char.isLower
  split
  · next capital =>
    simp only [UInt32.le_iff_toNat_le, UInt32.toNat_add, seval] at capital ⊢
    have small : (c.val.toNat + 32) % 4294967296 = c.val.toNat + 32 := by omega
    simp only [small]
    grind
  · rfl

/-- A character that is no letter is its own small form. -/
theorem toLower_of_not_alpha {c : Char} (plain : c.isAlpha = false) : c.toLower = c := by
  delta Char.isAlpha Char.isUpper at plain
  rw [Bool.or_eq_false_iff] at plain
  delta Char.toLower
  rw [dif_neg]
  simpa using plain.1

theorem isAlphanum_toLower (c : Char) : c.toLower.isAlphanum = c.isAlphanum := by
  cases letter : c.isAlpha with
  | true =>
    rw [Char.isAlphanum, Char.isAlphanum, isAlpha_toLower, letter, Bool.true_or, Bool.true_or]
  | false => rw [toLower_of_not_alpha letter]

/-- Lowering neither makes nor takes away a character that is no letter. -/
theorem toLower_eq_iff_of_not_alpha {c mark : Char} (plain : mark.isAlpha = false) :
    c.toLower = mark ↔ c = mark := by
  constructor
  · rintro rfl
    rw [isAlpha_toLower] at plain
    exact (toLower_of_not_alpha plain).symm
  · rintro rfl
    exact toLower_of_not_alpha plain

/-- No range is empty, and each one starts above the end of the one before it. -/
def ascending : List (Nat × Nat) → Bool
  | [] => true
  | [(first, last)] => decide (first ≤ last)
  | (first, last) :: (next, limit) :: rest =>
      decide (first ≤ last) && decide (last < next) && ascending ((next, limit) :: rest)

/-- Closed ranges of code points in ascending order. -/
structure Ranges where
  list : List (Nat × Nat)
  ascending : ascending list = true

namespace Ranges

instance : Membership Nat Ranges where
  mem ranges point := ∃ range ∈ ranges.list, range.1 ≤ point ∧ point ≤ range.2

/-- Looks a code point up and stops at the first range above it. -/
def holds : List (Nat × Nat) → Nat → Bool
  | [], _ => false
  | (first, last) :: rest, point =>
      if point < first then false else decide (point ≤ last) || holds rest point

theorem ascending_tail {range : Nat × Nat} {rest : List (Nat × Nat)}
    (sorted : Text.ascending (range :: rest) = true) : Text.ascending rest = true := by
  cases rest with
  | nil => rfl
  | cons next more =>
    simp only [Text.ascending, Bool.and_eq_true] at sorted
    exact sorted.2

/-- All later ranges start above the first one's start. -/
theorem head_lt_of_mem {range other : Nat × Nat} {rest : List (Nat × Nat)}
    (sorted : Text.ascending (range :: rest) = true) (member : other ∈ rest) : range.1 < other.1 := by
  induction rest generalizing range with
  | nil => contradiction
  | cons next more ih =>
    have later := ascending_tail sorted
    simp only [Text.ascending, Bool.and_eq_true, decide_eq_true_eq] at sorted
    rcases List.mem_cons.mp member with rfl | below
    · omega
    · have step := ih later below
      omega

/-- In ascending order the look-up finds exactly the code points that some range holds. -/
theorem holds_iff {list : List (Nat × Nat)} {point : Nat} (sorted : Text.ascending list = true) :
    holds list point = true ↔ ∃ range ∈ list, range.1 ≤ point ∧ point ≤ range.2 := by
  induction list with
  | nil => simp [holds]
  | cons range rest ih =>
    rw [holds]
    split
    · next below =>
      refine ⟨fun found => by contradiction, ?_⟩
      rintro ⟨other, member, start, _⟩
      rcases List.mem_cons.mp member with rfl | later
      · omega
      · have above := head_lt_of_mem sorted later
        omega
    · next reached =>
      rw [Bool.or_eq_true, decide_eq_true_iff, ih (ascending_tail sorted)]
      constructor
      · rintro (inside | ⟨other, member, held⟩)
        · exact ⟨range, List.mem_cons_self .., by omega, inside⟩
        · exact ⟨other, List.mem_cons_of_mem _ member, held⟩
      · rintro ⟨other, member, held⟩
        rcases List.mem_cons.mp member with rfl | later
        · exact .inl held.2
        · exact .inr ⟨other, later, held⟩

instance (point : Nat) (ranges : Ranges) : Decidable (point ∈ ranges) :=
  decidable_of_iff (holds ranges.list point = true) (holds_iff ranges.ascending)

end Ranges

end SenderPolicy.Text

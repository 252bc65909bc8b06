import SenderPolicy.Text.Characters

/-! # Pieces of texts, and texts up to case

A text is cut at each separator, and is put together again from its pieces with the separator between
them. Two texts are equal up to case when they are the same in small ASCII letters. What is asked about a
character, if the answer does not hang on its case, is asked of a text without regard to case, and cuts at
a character that is no letter fall in the same places.
-/

namespace SenderPolicy

variable {separator c : Char} {pieces : List (List Char)} {whole first : List Char}

/-- What stands in a joined text is the separator or stands in a piece. -/
theorem mem_of_mem_intercalate (member : c ∈ [separator].intercalate pieces) :
    c = separator ∨ ∃ piece ∈ pieces, c ∈ piece := by
  induction pieces with
  | nil => cases member
  | cons first rest ih =>
    cases rest with
    | nil => exact .inr ⟨first, List.mem_cons_self, by simpa using member⟩
    | cons second others =>
      rw [List.intercalate_cons_cons, List.append_assoc, List.mem_append] at member
      rcases member with here | later
      · exact .inr ⟨first, List.mem_cons_self, here⟩
      · rcases List.mem_cons.mp later with same | later
        · exact .inl same
        · apply (ih later).imp_right
          rintro ⟨piece, among, inside⟩
          exact ⟨piece, List.mem_cons_of_mem _ among, inside⟩

theorem mem_of_mem_splitOn (separator : Char) (member : c ∈ whole) :
    c = separator ∨ ∃ piece ∈ whole.splitOn separator, c ∈ piece := by
  rw [← @List.intercalate_splitOn _ whole _ _ separator] at member
  exact mem_of_mem_intercalate member

/-- The first piece of a text holds no separator. It is the whole, or the other pieces are those of what
follows the first separator. -/
theorem splitOn_eq_cons {rest : List (List Char)} (pieces : whole.splitOn separator = first :: rest) :
    separator ∉ first ∧ (rest = [] ∧ whole = first ∨
      ∃ back, rest = back.splitOn separator ∧ whole = first ++ separator :: back) := by
  by_cases member : separator ∈ whole
  · obtain ⟨front, back, rfl, free⟩ := List.eq_append_cons_of_mem member
    rw [List.splitOn_append_cons_self_of_not_mem free] at pieces
    cases pieces
    exact ⟨free, .inr ⟨back, rfl, rfl⟩⟩
  · rw [List.splitOn_eq_singleton member] at pieces
    cases pieces
    exact ⟨member, .inl ⟨rfl, rfl⟩⟩

/-- Pieces that are read back one by one are read back together. -/
theorem mapM_map_eq_some {α β : Type} {write : β → α} {read : α → Option β} {values : List β}
    (back : ∀ value ∈ values, read (write value) = some value) :
    (values.map write).mapM read = some values := by
  induction values with
  | nil => rfl
  | cons first rest ih =>
    obtain ⟨here, others⟩ := List.forall_mem_cons.mp back
    rw [List.map_cons, List.mapM_cons, here, ih others]
    rfl

/-- A piece that cannot be read is enough. -/
theorem mapM_eq_none {α β : Type} {read : α → Option β} {values : List α} {value : α}
    (member : value ∈ values) (unread : read value = none) : values.mapM read = none := by
  induction values with
  | nil => cases member
  | cons first rest ih =>
    rw [List.mapM_cons]
    rcases List.mem_cons.mp member with rfl | later
    · rw [unread]
      rfl
    · rw [ih later]
      cases read first <;> rfl

end SenderPolicy

namespace SenderPolicy.Text

variable {β : Type}

def lowered (text : String) : String := String.ofList (text.toList.map Char.toLower)

@[simp] theorem toList_lowered (text : String) : (lowered text).toList = text.toList.map Char.toLower :=
  String.toList_ofList

theorem map_toLower_map_toLower (cs : List Char) : (cs.map Char.toLower).map Char.toLower = cs.map Char.toLower := by
  rw [List.map_map]
  exact List.map_congr_left fun c _ => toLower_toLower c

@[simp] theorem lowered_lowered (text : String) : lowered (lowered text) = lowered text := by
  rw [lowered, toList_lowered, map_toLower_map_toLower, lowered]

theorem lowered_ofList (cs : List Char) : lowered (String.ofList cs) = String.ofList (cs.map Char.toLower) := by
  rw [lowered, String.toList_ofList]

/-- Letters are among the first 128 characters. -/
theorem toNat_lt_of_isAlpha {c : Char} (letter : c.isAlpha = true) : c.toNat < 128 := by
  delta Char.isAlpha Char.isUpper Char.isLower at letter
  simp only [UInt32.le_iff_toNat_le, seval, Bool.or_eq_true, Bool.and_eq_true, decide_eq_true_eq] at letter
  change c.val.toNat < 128
  omega

/-- A function of characters that does not hang on case for the first 128 of them does so for none. -/
theorem apply_toLower_of_ascii {f : Char → β}
    (ascii : ∀ n < 128, f (Char.ofNat n).toLower = f (Char.ofNat n)) (c : Char) : f c.toLower = f c := by
  cases letter : c.isAlpha with
  | true =>
    have same := ascii c.toNat (toNat_lt_of_isAlpha letter)
    rwa [Char.ofNat_toNat] at same
  | false => rw [toLower_of_not_alpha letter]

theorem isDigit_toLower (c : Char) : c.toLower.isDigit = c.isDigit :=
  apply_toLower_of_ascii (by decide +kernel) c

/-- Digits have no case. -/
theorem toLower_of_isDigit {c : Char} (digit : c.isDigit = true) : c.toLower = c := by
  refine toLower_of_not_alpha ?_
  delta Char.isDigit at digit
  delta Char.isAlpha Char.isUpper Char.isLower
  simp only [UInt32.le_iff_toNat_le, seval, Bool.and_eq_true, decide_eq_true_eq, Bool.or_eq_false_iff,
    Bool.and_eq_false_iff, decide_eq_false_iff_not] at digit ⊢
  omega

theorem map_toLower_of_all_isDigit {cs : List Char} (digits : cs.all Char.isDigit = true) :
    cs.map Char.toLower = cs := by
  refine (List.map_congr_left fun c member => ?_).trans (List.map_id cs)
  exact toLower_of_isDigit (List.all_eq_true.mp digits c member)

/-- What holds of all characters of a text, in either case, holds in small letters. -/
theorem all_map_toLower {p : Char → Bool} (blind : ∀ c, p c.toLower = p c) (cs : List Char) :
    (cs.map Char.toLower).all p = cs.all p := by
  rw [List.all_map]
  exact congrArg cs.all (funext blind)

/-- A text is cut in the same places in small letters. -/
theorem splitOn_map_toLower {separator : Char} (plain : separator.isAlpha = false) (cs : List Char) :
    (cs.map Char.toLower).splitOn separator = (cs.splitOn separator).map (List.map Char.toLower) := by
  have blind (c : Char) : (c.toLower == separator) = (c == separator) := by
    rw [Bool.eq_iff_iff, beq_iff_eq, beq_iff_eq]
    exact toLower_eq_iff_of_not_alpha plain
  unfold List.splitOn
  induction cs with
  | nil => rfl
  | cons c rest ih =>
    rw [List.map_cons, List.splitOnP_cons_eq_if_modifyHead, List.splitOnP_cons_eq_if_modifyHead, blind, ih]
    split
    · rfl
    · cases List.splitOnP (· == separator) rest <;> rfl

end SenderPolicy.Text

import SenderPolicy.Proofs.Address.Reader
import SenderPolicy.Proofs.Term.Agreement
import SenderPolicy.Text.Characters

/-! # The parts of a term

A term is put together from the mark of its qualifier, a word, a target and lengths. Where the word is that of
a keyword, the parts can be read off the term again, so no term is put together in two ways.
-/

namespace SenderPolicy

theorem Qualifier.isSome_ofChar?_iff {c : Char} :
    (Qualifier.ofChar? c).isSome = true ↔ c ∈ ['+', '-', '~', '?'] := by
  unfold Qualifier.ofChar?
  split
  · decide
  · decide
  · decide
  · decide
  · next plus minus tilde question =>
    simp only [Option.isSome_none, Bool.false_eq_true, List.mem_cons, List.not_mem_nil, or_false,
      false_iff, not_or]
    exact ⟨plus, minus, tilde, question⟩

namespace Term

/-- What a term is put together from: a mark, a word, a target behind a colon, and lengths in decimal, each
behind a slash. -/
@[ext]
structure Parts where
  mark : Option Char
  word : List Char
  target : Option (List Char)
  lengths : List Nat
deriving DecidableEq, Repr

/-- A word, and behind a colon a target if there is one. -/
def withTarget (word : List Char) : Option (List Char) → List Char
  | none => word
  | some target => word ++ ':' :: target

namespace Parts

def head (parts : Parts) : List Char := withTarget parts.word parts.target

def tail (parts : Parts) : List Char := parts.lengths.flatMap fun n => '/' :: Nat.toDigits 10 n

def text (parts : Parts) : String := String.ofList (parts.mark.toList ++ (parts.head ++ parts.tail))

/-- What the mark stands for. Without a mark, a match passes. -/
def qualifier (parts : Parts) : Qualifier := (parts.mark.bind Qualifier.ofChar?).getD .pass

/-- The mark and the word are those of a term with a keyword, and no slash divides the target. -/
structure Legible (parts : Parts) : Prop where
  mark : ∀ c ∈ parts.mark, c ∈ ['+', '-', '~', '?']
  word : ∃ keyword, Keyword.ofWord? (parts.word.map Char.toLower) = some keyword
  target : ∀ target ∈ parts.target, '/' ∉ target

end Parts

/-- A mark is taken off and read as the qualifier. -/
theorem body_of_mark {term : String} {c : Char} {rest : List Char} (spelled : term.toList = c :: rest)
    (mark : c ∈ ['+', '-', '~', '?']) :
    body term = rest ∧ qualifier term = (Qualifier.ofChar? c).getD .pass := by
  rw [body, qualifier, Qualifier.decode, spelled]
  exact ⟨if_pos (Qualifier.isSome_ofChar?_iff.mpr mark), rfl⟩

/-- A term that starts with no mark stays whole, and a match of it passes. -/
theorem body_of_no_mark {term : String} {c : Char} {rest : List Char} (spelled : term.toList = c :: rest)
    (plain : c ∉ ['+', '-', '~', '?']) : body term = c :: rest ∧ qualifier term = .pass := by
  have unmarked : Qualifier.ofChar? c = none := by
    rw [← Option.not_isSome_iff_eq_none, Qualifier.isSome_ofChar?_iff]
    exact plain
  rw [body, qualifier, Qualifier.decode, spelled]
  simp [unmarked]

/-- Every term is its body, behind a mark or not. -/
theorem exists_mark (term : String) : ∃ mark : Option Char, (∀ c ∈ mark, c ∈ ['+', '-', '~', '?']) ∧
    term.toList = mark.toList ++ body term := by
  cases spelled : term.toList with
  | nil => exact ⟨none, nofun, by simp [body, spelled]⟩
  | cons c rest =>
    by_cases mark : c ∈ ['+', '-', '~', '?']
    · refine ⟨some c, fun given same => ?_, ?_⟩
      · obtain rfl := Option.mem_some_iff.mp same
        exact mark
      · rw [(body_of_mark spelled mark).1]
        rfl
    · exact ⟨none, nofun, (body_of_no_mark spelled mark).1.symm⟩

section Word

variable {letters : List Char} {keyword : Keyword}

/-- The words of keywords are made of letters and digits in any case. -/
theorem isAlphanum_of_mem_letters (named : Keyword.ofWord? (letters.map Char.toLower) = some keyword) {c : Char}
    (member : c ∈ letters) : c.isAlphanum = true := by
  rw [← Text.isAlphanum_toLower]
  exact (isAlphanum_of_ofWord? named).2 _ (List.mem_map_of_mem member)

theorem not_mem_letters (named : Keyword.ofWord? (letters.map Char.toLower) = some keyword) {c : Char}
    (other : c.isAlphanum = false) : c ∉ letters := by
  intro member
  rw [isAlphanum_of_mem_letters named member] at other
  cases other

/-- A word starts with a letter, and no letter is a mark. -/
theorem exists_letters_eq_cons (named : Keyword.ofWord? (letters.map Char.toLower) = some keyword) :
    ∃ c rest, letters = c :: rest ∧ c ∉ ['+', '-', '~', '?'] := by
  have filled : letters ≠ [] := fun empty => (isAlphanum_of_ofWord? named).1 (by rw [empty]; rfl)
  obtain ⟨c, rest, rfl⟩ := List.exists_cons_of_ne_nil filled
  have marks : (['+', '-', '~', '?'].all fun mark => !mark.isAlphanum) = true := by decide
  refine ⟨c, rest, rfl, fun mark => ?_⟩
  have other := List.all_eq_true.mp marks c mark
  rw [isAlphanum_of_mem_letters named List.mem_cons_self] at other
  cases other

end Word

/-- Every head is a word with the target that it names. -/
theorem exists_eq_withTarget (head : List Char) :
    ∃ word, ':' ∉ word ∧ head = withTarget word (target? head) := by
  cases found : target? head with
  | some target =>
    obtain ⟨front, free, whole⟩ := target?_eq_some_iff.mp found
    exact ⟨front, free, whole⟩
  | none =>
    refine ⟨head, fun colon => ?_, rfl⟩
    obtain ⟨front, target, whole, free⟩ := List.eq_append_cons_of_mem colon
    rw [target?_eq_some_iff.mpr ⟨front, free, whole⟩] at found
    cases found

theorem target?_withTarget {word : List Char} (free : ':' ∉ word) (target : Option (List Char)) :
    target? (withTarget word target) = target := by
  cases target with
  | some target => exact target?_eq_some_iff.mpr ⟨word, free, rfl⟩
  | none =>
    refine Option.eq_none_iff_forall_ne_some.mpr fun target found => ?_
    obtain ⟨front, -, whole⟩ := target?_eq_some_iff.mp found
    change word = front ++ ':' :: target at whole
    exact free (by rw [whole]; simp)

theorem withTarget_inj {left right : List Char} {target : Option (List Char)} :
    withTarget left target = withTarget right target ↔ left = right := by
  cases target with
  | none => rfl
  | some target => exact List.append_left_inj (':' :: target)

theorem word_withTarget {word : List Char} (noColon : ':' ∉ word) (noSlash : '/' ∉ word)
    (target : Option (List Char)) : Term.word (withTarget word target) = word.map Char.toLower := by
  cases target with
  | none => exact word_eq_map_toLower noColon noSlash
  | some target => exact (word_append_delimiter rfl word target).trans (word_eq_map_toLower noColon noSlash)

/-- Slashes cut a text into its front and the digits of each length. -/
theorem splitOn_append_lengths {front : List Char} (free : '/' ∉ front) (lengths : List Nat) :
    (front ++ lengths.flatMap fun n => '/' :: Nat.toDigits 10 n).splitOn '/' =
      front :: lengths.map (Nat.toDigits 10) := by
  induction lengths generalizing front with
  | nil => rw [List.flatMap_nil, List.append_nil, List.splitOn_eq_singleton free, List.map_nil]
  | cons n rest ih =>
    rw [List.flatMap_cons, List.cons_append, List.splitOn_append_cons_self_of_not_mem free,
      ih (Address.not_mem_toDigits rfl n), List.map_cons]

/-- The text of a length is the decimal of a number from 1 to 999. -/
theorem isLength_iff {cs : List Char} :
    isLength cs = true ↔ ∃ n, 1 ≤ n ∧ n < 1000 ∧ cs = Nat.toDigits 10 n := by
  simp only [isLength, Bool.and_eq_true, Bool.not_eq_true', List.isEmpty_eq_false_iff,
    decide_eq_true_eq, List.all_eq_true]
  constructor
  · rintro ⟨⟨⟨filled, short⟩, digits⟩, leading⟩
    have written := Address.toDigits_ofDigitChars filled digits leading
    refine ⟨Nat.ofDigitChars 10 cs 0, ?_, ?_, written.symm⟩
    · rw [← written, ne_eq, Address.head?_toDigits_eq_zero_iff] at leading
      exact Nat.pos_of_ne_zero leading
    · rw [← written] at short
      exact (Nat.length_toDigits_le_iff (by decide) (by decide)).mp short
  · rintro ⟨n, positive, small, rfl⟩
    refine ⟨⟨⟨Nat.toDigits_ne_nil, ?_⟩, ?_⟩, ?_⟩
    · exact (Nat.length_toDigits_le_iff (by decide) (by decide)).mpr small
    · exact List.all_eq_true.mp (Address.isDigit_toDigits n)
    · rw [ne_eq, Address.head?_toDigits_eq_zero_iff]
      exact Nat.ne_of_gt positive

/-- So are the texts of lengths, one by one. -/
theorem all_isLength_iff {pieces : List (List Char)} :
    pieces.all isLength = true ↔
      ∃ lengths : List Nat, pieces = lengths.map (Nat.toDigits 10) ∧ ∀ n ∈ lengths, 1 ≤ n ∧ n < 1000 := by
  induction pieces with
  | nil => exact iff_of_true rfl ⟨[], rfl, nofun⟩
  | cons first rest ih =>
    rw [List.all_cons, Bool.and_eq_true, isLength_iff, ih]
    constructor
    · rintro ⟨⟨n, positive, small, rfl⟩, lengths, rfl, range⟩
      exact ⟨n :: lengths, rfl, List.forall_mem_cons.mpr ⟨⟨positive, small⟩, range⟩⟩
    · rintro ⟨lengths, written, range⟩
      obtain ⟨n, lengths, rfl, rfl, rfl⟩ := List.map_eq_cons_iff.mp written.symm
      obtain ⟨⟨positive, small⟩, others⟩ := List.forall_mem_cons.mp range
      exact ⟨⟨n, positive, small, rfl⟩, lengths, rfl, others⟩

/-- A length is read from its decimal. Without one, all bits of the version count. -/
theorem readLength_map_toDigits {term : String} {version : Version} {n? : Option Nat} {length : Nat} :
    readLength term version (n?.map (Nat.toDigits 10)) = .ok length ↔
      length = n?.getD version.width ∧ ∀ n ∈ n?, 1 ≤ n ∧ n ≤ version.width := by
  rw [readLength_eq_ok_iff]
  cases n? with
  | none =>
    have positive : 1 ≤ version.width := by cases version <;> decide
    refine and_congr_right ?_
    rintro rfl
    exact iff_of_true ⟨positive, le_rfl⟩ nofun
  | some n =>
    simp only [statedLength, Option.map_some, Option.getD_some, Nat.ofDigitChars_ten_toDigits,
      Option.mem_some_iff, forall_eq']
    refine and_congr_right ?_
    rintro rfl
    rfl

theorem map_toDigits_inj {left right : List Nat} :
    left.map (Nat.toDigits 10) = right.map (Nat.toDigits 10) ↔ left = right := by
  refine List.map_inj_right fun n m same => ?_
  rw [← @Nat.ofDigitChars_ten_toDigits n, same, Nat.ofDigitChars_ten_toDigits]

namespace Parts

namespace Legible

variable {parts other : Parts}

theorem not_mem_word (legible : parts.Legible) {c : Char} (delimits : c.isAlphanum = false) :
    c ∉ parts.word := by
  obtain ⟨keyword, named⟩ := legible.word
  exact not_mem_letters named delimits

theorem slash_not_mem_head (legible : parts.Legible) : '/' ∉ parts.head := by
  have word : '/' ∉ parts.word := legible.not_mem_word rfl
  unfold head
  cases given : parts.target with
  | none => exact word
  | some target => simp [withTarget, word, legible.target target given]

/-- The head starts as the word does. -/
theorem exists_head_eq_cons (legible : parts.Legible) :
    ∃ c rest, parts.head = c :: rest ∧ c ∉ ['+', '-', '~', '?'] := by
  obtain ⟨keyword, named⟩ := legible.word
  obtain ⟨c, rest, word, plain⟩ := exists_letters_eq_cons named
  rw [head, word]
  cases parts.target with
  | none => exact ⟨c, rest, rfl, plain⟩
  | some target => exact ⟨c, _, rfl, plain⟩

/-- What follows the mark is the body, and the mark is read as the qualifier. -/
theorem body_text (legible : parts.Legible) :
    body parts.text = parts.head ++ parts.tail ∧ Term.qualifier parts.text = parts.qualifier := by
  cases given : parts.mark with
  | some c =>
    have spelled : parts.text.toList = c :: (parts.head ++ parts.tail) := by simp [text, given]
    obtain ⟨body, qualifier⟩ := body_of_mark spelled (legible.mark c given)
    exact ⟨body, by rw [qualifier, Parts.qualifier, given]; rfl⟩
  | none =>
    obtain ⟨c, rest, head, plain⟩ := legible.exists_head_eq_cons
    have spelled : parts.text.toList = c :: (rest ++ parts.tail) := by simp [text, given, head]
    obtain ⟨body, qualifier⟩ := body_of_no_mark spelled plain
    exact ⟨by rw [body, head]; rfl, by rw [qualifier, Parts.qualifier, given]; rfl⟩

theorem sections_text (legible : parts.Legible) :
    sections parts.text = parts.head :: parts.lengths.map (Nat.toDigits 10) := by
  rw [sections, legible.body_text.1, tail, splitOn_append_lengths legible.slash_not_mem_head]

theorem target?_head (legible : parts.Legible) : target? parts.head = parts.target :=
  target?_withTarget (legible.not_mem_word rfl) parts.target

theorem word_head (legible : parts.Legible) : Term.word parts.head = parts.word.map Char.toLower :=
  word_withTarget (legible.not_mem_word rfl) (legible.not_mem_word rfl) parts.target

/-- No term is put together in two ways. -/
theorem eq_of_text_eq (legible : parts.Legible) (other_legible : other.Legible)
    (same : parts.text = other.text) : parts = other := by
  have pieces := legible.sections_text
  rw [same, other_legible.sections_text, List.cons.injEq, map_toDigits_inj] at pieces
  obtain ⟨head, lengths⟩ := pieces
  have target : parts.target = other.target := by
    rw [← legible.target?_head, ← head, other_legible.target?_head]
  have word : parts.word = other.word := by
    rw [Parts.head, Parts.head, target, withTarget_inj] at head
    exact head.symm
  have mark : parts.mark = other.mark := by
    have whole := congrArg String.toList same
    rw [text, text, String.toList_ofList, String.toList_ofList, Parts.tail, Parts.tail, ← head,
      lengths] at whole
    simpa using congrArg List.head? (List.append_cancel_right whole)
  exact Parts.ext mark word target lengths.symm

end Legible

/-- A term is put together from its parts if its lengths are written as such and its word is that of a
keyword. -/
theorem exists_of_sections {term : String} {head : List Char} {digits : List (List Char)}
    (pieces : sections term = head :: digits) (written : digits.all isLength = true) {keyword : Keyword}
    (named : Keyword.ofWord? (Term.word head) = some keyword) :
    ∃ parts : Parts, parts.Legible ∧ parts.text = term ∧ parts.head = head ∧
      parts.lengths.map (Nat.toDigits 10) = digits ∧ ∀ n ∈ parts.lengths, 1 ≤ n ∧ n < 1000 := by
  obtain ⟨mark, marks, whole⟩ := exists_mark term
  obtain ⟨lengths, rfl, range⟩ := all_isLength_iff.mp written
  obtain ⟨noSlash, -⟩ := splitOn_eq_cons pieces
  have joined : body term = head ++ lengths.flatMap fun n => '/' :: Nat.toDigits 10 n := by
    change (body term).splitOn '/' = _ at pieces
    rw [← splitOn_append_lengths noSlash lengths] at pieces
    rw [← @List.intercalate_splitOn _ (body term) _ _ '/', pieces, List.intercalate_splitOn]
  obtain ⟨word, noColon, head_eq⟩ := exists_eq_withTarget head
  refine ⟨⟨mark, word, target? head, lengths⟩, ⟨marks, ⟨keyword, ?_⟩, ?_⟩, ?_, head_eq.symm, rfl, range⟩
  · have noSlash : '/' ∉ word := by
      intro member
      apply noSlash
      rw [head_eq]
      cases target? head <;> simp [withTarget, member]
    rw [head_eq, word_withTarget noColon noSlash] at named
    exact named
  · intro target found member
    obtain ⟨front, -, rfl⟩ := target?_eq_some_iff.mp found
    exact noSlash (by simp [member])
  · rw [text, Parts.head, ← head_eq, tail, ← joined, ← whole, String.ofList_toList]

end Parts

end Term

end SenderPolicy

import SenderPolicy.Proofs.Policy.Statement
import SenderPolicy.Proofs.Record.Life
import SenderPolicy.Proofs.Term.Parts

/-! # Terms that are kept

A term spells a keyword by a word of it, behind a mark or not, with a tail that is empty or starts with a colon or
a slash. Such a term is not passed over for what stands in its tail: if the record is read at all, the term states
a directive at its place among those of the other terms. A line feed in the tail is the exception. It hides the
keyword, and the term is skipped without a trace.
-/

namespace SenderPolicy

namespace Term

/-- A term cut behind its mark, if it has one, and before its tail. -/
structure Spelling where
  mark : Option Char
  letters : List Char
  tail : List Char
deriving DecidableEq, Repr

namespace Spelling

def text (spelling : Spelling) : String :=
  String.ofList (spelling.mark.toList ++ (spelling.letters ++ spelling.tail))

/-- The mark is that of a qualifier, the letters are a word of the keyword, in any case, and the tail is set off
from them. -/
structure Names (spelling : Spelling) (keyword : Keyword) : Prop where
  mark : ∀ c ∈ spelling.mark, c ∈ ['+', '-', '~', '?']
  letters : (spelling.letters.map Char.toLower, keyword) ∈ Keyword.words
  tail : ∀ c ∈ spelling.tail.head?, c ∈ [':', '/']

end Spelling

/-- No word names two keywords. -/
theorem ofWord?_eq_some_iff {letters : List Char} {keyword : Keyword} :
    Keyword.ofWord? letters = some keyword ↔ (letters, keyword) ∈ Keyword.words := by
  have single : ∀ entry ∈ Keyword.words, Keyword.ofWord? entry.1 = some entry.2 := by decide
  exact ⟨mem_words_of_ofWord?, single _⟩

theorem isDelimiter_iff {c : Char} : isDelimiter c = true ↔ c ∈ [':', '/'] := by
  simp [isDelimiter]

namespace Spelling.Names

variable {spelling : Spelling} {keyword : Keyword}

theorem ofWord?_letters (names : spelling.Names keyword) :
    Keyword.ofWord? (spelling.letters.map Char.toLower) = some keyword :=
  ofWord?_eq_some_iff.mpr names.letters

theorem not_mem_letters (names : spelling.Names keyword) {c : Char} (other : c.isAlphanum = false) :
    c ∉ spelling.letters :=
  Term.not_mem_letters names.ofWord?_letters other

/-- The body of the term starts with the letters, which no mark hides. -/
theorem body_text (names : spelling.Names keyword) : body spelling.text = spelling.letters ++ spelling.tail := by
  cases given : spelling.mark with
  | some c =>
    have spelled : spelling.text.toList = c :: (spelling.letters ++ spelling.tail) := by simp [text, given]
    exact (body_of_mark spelled (names.mark c given)).1
  | none =>
    obtain ⟨c, rest, letters, plain⟩ := exists_letters_eq_cons names.ofWord?_letters
    have spelled : spelling.text.toList = c :: (rest ++ spelling.tail) := by simp [text, given, letters]
    rw [(body_of_no_mark spelled plain).1, letters]
    rfl

/-- The tail does not belong to the word, whatever stands in it. -/
theorem word_body (names : spelling.Names keyword) :
    word (spelling.letters ++ spelling.tail) = spelling.letters.map Char.toLower := by
  have plain : word spelling.letters = spelling.letters.map Char.toLower :=
    word_eq_map_toLower (names.not_mem_letters rfl) (names.not_mem_letters rfl)
  cases given : spelling.tail with
  | nil => rw [List.append_nil, plain]
  | cons c rest =>
    have delimiter : isDelimiter c = true := isDelimiter_iff.mpr (names.tail c (by rw [given]; rfl))
    rw [word_append_delimiter delimiter, plain]

/-- A term has the keyword that it spells unless there is a line feed in its tail, and then it has none. -/
theorem keyword?_text (names : spelling.Names keyword) :
    keyword? spelling.text = if '\n' ∈ spelling.tail then none else some keyword := by
  have feed : '\n' ∈ body spelling.text ↔ '\n' ∈ spelling.tail := by
    rw [names.body_text, List.mem_append, or_iff_right (names.not_mem_letters rfl)]
  rw [keyword?, names.body_text, names.word_body, names.ofWord?_letters, ← names.body_text]
  simp only [feed]

end Spelling.Names

end Term

def PolicyText.withKeyword (terms : List String) : List String :=
  terms.filter fun term => (Term.keyword? term).isSome

namespace Directive

variable {zone : Zone} {options : Options} {nested : String → Inquiry Policy} {domain term : String}
  {path : IncludePath} {directives : List Directive} {before after : List String} {queries : List Query}

/-- Around the place of a term stand the directives of the terms before and after it. At the place is one of its
keyword, or none if it has none. -/
theorem BuiltAll.exists_place
    (built : BuiltAll zone options nested domain path (before ++ term :: after) directives queries) :
    ∃ (left right : List Directive) (here : Option Directive), directives = left ++ here.toList ++ right ∧
      left.map (·.text) = PolicyText.withKeyword before ∧ right.map (·.text) = PolicyText.withKeyword after ∧
      here.map (·.mechanism.keyword) = Term.keyword? term ∧ ∀ directive ∈ here, directive.text = term := by
  obtain ⟨left, others, asked, more, rfl, -, first, second⟩ := built.exists_append
  cases second with
  | @cons _ _ here right _ _ stated rest =>
    refine ⟨left, right, here, (List.append_assoc ..).symm, first.texts, rest.texts, stated.map_keyword, ?_⟩
    rintro directive same
    obtain rfl := Option.mem_def.mp same
    exact stated.stated.1

end Directive

namespace Record

variable {spelling : Term.Spelling} {keyword : Keyword} {before after : List String}

/-- A record with a term that spells a keyword is not read, or the directives of the terms before this term and of
those after it stand on both sides of one directive, which the term states with its keyword. Between them is no
directive exactly if a line feed stands in the tail of the term. -/
theorem parse_keeps_spelled (zone : Zone) (options : Options) (record : Record) (names : spelling.Names keyword)
    (stands : PolicyText.terms record.raw = before ++ spelling.text :: after) :
    (∃ error, (record.parse zone options).report.outcome = .failed error) ∨
    (record.parse zone options).report.outcome = .unending ∨
    ∃ left right : List Directive,
      left.map (·.text) = PolicyText.withKeyword before ∧ right.map (·.text) = PolicyText.withKeyword after ∧
      ('\n' ∉ spelling.tail → ∃ directive : Directive, directive.text = spelling.text ∧
        directive.mechanism.keyword = keyword ∧
        (record.parse zone options).record.directives? = some (left ++ directive :: right)) ∧
      ('\n' ∈ spelling.tail → (record.parse zone options).record.directives? = some (left ++ right)) := by
  cases ended : (record.parse zone options).report.outcome with
  | failed error => exact .inl ⟨error, rfl⟩
  | unending => exact .inr (.inl rfl)
  | done value =>
    right; right
    obtain ⟨directives, read⟩ := parse_outcome_eq_done_iff.mp ended
    obtain ⟨-, room, built⟩ := builtAll_of_parse read
    rw [stands] at built
    obtain ⟨left, right, here, rfl, earlier, later, same, text⟩ := built.exists_place
    refine ⟨left, right, earlier, later, fun noFeed => ?_, fun feed => ?_⟩
    · rw [names.keyword?_text, if_neg noFeed] at same
      obtain ⟨directive, rfl, known⟩ := Option.map_eq_some_iff.mp same
      refine ⟨directive, text directive rfl, known, ?_⟩
      rw [read, List.append_assoc]
      rfl
    · rw [names.keyword?_text, if_pos feed, Option.map_eq_none_iff] at same
      rw [read, same, Option.toList_none, List.append_nil]

/-- Spells the mail hosts of the domain itself, with a mark and in mixed case. -/
def mailSpelling : Term.Spelling := ⟨some '-', "mX".toList, "/24".toList⟩

/-- Spells a network, and ends in a line feed. -/
def feedSpelling : Term.Spelling := ⟨some '-', "ip4".toList, ":10.0.0.0/8\n".toList⟩

/-- A record of which a rule against a network ends in a line feed. -/
def feedRecord : Record := ⟨"a", "v=spf1 -ip4:10.0.0.0/8\n +all", none⟩

theorem names_feedSpelling : feedSpelling.Names .ip where
  mark c given := by cases given; decide
  letters := by decide
  tail c given := by cases given; decide

/-- Behind a term that is skipped, the directive of a term has its place before that of the next. The rule that ends
in a line feed leaves no directive before the next. -/
theorem parse_keeps_spelled_mixed :
    (∃ directive right, directive.text = "-mX/24" ∧ directive.mechanism.keyword = .host .mx ∧
      right.map (·.text) = ["~all"] ∧
      ((Record.mk "a" "v=spf1 x -mX/24 ~all" none).parse {} {}).record.directives? = some (directive :: right)) ∧
    ∃ right : List Directive, right.map (·.text) = ["+all"] ∧
      (feedRecord.parse {} {}).record.directives? = some right := by
  have mail : mailSpelling.Names (.host .mx) := {
    mark c given := by cases given; decide
    letters := by decide
    tail c given := by cases given; decide }
  have read : ((Record.mk "a" "v=spf1 x -mX/24 ~all" none).parse {} {}).report.outcome = .done () := by
    decide +kernel
  have feedRead : (feedRecord.parse {} {}).report.outcome = .done () := by decide +kernel
  constructor
  · rcases parse_keeps_spelled {} {} (Record.mk "a" "v=spf1 x -mX/24 ~all" none) mail
      (by decide +kernel : _ = ["x"] ++ mailSpelling.text :: ["~all"]) with
      ⟨error, failed⟩ | unending | ⟨left, right, earlier, later, kept, -⟩
    · rw [read] at failed
      cases failed
    · rw [read] at unending
      cases unending
    · obtain ⟨directive, text, keyword, directives⟩ := kept (by decide)
      have skipped : PolicyText.withKeyword ["x"] = [] := by decide
      have known : PolicyText.withKeyword ["~all"] = ["~all"] := by decide
      rw [skipped, List.map_eq_nil_iff] at earlier
      rw [known] at later
      subst earlier
      exact ⟨directive, right, text.trans (by decide +kernel), keyword, later, directives⟩
  · rcases parse_keeps_spelled {} {} feedRecord names_feedSpelling
      (by decide +kernel : _ = [] ++ feedSpelling.text :: ["+all"]) with
      ⟨error, failed⟩ | unending | ⟨left, right, earlier, later, -, lost⟩
    · rw [feedRead] at failed
      cases failed
    · rw [feedRead] at unending
      cases unending
    · have known : PolicyText.withKeyword ["+all"] = ["+all"] := by decide
      obtain rfl : left = [] := List.map_eq_nil_iff.mp earlier
      exact ⟨right, later.trans known, lost (by decide)⟩

/-- Not every term that spells a keyword is kept where a record is read. -/
theorem spelled_overlooked :
    ¬∀ (zone : Zone) (options : Options) (record : Record) (spelling : Term.Spelling) (keyword : Keyword)
      (before after : List String), options.strict = false → spelling.Names keyword →
      PolicyText.terms record.raw = before ++ spelling.text :: after →
      (record.parse zone options).report.outcome = .done () →
      ∃ directives, (record.parse zone options).record.directives? = some directives ∧
        ∃ directive ∈ directives, directive.text = spelling.text := by
  intro law
  have read : (feedRecord.parse {} {}).record.directives? = some [⟨.pass, "+all", .all⟩] := by decide +kernel
  obtain ⟨directives, found, directive, member, text⟩ := law {} {} feedRecord feedSpelling .ip [] ["+all"] rfl
    names_feedSpelling (by decide +kernel) (by decide +kernel)
  rw [read, Option.some.injEq] at found
  subst found
  obtain rfl := List.mem_singleton.mp member
  revert text
  decide +kernel

end Record

end SenderPolicy

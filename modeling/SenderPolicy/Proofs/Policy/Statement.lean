import SenderPolicy.Proofs.Policy.Built

/-! # What a text states

A text that is a policy starts with the version tag, and each later term with a keyword states one
directive. The directives that a text is built into stand in the order of its terms, a term that is
repeated states its directive again, and each has the keyword and the qualifier of its own term. Each term
follows after a space, and more spaces may stand anywhere behind the tag. However many there are, the
terms of the text are the ones stated.
-/

namespace SenderPolicy

namespace PolicyText

theorem space_not_mem_tag {letters : List Char} (tag : letters.map Char.toLower = versionTag.toList) :
    ' ' ∉ letters := by
  intro member
  have lowered : ' ' ∈ letters.map Char.toLower := List.mem_map.mpr ⟨' ', member, by decide⟩
  rw [tag] at lowered
  exact absurd lowered (by decide)

/-- The first term of a text that is a policy is the version tag, in any case. -/
theorem exists_tag {raw : String} (policy : isPolicy raw = true) :
    ∃ tag rest, raw.toList.splitOn ' ' = tag :: rest ∧
      tag.map Char.toLower = versionTag.toList := by
  simp only [isPolicy, Bool.or_eq_true, beq_iff_eq, List.isPrefixOf_iff_prefix] at policy
  rcases policy with whole | ⟨after, starts⟩
  · exact ⟨_, [], List.splitOn_eq_singleton (space_not_mem_tag whole), whole⟩
  · rw [List.append_assoc] at starts
    obtain ⟨tag, others, parts, tag_eq, others_eq⟩ := List.map_eq_append_iff.mp starts.symm
    obtain ⟨c, back, rfl, lowered, -⟩ := List.map_eq_cons_iff.mp others_eq
    obtain rfl : c = ' ' := (Text.toLower_eq_iff_of_not_alpha (by decide)).mp lowered
    rw [parts, List.splitOn_append_cons_self_of_not_mem (space_not_mem_tag tag_eq)]
    exact ⟨tag, _, rfl, tag_eq⟩

end PolicyText

/-- The directives of a policy are what its text states. -/
structure Policy.TrueToText (policy : Policy) : Prop where
  isPolicy : PolicyText.isPolicy policy.raw = true
  /-- The first term is the version tag. -/
  tag : ∃ tag rest, policy.raw.toList.splitOn ' ' = tag :: rest ∧
    tag.map Char.toLower = PolicyText.versionTag.toList
  /-- The other terms state a directive each, in order, unless they have no keyword. -/
  texts : policy.directives.map (·.text) =
    (PolicyText.terms policy.raw).filter fun term => (Term.keyword? term).isSome
  keyword : ∀ directive ∈ policy.directives,
    Term.keyword? directive.text = some directive.mechanism.keyword
  qualifier : ∀ directive ∈ policy.directives, directive.qualifier = Qualifier.decode directive.text

namespace Directive

variable {zone : Zone} {options : Options} {nested : String → Inquiry Policy} {domain : String}
  {path : IncludePath} {directives : List Directive} {terms : List String} {queries : List Query}

/-- Every term with a keyword gives its text to one directive. -/
theorem BuiltAll.texts (built : BuiltAll zone options nested domain path terms directives queries) :
    directives.map (·.text) = terms.filter fun term => (Term.keyword? term).isSome := by
  induction built with
  | nil => rfl
  | @cons term rest first others _ _ here after ih =>
    rw [List.map_append, ih]
    cases first with
    | none =>
      have unknown := here.of_skipped.1
      rw [List.filter_cons_of_neg (by simp [unknown])]
      rfl
    | some directive =>
      obtain ⟨text, keyword, -⟩ := here.stated
      rw [List.filter_cons_of_pos (by simp [keyword]), ← text]
      rfl

/-- A text that is a policy is built into the directives that it states. -/
theorem BuiltAll.trueToText {name raw : String} (policy : PolicyText.isPolicy raw = true)
    (built : BuiltAll zone options nested domain path (PolicyText.terms raw) directives queries) :
    Policy.TrueToText ⟨name, raw, directives⟩ where
  isPolicy := policy
  tag := PolicyText.exists_tag policy
  texts := built.texts
  keyword directive member := by
    obtain ⟨term, -, asked, here⟩ := built.exists_term member
    obtain ⟨text, keyword, -⟩ := here.stated
    rw [text, keyword]
  qualifier directive member := by
    obtain ⟨term, -, asked, here⟩ := built.exists_term member
    obtain ⟨text, -, qualifier⟩ := here.stated
    rw [text, qualifier]
    rfl

end Directive

namespace PolicyText

/-- A text that can be a term: it is not empty, and no space would take it apart. -/
structure IsTerm (term : String) : Prop where
  ne_empty : term ≠ ""
  space_not_mem : ' ' ∉ term.toList

instance (term : String) : Decidable (IsTerm term) :=
  decidable_of_iff (term ≠ "" ∧ ' ' ∉ term.toList)
    ⟨fun ⟨filled, whole⟩ => ⟨filled, whole⟩, fun isTerm => ⟨isTerm.ne_empty, isTerm.space_not_mem⟩⟩

/-- What may stand behind the version tag: each term after a space, and more spaces anywhere around. -/
inductive Spaced : List String → List Char → Prop where
  | nil : Spaced [] []
  | space {terms : List String} {chars : List Char} (after : Spaced terms chars) :
      Spaced terms (' ' :: chars)
  | term {term : String} {terms : List String} {chars : List Char} (isTerm : IsTerm term)
      (after : Spaced terms chars) : Spaced (term :: terms) (' ' :: (term.toList ++ chars))

/-- A text is the version tag, in any case, and states these terms behind it. -/
structure States (raw : String) (terms : List String) : Prop where
  exists_tag : ∃ tag chars, raw.toList = tag ++ chars ∧
    tag.map Char.toLower = versionTag.toList ∧ Spaced terms chars

/-- The text that states terms with single spaces. -/
def written (terms : List String) : String := " ".intercalate (versionTag :: terms)

variable {raw : String} {terms : List String} {chars : List Char}

/-- Spaces that have no term between them leave only empty pieces. -/
theorem Spaced.splitOn (spaced : Spaced terms chars) {front : List Char} (free : ' ' ∉ front) :
    ∃ pieces, (front ++ chars).splitOn ' ' = front :: pieces ∧
      (pieces.filter (· ≠ [])).map String.ofList = terms := by
  induction spaced generalizing front with
  | nil => exact ⟨[], by rw [List.append_nil, List.splitOn_eq_singleton free], rfl⟩
  | space after ih =>
    obtain ⟨pieces, split, found⟩ := ih List.not_mem_nil
    rw [List.nil_append] at split
    refine ⟨[] :: pieces, ?_, found⟩
    rw [List.splitOn_append_cons_self_of_not_mem free, split]
  | @term term terms chars isTerm after ih =>
    obtain ⟨pieces, split, found⟩ := ih isTerm.space_not_mem
    have filled : term.toList ≠ [] := fun empty => isTerm.ne_empty (String.toList_eq_nil_iff.mp empty)
    refine ⟨term.toList :: pieces, ?_, ?_⟩
    · rw [List.splitOn_append_cons_self_of_not_mem free, split]
    · rw [List.filter_cons_of_pos (by simpa using filled), List.map_cons, found, String.ofList_toList]

theorem Spaced.eq_nil_or_cons (spaced : Spaced terms chars) :
    chars = [] ∨ ∃ rest, chars = ' ' :: rest := by
  cases spaced with
  | nil => exact .inl rfl
  | space after => exact .inr ⟨_, rfl⟩
  | term isTerm after => exact .inr ⟨_, rfl⟩

/-- The terms of a text are those that it states. -/
theorem States.terms_eq (states : States raw terms) : PolicyText.terms raw = terms := by
  obtain ⟨tag, chars, whole, tag_eq, spaced⟩ := states.exists_tag
  obtain ⟨pieces, split, found⟩ := spaced.splitOn (space_not_mem_tag tag_eq)
  rw [PolicyText.terms, whole, split, List.tail_cons, found]

theorem States.isPolicy (states : States raw terms) : PolicyText.isPolicy raw = true := by
  obtain ⟨tag, chars, whole, tag_eq, spaced⟩ := states.exists_tag
  simp only [PolicyText.isPolicy, whole, List.map_append, tag_eq, Bool.or_eq_true, beq_iff_eq,
    List.isPrefixOf_iff_prefix]
  rcases spaced.eq_nil_or_cons with rfl | ⟨rest, rfl⟩
  · exact .inl (List.append_nil _)
  · exact .inr ⟨rest.map Char.toLower, by rw [List.append_assoc]; rfl⟩

/-- Single spaces will do. -/
theorem states_written (isTerm : ∀ term ∈ terms, IsTerm term) : States (written terms) terms := by
  have spaced : ∃ chars, Spaced terms chars ∧ ∀ tag : List Char,
      [' '].intercalate (tag :: terms.map String.toList) = tag ++ chars := by
    induction terms with
    | nil => exact ⟨[], .nil, fun tag => by simp⟩
    | cons term rest ih =>
      obtain ⟨first, others⟩ := List.forall_mem_cons.mp isTerm
      obtain ⟨chars, after, joined⟩ := ih others
      refine ⟨_, .term first after, fun tag => ?_⟩
      rw [List.map_cons, List.intercalate_cons_cons, joined, List.append_assoc]
      rfl
  obtain ⟨chars, spaced, joined⟩ := spaced
  refine ⟨versionTag.toList, chars, ?_, by decide, spaced⟩
  rw [written, String.toList_intercalate, List.map_cons]
  exact joined _

end PolicyText

end SenderPolicy

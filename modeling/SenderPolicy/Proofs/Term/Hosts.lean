import SenderPolicy.Proofs.Term.Parts

/-! # Terms of hosts in their parts

A term is read as one of hosts exactly when its parts are those of such a term, and it is read as what its
parts say.
-/

namespace SenderPolicy.Term.Parts

/-- The parts are those of a term that names hosts of a kind. -/
structure NamesHosts (parts : Parts) (kind : HostKind) : Prop where
  mark : ∀ c ∈ parts.mark, c ∈ ['+', '-', '~', '?']
  /-- The word is the name of the kind, in any case. -/
  word : parts.word.map Char.toLower = (Keyword.host kind).name.toList
  /-- A domain is not empty. It is made of ASCII letters and digits, three marks, and the two characters beyond
  ASCII whose case folds into it. -/
  target : ∀ domain ∈ parts.target, domain ≠ [] ∧
    ∀ c ∈ domain, c.isAlphanum = true ∨ c ∈ ['.', '_', '-', '\u017F', '\u212A']
  few : parts.lengths.length ≤ 2
  v4 : ∀ n ∈ parts.lengths[0]?, 1 ≤ n ∧ n ≤ 32
  v6 : ∀ n ∈ parts.lengths[1]?, 1 ≤ n ∧ n ≤ 128

/-- The first length is for short addresses and the second for long ones. Without them all bits count. -/
def prefixLengths (parts : Parts) : PrefixLengths :=
  ⟨parts.lengths[0]?.getD 32, parts.lengths[1]?.getD 128⟩

def hostTerm (parts : Parts) (kind : HostKind) : HostTerm :=
  ⟨parts.qualifier, kind, parts.target.map String.ofList, parts.prefixLengths⟩

/-- Hosts go by the name of their kind and by nothing else. -/
theorem ofWord?_eq_host_iff {letters : List Char} {kind : HostKind} :
    Keyword.ofWord? letters = some (.host kind) ↔ letters = (Keyword.host kind).name.toList := by
  constructor
  · intro named
    have single : ∀ entry ∈ Keyword.words, entry.2 = .host kind →
        entry.1 = (Keyword.host kind).name.toList := by
      cases kind <;> decide
    exact single _ (mem_words_of_ofWord? named) rfl
  · rintro rfl
    cases kind <;> rfl

theorem isName_iff {cs : List Char} : isName cs = true ↔ cs ≠ [] ∧
    ∀ c ∈ cs, c.isAlphanum = true ∨ c ∈ ['.', '_', '-', '\u017F', '\u212A'] := by
  simp [isName, isNameChar, or_assoc]

variable {parts : Parts} {kind : HostKind}

namespace NamesHosts

theorem legible (names : parts.NamesHosts kind) : parts.Legible where
  mark := names.mark
  word := ⟨.host kind, ofWord?_eq_host_iff.mpr names.word⟩
  target domain given slash := by
    have outside : ¬(('/' : Char).isAlphanum = true ∨ '/' ∈ ['.', '_', '-', '\u017F', '\u212A']) := by
      decide
    exact outside ((names.target domain given).2 _ slash)

/-- Each length is one of three digits. -/
theorem range (names : parts.NamesHosts kind) : ∀ n ∈ parts.lengths, 1 ≤ n ∧ n < 1000 := by
  intro n member
  obtain ⟨i, bound, rfl⟩ := List.mem_iff_getElem.mp member
  have few := names.few
  have v4 := names.v4
  have v6 := names.v6
  match i, bound with
  | 0, bound =>
    have short := v4 _ (List.getElem?_eq_getElem bound)
    omega
  | 1, bound =>
    have long := v6 _ (List.getElem?_eq_getElem bound)
    omega
  | i + 2, bound => omega

/-- A term of such parts is read as what they say. -/
theorem readHost_text (names : parts.NamesHosts kind) :
    readHost parts.text = .ok (parts.hostTerm kind) := by
  have legible := names.legible
  refine readHost_eq_ok_iff.mpr ⟨parts.head, _, kind, parts.prefixLengths.v4, parts.prefixLengths.v6,
    legible.sections_text, ?_, ⟨?_, ?_⟩, ?_, ?_, ?_⟩
  · refine hostHead?_eq_some_iff.mpr ⟨?_, ?_, rfl⟩
    · rw [legible.word_head]
      exact ofWord?_eq_host_iff.mpr names.word
    · rw [legible.target?_head, Option.all_eq_true]
      exact fun domain given => isName_iff.mpr (names.target domain given)
  · rw [List.length_map]
    exact names.few
  · exact all_isLength_iff.mpr ⟨_, rfl, names.range⟩
  · rw [List.getElem?_map]
    exact readLength_map_toDigits.mpr ⟨rfl, names.v4⟩
  · rw [List.getElem?_map]
    exact readLength_map_toDigits.mpr ⟨rfl, names.v6⟩
  · rw [legible.body_text.2, legible.target?_head]
    rfl

end NamesHosts

/-- A term that is read as one of hosts is put together from the parts of one. -/
theorem exists_namesHosts {term : String} {fields : HostTerm} (read : readHost term = .ok fields) :
    ∃ parts : Parts, parts.NamesHosts fields.kind ∧ parts.text = term := by
  obtain ⟨head, digits, kind, v4, v6, pieces, found, ⟨few, written⟩, v4Read, v6Read, rfl⟩ :=
    readHost_eq_ok_iff.mp read
  obtain ⟨named, domain, -⟩ := hostHead?_eq_some_iff.mp found
  obtain ⟨parts, legible, text, rfl, rfl, range⟩ := exists_of_sections pieces written named
  rw [List.getElem?_map] at v4Read v6Read
  rw [legible.word_head] at named
  rw [legible.target?_head] at domain
  refine ⟨parts, ⟨legible.mark, ?_, ?_, ?_, ?_, ?_⟩, text⟩
  · exact ofWord?_eq_host_iff.mp named
  · rw [Option.all_eq_true] at domain
    exact fun target given => isName_iff.mp (domain target given)
  · rwa [List.length_map] at few
  · exact (readLength_map_toDigits.mp v4Read).2
  · exact (readLength_map_toDigits.mp v6Read).2

end SenderPolicy.Term.Parts

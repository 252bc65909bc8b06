import Mathlib.Data.List.TakeWhile
import SenderPolicy.Proofs.Text
import SenderPolicy.Term.Fields

/-! # Fields agree with the keyword

The keyword of a term is found without reading its fields, and the fields are read without asking for
the keyword. A term whose fields can be read has the keyword that its head names, and the qualifier that
is read with them is the one that the term starts with.
-/

namespace SenderPolicy

namespace Term

/-- The word that stands before literals of a version. -/
def literalWord : Version → List Char
  | .v4 => "ip4".toList
  | .v6 => "ip6".toList

/-- A target is what follows the first colon. -/
theorem target?_eq_some_iff {head target : List Char} :
    target? head = some target ↔ ∃ front, ':' ∉ front ∧ head = front ++ ':' :: target := by
  have whole : head.takeWhile (· ≠ ':') ++ head.dropWhile (· ≠ ':') = head :=
    List.takeWhile_append_dropWhile
  have front : ':' ∉ head.takeWhile (· ≠ ':') := by
    intro member
    simpa using List.mem_takeWhile_imp member
  unfold target?
  constructor
  · intro found
    split at found
    · contradiction
    · next c rest tail =>
      cases found
      have colon : c = ':' := by
        have stop := List.head?_dropWhile_not (fun c => decide (c ≠ ':')) head
        rw [tail] at stop
        simpa using stop
      subst colon
      exact ⟨_, front, by rw [← tail, whole]⟩
  · rintro ⟨before, free, rfl⟩
    have none : ∀ c ∈ before, decide (c ≠ ':') = true := by
      intro c member
      exact decide_eq_true fun same => free (same ▸ member)
    rw [List.dropWhile_append_of_pos none, List.dropWhile_cons_of_neg (by simp)]

/-- A head without a slash and a colon is all word. -/
theorem word_eq_map_toLower {head : List Char} (noColon : ':' ∉ head) (noSlash : '/' ∉ head) :
    word head = head.map Char.toLower := by
  have plain : ∀ c ∈ head, (!isDelimiter c) = true := by
    intro c member
    have notColon : c ≠ ':' := fun same => noColon (same ▸ member)
    have notSlash : c ≠ '/' := fun same => noSlash (same ▸ member)
    simp [isDelimiter, notColon, notSlash]
  rw [word, List.takeWhile_eq_self_iff.mpr plain]

/-- What comes after a delimiter does not belong to the word. -/
theorem word_append_delimiter {c : Char} (delimiter : isDelimiter c = true) (front rest : List Char) :
    word (front ++ c :: rest) = word front := by
  unfold word
  rw [List.takeWhile_append]
  split
  · next all =>
    rw [List.takeWhile_cons_of_neg (by simp [delimiter]), List.append_nil,
      (List.takeWhile_prefix _).eq_of_length all]
  · rfl

theorem lineFeed_not_mem_of_isName {cs : List Char} (name : isName cs = true) : '\n' ∉ cs := by
  intro member
  simp only [isName, Bool.and_eq_true, List.all_eq_true] at name
  exact absurd (name.2 _ member) (by decide)

theorem lineFeed_not_mem_of_isLength {cs : List Char} (digits : isLength cs = true) : '\n' ∉ cs := by
  intro member
  simp only [isLength, Bool.and_eq_true, List.all_eq_true] at digits
  exact absurd (digits.1.2 _ member) (by decide)

theorem mem_words_of_ofWord? {letters : List Char} {keyword : Keyword}
    (named : Keyword.ofWord? letters = some keyword) : (letters, keyword) ∈ Keyword.words := by
  obtain ⟨before, after, words, -⟩ := List.lookup_eq_some_iff.mp named
  rw [words]
  simp

/-- The words of keywords are made of letters and digits. -/
theorem isAlphanum_of_ofWord? {letters : List Char} {keyword : Keyword}
    (named : Keyword.ofWord? letters = some keyword) :
    letters ≠ [] ∧ ∀ c ∈ letters, c.isAlphanum = true := by
  have plain : (Keyword.words.all fun entry => !entry.1.isEmpty && entry.1.all Char.isAlphanum) = true := by
    decide
  have entry := List.all_eq_true.mp plain _ (mem_words_of_ofWord? named)
  rw [Bool.and_eq_true, Bool.not_eq_true', List.isEmpty_eq_false_iff, List.all_eq_true] at entry
  exact entry

theorem lineFeed_not_mem_of_ofWord? {letters : List Char} {keyword : Keyword}
    (named : Keyword.ofWord? letters = some keyword) : '\n' ∉ letters :=
  fun member => absurd ((isAlphanum_of_ofWord? named).2 _ member) (by decide)

/-- A literal has no other characters than those of literals. -/
theorem not_mem_of_isLiteral {cs : List Char} (literal : isLiteral cs = true) {mark : Char}
    (other : isLiteralChar mark = false) : mark ∉ cs := by
  intro member
  simp only [isLiteral, Bool.and_eq_true, List.all_eq_true] at literal
  rw [literal.2 _ member] at other
  contradiction

/-- A head that names a keyword has no line feed, unless there is one in its target. -/
theorem lineFeed_not_mem_head {head : List Char} {keyword : Keyword} (noSlash : '/' ∉ head)
    (named : Keyword.ofWord? (word head) = some keyword)
    (noFeed : ∀ target, target? head = some target → '\n' ∉ target) : '\n' ∉ head := by
  have small := lineFeed_not_mem_of_ofWord? named
  intro member
  by_cases colon : ':' ∈ head
  · obtain ⟨front, rest, rfl, noColon⟩ := List.eq_append_cons_of_mem colon
    have frontNoSlash : '/' ∉ front := fun member => noSlash (List.mem_append_left _ member)
    rw [word_append_delimiter (by decide), word_eq_map_toLower noColon frontNoSlash] at small
    rcases List.mem_append.mp member with member | member
    · exact small (List.mem_map.mpr ⟨'\n', member, by decide⟩)
    · rcases List.mem_cons.mp member with same | member
      · exact absurd same (by decide)
      · exact noFeed rest (target?_eq_some_iff.mpr ⟨front, noColon, rfl⟩) member
  · rw [word_eq_map_toLower colon noSlash] at small
    exact small (List.mem_map.mpr ⟨'\n', member, by decide⟩)

/-- The keyword of a term is the one that its head names, if digits are all that follows and no line feed
stands in the target. -/
theorem keyword?_of_sections {term : String} {head : List Char} {lengths : List (List Char)}
    {keyword : Keyword} (pieces : sections term = head :: lengths)
    (named : Keyword.ofWord? (word head) = some keyword)
    (noFeed : ∀ target, target? head = some target → '\n' ∉ target)
    (digits : lengths.all isLength = true) : keyword? term = some keyword := by
  obtain ⟨noSlash, whole⟩ := splitOn_eq_cons pieces
  have noFeed : '\n' ∉ body term := by
    intro member
    rcases mem_of_mem_splitOn '/' member with same | ⟨piece, among, inside⟩
    · exact absurd same (by decide)
    · change piece ∈ sections term at among
      rw [pieces] at among
      rcases List.mem_cons.mp among with rfl | among
      · exact lineFeed_not_mem_head noSlash named noFeed inside
      · exact lineFeed_not_mem_of_isLength (List.all_eq_true.mp digits piece among) inside
  have word_eq : word (body term) = word head := by
    rcases whole with ⟨-, same⟩ | ⟨back, -, same⟩
    · rw [same]
    · rw [same, word_append_delimiter (by decide)]
  rw [keyword?, if_neg noFeed, word_eq, named]

/-- A head names the host of its keyword, and the target after its first colon, if it has one. -/
theorem hostHead?_eq_some_iff {head : List Char} {kind : HostKind} {domain : Option (List Char)} :
    hostHead? head = some (kind, domain) ↔
      Keyword.ofWord? (word head) = some (.host kind) ∧ (target? head).all isName = true ∧
        domain = target? head := by
  constructor
  · intro found
    unfold hostHead? at found
    split at found
    · next given named =>
      split at found
      · next target =>
        cases found
        exact ⟨named, target, rfl⟩
      · contradiction
    · contradiction
  · rintro ⟨named, target, rfl⟩
    rw [hostHead?, named]
    exact if_pos target

/-- A term is read as one of hosts when its head names some, and at most two lengths follow that addresses can
have. -/
theorem readHost_eq_ok_iff {term : String} {fields : HostTerm} :
    readHost term = .ok fields ↔ ∃ head lengths kind v4 v6, sections term = head :: lengths ∧
      hostHead? head = some (kind, target? head) ∧
      (lengths.length ≤ 2 ∧ lengths.all isLength = true) ∧
      readLength term .v4 lengths[0]? = .ok v4 ∧ readLength term .v6 lengths[1]? = .ok v6 ∧
      fields = ⟨qualifier term, kind, (target? head).map String.ofList, ⟨v4, v6⟩⟩ := by
  constructor
  · intro read
    unfold readHost at read
    split at read
    · contradiction
    · next head lengths pieces =>
      split at read
      · contradiction
      · next kind domain found =>
        obtain rfl := (hostHead?_eq_some_iff.mp found).2.2
        split at read
        · next shape =>
          cases v4Read : readLength term .v4 lengths[0]? with
          | error fault => simp [v4Read, bind, Except.bind] at read
          | ok v4 =>
            cases v6Read : readLength term .v6 lengths[1]? with
            | error fault => simp [v4Read, v6Read, bind, Except.bind] at read
            | ok v6 =>
              simp only [v4Read, v6Read, bind, Except.bind, pure, Except.pure, Except.ok.injEq] at read
              exact ⟨head, lengths, kind, v4, v6, pieces, found, shape, v4Read, v6Read, read.symm⟩
        · contradiction
  · rintro ⟨head, lengths, kind, v4, v6, pieces, found, shape, v4Read, v6Read, rfl⟩
    simp only [readHost, pieces, found]
    rw [if_pos shape]
    simp only [v4Read, v6Read, bind, Except.bind, pure, Except.pure]

theorem readInclusion_eq_ok {term : String} {fields : InclusionTerm}
    (read : readInclusion term = .ok fields) :
    ∃ head target, sections term = [head] ∧ target? head = some target ∧
      word head = "include".toList ∧ isName target = true ∧
      fields = ⟨qualifier term, String.ofList target⟩ := by
  unfold readInclusion at read
  split at read
  · next head single =>
    split at read
    · contradiction
    · next target found =>
      split at read
      · next shape =>
        cases read
        exact ⟨head, target, single, found, shape.1, shape.2, rfl⟩
      · contradiction
  · contradiction

/-- A head names the literal after its first colon, of the version that its word says. -/
theorem literalHead?_eq_some_iff {head literal : List Char} {version : Version} :
    literalHead? head = some (version, literal) ↔
      target? head = some literal ∧ isLiteral literal = true ∧ word head = literalWord version := by
  constructor
  · intro found
    unfold literalHead? at found
    split at found
    · contradiction
    · next target given =>
      split at found
      · contradiction
      · next written =>
        rw [Bool.not_eq_true, Bool.not_eq_false'] at written
        split at found
        · next short =>
          cases found
          exact ⟨given, written, short⟩
        · split at found
          · next long =>
            cases found
            exact ⟨given, written, long⟩
          · contradiction
  · rintro ⟨given, written, word_eq⟩
    simp only [literalHead?, given, written, word_eq]
    cases version <;> rfl

/-- A term is read as a literal when its head names an address, and a length that this address can have
follows, if anything does. -/
theorem readLiteral_eq_ok_iff {term : String} {fields : LiteralTerm} :
    readLiteral term = .ok fields ↔ ∃ head lengths version literal address length network,
      sections term = head :: lengths ∧ literalHead? head = some (version, literal) ∧
      (lengths.length ≤ 1 ∧ lengths.all isLength = true) ∧
      Address.ofVersion? version literal = some address ∧
      readLength term version lengths[0]? = .ok length ∧ Block.ofAddress address length = .ok network ∧
      fields = ⟨qualifier term, network⟩ := by
  constructor
  · intro read
    unfold readLiteral at read
    split at read
    · contradiction
    · next head lengths pieces =>
      split at read
      · contradiction
      · next version literal found =>
        split at read
        · next shape =>
          split at read
          · contradiction
          · next address given =>
            cases lengthRead : readLength term version lengths[0]? with
            | error fault => simp [lengthRead, bind, Except.bind] at read
            | ok length =>
              cases made : Block.ofAddress address length with
              | error error => simp [lengthRead, made, bind, Except.bind, Except.mapError] at read
              | ok network =>
                simp only [lengthRead, made, bind, Except.bind, Except.mapError, pure, Except.pure,
                  Except.ok.injEq] at read
                exact ⟨head, lengths, version, literal, address, length, network, pieces, found, shape,
                  given, lengthRead, made, read.symm⟩
        · contradiction
  · rintro ⟨head, lengths, version, literal, address, length, network, pieces, found, shape, given,
      lengthRead, made, rfl⟩
    simp only [readLiteral, pieces, found, given, lengthRead]
    rw [if_pos shape]
    simp only [bind, Except.bind, made, Except.mapError, pure, Except.pure]

/-- The length that digits state. Without any, all bits of the version count. -/
def statedLength (version : Version) (digits? : Option (List Char)) : Nat :=
  (digits?.map fun digits => Nat.ofDigitChars 10 digits 0).getD version.width

/-- A length is read as it is stated, and only if addresses of the version can have it. -/
theorem readLength_eq_ok_iff {term : String} {version : Version} {digits? : Option (List Char)}
    {length : Nat} :
    readLength term version digits? = .ok length ↔
      length = statedLength version digits? ∧ 1 ≤ length ∧ length ≤ version.width := by
  cases digits? with
  | none =>
    have positive : 1 ≤ version.width := by cases version <;> decide
    rw [readLength, statedLength, Except.ok.injEq, eq_comm]
    refine (and_iff_left_of_imp ?_).symm
    rintro rfl
    exact ⟨positive, le_rfl⟩
  | some digits =>
    simp only [readLength, statedLength, Option.map_some, Option.getD_some]
    split
    · next inRange =>
      rw [Except.ok.injEq, eq_comm]
      refine (and_iff_left_of_imp ?_).symm
      rintro rfl
      exact inRange
    · next outside =>
      refine iff_of_false nofun ?_
      rintro ⟨rfl, inRange⟩
      exact outside inRange

/-- A term that reads as one of hosts has the keyword of its kind. -/
theorem keyword?_of_readHost {term : String} {fields : HostTerm} (read : readHost term = .ok fields) :
    keyword? term = some (.host fields.kind) := by
  obtain ⟨head, lengths, kind, v4, v6, pieces, found, shape, -, -, rfl⟩ := readHost_eq_ok_iff.mp read
  obtain ⟨named, target, -⟩ := hostHead?_eq_some_iff.mp found
  refine keyword?_of_sections pieces named (fun name found => ?_) shape.2
  rw [found] at target
  exact lineFeed_not_mem_of_isName target

/-- A term that reads as an include has the keyword of an include. -/
theorem keyword?_of_readInclusion {term : String} {fields : InclusionTerm}
    (read : readInclusion term = .ok fields) : keyword? term = some .inclusion := by
  obtain ⟨head, target, single, found, word_eq, name, -⟩ := readInclusion_eq_ok read
  refine keyword?_of_sections single ?_ (fun other also => ?_) rfl
  · rw [word_eq]
    decide
  · cases found.symm.trans also
    exact lineFeed_not_mem_of_isName name

/-- A term that reads as a literal has the keyword of literals. -/
theorem keyword?_of_readLiteral {term : String} {fields : LiteralTerm}
    (read : readLiteral term = .ok fields) : keyword? term = some .ip := by
  obtain ⟨head, lengths, version, literal, _, _, _, pieces, found, shape, -⟩ :=
    readLiteral_eq_ok_iff.mp read
  obtain ⟨target, written, word_eq⟩ := literalHead?_eq_some_iff.mp found
  refine keyword?_of_sections pieces ?_ (fun other also => ?_) shape.2
  · rw [word_eq]
    cases version <;> decide
  · cases target.symm.trans also
    exact not_mem_of_isLiteral written (by decide)

/-- A term is read as one for all addresses when nothing but the word for them follows its qualifier. -/
theorem readAll_eq_ok_iff {term : String} {found : Qualifier} :
    readAll term = .ok found ↔
      (body term).map Char.toLower = "all".toList ∧ found = qualifier term := by
  unfold readAll
  split
  · next small =>
    rw [Except.ok.injEq, eq_comm]
    exact (and_iff_right small).symm
  · next other => exact iff_of_false (by simp) fun read => other read.1

/-- A term that reads as one for all addresses has the keyword of these. -/
theorem keyword?_of_readAll {term : String} {found : Qualifier} (read : readAll term = .ok found) :
    keyword? term = some .all := by
  obtain ⟨small, -⟩ := readAll_eq_ok_iff.mp read
  have outside {c : Char} (other : c.toLower ∉ "all".toList) : c ∉ body term := by
    intro member
    rw [← small] at other
    exact other (List.mem_map_of_mem member)
  have word : word (body term) = "all".toList := by
    rw [word_eq_map_toLower (outside (by decide)) (outside (by decide)), small]
  rw [keyword?, if_neg (outside (by decide)), word]
  rfl

/-- The fields of a term are read as those of a keyword. -/
def ReadsAs (term : String) : Keyword → Prop
  | .host kind => ∃ fields, readHost term = .ok fields ∧ fields.kind = kind
  | .inclusion => ∃ fields, readInclusion term = .ok fields
  | .ip => ∃ fields, readLiteral term = .ok fields
  | .all => ∃ found, readAll term = .ok found

theorem readsAs_of_readHost {term : String} {kind : HostKind} {fields : HostTerm}
    (found : keyword? term = some (.host kind)) (read : readHost term = .ok fields) :
    ReadsAs term (.host kind) := by
  rw [keyword?_of_readHost read, Option.some.injEq, Keyword.host.injEq] at found
  exact ⟨fields, read, found⟩

/-- Fields are never read as those of another keyword than the one that is found without them. -/
theorem ReadsAs.keyword?_eq {term : String} {keyword : Keyword} (reads : ReadsAs term keyword) :
    keyword? term = some keyword := by
  cases keyword with
  | host kind =>
    obtain ⟨fields, read, rfl⟩ := reads
    exact keyword?_of_readHost read
  | inclusion =>
    obtain ⟨fields, read⟩ := reads
    exact keyword?_of_readInclusion read
  | ip =>
    obtain ⟨fields, read⟩ := reads
    exact keyword?_of_readLiteral read
  | all =>
    obtain ⟨found, read⟩ := reads
    exact keyword?_of_readAll read

theorem qualifier_of_readHost {term : String} {fields : HostTerm} (read : readHost term = .ok fields) :
    fields.qualifier = qualifier term := by
  obtain ⟨_, _, _, _, _, -, -, -, -, -, rfl⟩ := readHost_eq_ok_iff.mp read
  rfl

theorem qualifier_of_readLiteral {term : String} {fields : LiteralTerm}
    (read : readLiteral term = .ok fields) : fields.qualifier = qualifier term := by
  obtain ⟨_, _, _, _, _, _, _, -, -, -, -, -, -, rfl⟩ := readLiteral_eq_ok_iff.mp read
  rfl

theorem qualifier_of_readAll {term : String} {found : Qualifier} (read : readAll term = .ok found) :
    found = qualifier term :=
  (readAll_eq_ok_iff.mp read).2

end Term

end SenderPolicy

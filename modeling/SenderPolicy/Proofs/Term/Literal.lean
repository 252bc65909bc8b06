import SenderPolicy.Proofs.Address.Groups
import SenderPolicy.Proofs.Block.Membership
import SenderPolicy.Proofs.Term.Parts

/-! # Literals in their parts

No character of an address is barred from literals. So a term is read as a literal exactly when its parts give an
address and a length that this address can have, and the address is judged before the length.
-/

namespace SenderPolicy

namespace Term

open Address

variable {cs : List Char} {quadAllowed : Bool} {version : Version} {address : Address}

theorem isLiteralChar_of_isDigit {c : Char} (digit : c.isDigit = true) : isLiteralChar c = true := by
  simp [isLiteralChar, hexDigit?, digit]

theorem isLiteralChar_of_octets? {os : List Nat} (read : octets? cs = some os) :
    ∀ c ∈ cs, isLiteralChar c = true := by
  intro c member
  rcases mem_of_mem_splitOn '.' member with rfl | ⟨part, among, inside⟩
  · rfl
  · have parts : (cs.splitOn '.').mapM octet? = some os := by
      simp only [octets?] at read
      split at read
      · exact read
      · contradiction
    cases octet : octet? part with
    | none =>
      rw [mapM_eq_none among octet] at parts
      contradiction
    | some n =>
      simp only [octet?] at octet
      split at octet
      · next written => exact isLiteralChar_of_isDigit (List.all_eq_true.mp written.2.2.1 c inside)
      · contradiction

theorem isLiteralChar_of_group? {g : Nat} (read : group? cs = some g) :
    ∀ c ∈ cs, isLiteralChar c = true := by
  intro c member
  cases digit : hexDigit? c with
  | none =>
    rw [group?_eq_none member digit] at read
    contradiction
  | some d => simp [isLiteralChar, digit]

/-- The texts between colons are groups, or octets at the end. -/
theorem isLiteralChar_of_readGroups {fields : List (List Char)} {gs : List Nat}
    (read : readGroups quadAllowed fields = some gs) :
    ∀ field ∈ fields, ∀ c ∈ field, isLiteralChar c = true := by
  induction fields generalizing gs with
  | nil => exact nofun
  | cons first rest ih =>
    cases rest with
    | nil =>
      rw [List.forall_mem_singleton]
      cases group : group? first with
      | some g => exact isLiteralChar_of_group? group
      | none =>
        simp only [readGroups, group] at read
        split at read
        · obtain ⟨os, octets, -⟩ := Option.map_eq_some_iff.mp read
          exact isLiteralChar_of_octets? octets
        · contradiction
    | cons second rest =>
      rw [readGroups_cons_cons] at read
      obtain ⟨g, group, others⟩ := Option.bind_eq_some_iff.mp read
      obtain ⟨gs, after, -⟩ := Option.map_eq_some_iff.mp others
      exact List.forall_mem_cons.mpr ⟨isLiteralChar_of_group? group, ih after⟩

theorem isLiteralChar_of_colonFields {gs : List Nat}
    (read : readGroups quadAllowed (colonFields cs) = some gs) : ∀ c ∈ cs, isLiteralChar c = true := by
  intro c member
  rw [colonFields, if_neg (List.ne_nil_of_mem member)] at read
  rcases mem_of_mem_splitOn ':' member with rfl | ⟨field, among, inside⟩
  · rfl
  · exact isLiteralChar_of_readGroups read field among c inside

/-- The gap is a pair of colons. -/
theorem eq_append_of_splitAtGap {before after : List Char}
    (split : splitAtGap cs = some (before, after)) : cs = before ++ ':' :: ':' :: after := by
  induction cs generalizing before with
  | nil => contradiction
  | cons c rest ih =>
    by_cases gap : c = ':' ∧ rest.head? = some ':'
    · obtain ⟨rfl, second⟩ := gap
      obtain ⟨later, rfl⟩ := List.head?_eq_some_iff.mp second
      cases split
      rfl
    · rw [splitAtGap_cons fun colon second => gap ⟨colon, second⟩] at split
      obtain ⟨⟨front, back⟩, there, same⟩ := Option.map_eq_some_iff.mp split
      cases same
      rw [ih there, List.cons_append]

theorem isLiteralChar_of_groups? {gs : List Nat} (read : groups? cs = some gs) :
    ∀ c ∈ cs, isLiteralChar c = true := by
  unfold groups? at read
  split at read
  · simp only [bind, Option.bind_eq_some_iff] at read
    obtain ⟨all, whole, -⟩ := read
    exact isLiteralChar_of_colonFields whole
  · next before after gap =>
    simp only [bind, Option.bind_eq_some_iff] at read
    obtain ⟨front, frontRead, back, backRead, -⟩ := read
    rw [eq_append_of_splitAtGap gap]
    intro c member
    rcases List.mem_append.mp member with member | member
    · exact isLiteralChar_of_colonFields frontRead c member
    · rcases List.mem_cons.mp member with rfl | member
      · rfl
      · rcases List.mem_cons.mp member with rfl | member
        · rfl
        · exact isLiteralChar_of_colonFields backRead c member

/-- Whatever is read as an address is a literal. -/
theorem isLiteral_of_ofVersion? {literal : List Char}
    (given : ofVersion? version literal = some address) : isLiteral literal = true := by
  have filled : literal ≠ [] := by
    rintro rfl
    cases version <;> exact nomatch given
  have chars : ∀ c ∈ literal, isLiteralChar c = true := by
    cases version with
    | v4 =>
      obtain ⟨bits, read, -⟩ := Option.map_eq_some_iff.mp given
      obtain ⟨os, octets, -⟩ := Option.map_eq_some_iff.mp read
      exact isLiteralChar_of_octets? octets
    | v6 =>
      obtain ⟨bits, read, -⟩ := Option.map_eq_some_iff.mp given
      obtain ⟨gs, groups, -⟩ := Option.map_eq_some_iff.mp read
      exact isLiteralChar_of_groups? groups
  rw [isLiteral, List.all_eq_true.mpr chars, Bool.and_true, Bool.not_eq_true', List.isEmpty_eq_false_iff]
  exact filled

theorem version_of_ofVersion? {literal : List Char}
    (given : ofVersion? version literal = some address) : address.version = version := by
  cases version with
  | v4 =>
    obtain ⟨bits, -, rfl⟩ := Option.map_eq_some_iff.mp given
    rfl
  | v6 =>
    obtain ⟨bits, -, rfl⟩ := Option.map_eq_some_iff.mp given
    rfl

namespace Parts

/-- The parts are those of a term that gives an address, with a length that it can have if there is any. -/
structure GivesLiteral (parts : Parts) (version : Version) (address : Address) : Prop where
  mark : ∀ c ∈ parts.mark, c ∈ ['+', '-', '~', '?']
  /-- The word is the one for the version, in any case. -/
  word : parts.word.map Char.toLower = literalWord version
  target : ∃ literal, parts.target = some literal ∧ ofVersion? version literal = some address
  few : parts.lengths.length ≤ 1
  range : ∀ n ∈ parts.lengths, 1 ≤ n ∧ n ≤ version.width

/-- The parts are those of a term that gives a literal, be it an address or not. -/
structure ShapesLiteral (parts : Parts) (version : Version) (literal : List Char) : Prop where
  mark : ∀ c ∈ parts.mark, c ∈ ['+', '-', '~', '?']
  word : parts.word.map Char.toLower = literalWord version
  target : parts.target = some literal
  written : isLiteral literal = true
  few : parts.lengths.length ≤ 1
  range : ∀ n ∈ parts.lengths, 1 ≤ n ∧ n < 1000

def statedLength (parts : Parts) (version : Version) : Nat := parts.lengths[0]?.getD version.width

variable {parts : Parts} {literal : List Char}

theorem ofWord?_literalWord (version : Version) : Keyword.ofWord? (literalWord version) = some .ip := by
  cases version <;> rfl

namespace ShapesLiteral

theorem legible (shapes : parts.ShapesLiteral version literal) : parts.Legible where
  mark := shapes.mark
  word := ⟨.ip, by rw [shapes.word, ofWord?_literalWord]⟩
  target given same := by
    rw [shapes.target] at same
    cases same
    exact not_mem_of_isLiteral shapes.written rfl

theorem keyword?_text (shapes : parts.ShapesLiteral version literal) :
    keyword? parts.text = some .ip := by
  have written := all_isLength_iff.mpr ⟨_, rfl, shapes.range⟩
  refine keyword?_of_sections shapes.legible.sections_text ?_ (fun target found => ?_) written
  · rw [shapes.legible.word_head, shapes.word, ofWord?_literalWord]
  · rw [shapes.legible.target?_head, shapes.target] at found
    cases found
    exact not_mem_of_isLiteral shapes.written rfl

/-- A term of such parts is read as the block of its literal and its length, as far as there is any. -/
theorem readLiteral_text (shapes : parts.ShapesLiteral version literal) :
    readLiteral parts.text =
      match ofVersion? version literal with
      | none => .error (.badLiteral version (String.ofList literal) parts.text)
      | some address => do
          let length ← readLength parts.text version (parts.lengths[0]?.map (Nat.toDigits 10))
          let network ← (Block.ofAddress address length).mapError .badBlock
          return ⟨parts.qualifier, network⟩ := by
  have legible := shapes.legible
  have head : literalHead? parts.head = some (version, literal) := by
    refine literalHead?_eq_some_iff.mpr ⟨?_, shapes.written, ?_⟩
    · rw [legible.target?_head, shapes.target]
    · rw [legible.word_head, shapes.word]
  have few : (parts.lengths.map (Nat.toDigits 10)).length ≤ 1 := by
    rw [List.length_map]
    exact shapes.few
  have written := all_isLength_iff.mpr ⟨_, rfl, shapes.range⟩
  simp only [readLiteral, legible.sections_text, head, List.getElem?_map, legible.body_text.2]
  refine (if_pos ⟨few, written⟩).trans ?_
  cases ofVersion? version literal <;> rfl

end ShapesLiteral

/-- A term that no such parts are put together to is malformed. -/
theorem readLiteral_eq_malformed {term : String}
    (other : ∀ (parts : Parts) (version : Version) (literal : List Char),
      parts.ShapesLiteral version literal → parts.text ≠ term) :
    readLiteral term = .error (.malformed term) := by
  unfold readLiteral
  split
  · rfl
  · next head digits pieces =>
    split
    · rfl
    · next version literal found =>
      refine if_neg ?_
      rintro ⟨few, written⟩
      obtain ⟨target, literalWritten, word⟩ := literalHead?_eq_some_iff.mp found
      have named := ofWord?_literalWord version
      rw [← word] at named
      obtain ⟨parts, legible, text, rfl, rfl, range⟩ := exists_of_sections pieces written named
      rw [legible.word_head] at word
      rw [legible.target?_head] at target
      rw [List.length_map] at few
      exact other parts version literal ⟨legible.mark, word, target, literalWritten, few, range⟩ text

namespace GivesLiteral

theorem exists_shapesLiteral (gives : parts.GivesLiteral version address) :
    ∃ literal, parts.ShapesLiteral version literal ∧ ofVersion? version literal = some address := by
  obtain ⟨literal, target, given⟩ := gives.target
  have wide : version.width ≤ 128 := by cases version <;> decide
  refine ⟨literal, ⟨gives.mark, gives.word, target, isLiteral_of_ofVersion? given, gives.few, ?_⟩, given⟩
  intro n member
  obtain ⟨positive, le⟩ := gives.range n member
  omega

theorem ofAddress_eq_ok (gives : parts.GivesLiteral version address) :
    Block.ofAddress address (parts.statedLength version) =
      .ok (.around address (parts.statedLength version)) := by
  obtain ⟨literal, -, given⟩ := gives.exists_shapesLiteral
  have inRange : 1 ≤ parts.statedLength version ∧ parts.statedLength version ≤ version.width := by
    unfold statedLength
    cases stated : parts.lengths[0]? with
    | none => cases version <;> decide
    | some n => exact gives.range n (List.mem_of_getElem? stated)
  exact Block.ofAddress_eq_ok_iff.mpr ⟨version_of_ofVersion? given ▸ inRange, rfl⟩

/-- A term of such parts is read as the block that they state. -/
theorem readLiteral_text (gives : parts.GivesLiteral version address) :
    readLiteral parts.text =
      .ok ⟨parts.qualifier, .around address (parts.statedLength version)⟩ := by
  obtain ⟨literal, shapes, given⟩ := gives.exists_shapesLiteral
  have length : readLength parts.text version (parts.lengths[0]?.map (Nat.toDigits 10)) =
      .ok (parts.statedLength version) :=
    readLength_map_toDigits.mpr ⟨rfl, fun n stated => gives.range n (List.mem_of_getElem? stated)⟩
  rw [shapes.readLiteral_text, given]
  simp only [length, bind, Except.bind, gives.ofAddress_eq_ok, Except.mapError, pure, Except.pure]

end GivesLiteral

/-- Parts that shape a literal give it, unless their length is out of range, which is then the fault. -/
theorem ShapesLiteral.givesLiteral_or (shapes : parts.ShapesLiteral version literal)
    (given : ofVersion? version literal = some address) :
    parts.GivesLiteral version address ∨ ∃ n, parts.lengths = [n] ∧ version.width < n ∧
      readLiteral parts.text = .error (.lengthOutOfRange (toString n) version parts.text) := by
  by_cases fits : ∀ n ∈ parts.lengths, n ≤ version.width
  · left
    exact ⟨shapes.mark, shapes.word, ⟨literal, shapes.target, given⟩, shapes.few,
      fun n member => ⟨(shapes.range n member).1, fits n member⟩⟩
  · right
    push Not at fits
    obtain ⟨n, member, beyond⟩ := fits
    obtain ⟨m, single⟩ := List.length_eq_one_iff.mp
      (Nat.le_antisymm shapes.few (List.length_pos_of_mem member))
    rw [single, List.mem_singleton] at member
    subst member
    refine ⟨n, single, beyond, ?_⟩
    have outside : ¬(1 ≤ n ∧ n ≤ version.width) := by omega
    have refused : readLength parts.text version (some (Nat.toDigits 10 n)) =
        .error (.lengthOutOfRange (toString n) version parts.text) := by
      simp only [readLength, Nat.ofDigitChars_ten_toDigits, Nat.toString_eq_ofList_toDigits]
      exact if_neg outside
    rw [shapes.readLiteral_text, given, single]
    simp only [List.getElem?_cons_zero, Option.map_some, refused, bind, Except.bind]

end Parts

/-- A term is no literal by its shape, by its address or by its length, which are judged in this order; otherwise
its parts give an address. -/
theorem readLiteral_cases (term : String) :
    readLiteral term = .error (.malformed term) ∨
    ∃ (parts : Parts) (version : Version) (literal : List Char),
      parts.ShapesLiteral version literal ∧ parts.text = term ∧
      (ofVersion? version literal = none ∧
          readLiteral term = .error (.badLiteral version (String.ofList literal) term) ∨
        ∃ address, ofVersion? version literal = some address ∧
          (parts.GivesLiteral version address ∨
            ∃ n : Nat, readLiteral term = .error (.lengthOutOfRange (toString n) version term))) := by
  by_cases shaped : ∃ (parts : Parts) (version : Version) (literal : List Char),
      parts.ShapesLiteral version literal ∧ parts.text = term
  · right
    obtain ⟨parts, version, literal, shapes, rfl⟩ := shaped
    refine ⟨parts, version, literal, shapes, rfl, ?_⟩
    cases given : ofVersion? version literal with
    | none =>
      left
      refine ⟨rfl, ?_⟩
      rw [shapes.readLiteral_text, given]
    | some address =>
      right
      refine ⟨address, rfl, ?_⟩
      apply (shapes.givesLiteral_or given).imp_right
      rintro ⟨n, -, -, refused⟩
      exact ⟨n, refused⟩
  · left
    push Not at shaped
    exact Parts.readLiteral_eq_malformed shaped

/-- A term that is read as a literal is put together from the parts of one. -/
theorem Parts.exists_givesLiteral {term : String} {fields : LiteralTerm}
    (read : readLiteral term = .ok fields) :
    ∃ (parts : Parts) (version : Version) (address : Address),
      parts.GivesLiteral version address ∧ parts.text = term := by
  rcases readLiteral_cases term with
    malformed | ⟨parts, version, literal, -, text, ⟨-, bad⟩ | ⟨address, -, gives | ⟨n, outside⟩⟩⟩
  · rw [malformed] at read
    cases read
  · rw [bad] at read
    cases read
  · exact ⟨parts, version, address, gives, text⟩
  · rw [outside] at read
    cases read

end Term

end SenderPolicy

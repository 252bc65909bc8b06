import SenderPolicy.Proofs.Policy.Keywords
import SenderPolicy.Proofs.Policy.Literal
import SenderPolicy.Proofs.Term.Hosts

/-! # The terms that are built

Directives of hosts are built from the terms that are put together from the parts of one, and directives of one
network from the terms whose parts give an address. Every other term is refused for its form before anything is
asked.
-/

namespace SenderPolicy

namespace Directive

open Inquiry

variable {kind : HostKind} {term domain : String}

/-- The domain whose hosts the parts of a term name, in the text of a domain. -/
def hostDomain (parts : Term.Parts) (domain : String) : String :=
  DomainName.normalize ((parts.target.map String.ofList).getD domain)

/-- A term of the parts of a directive of hosts is built from the networks of these hosts. -/
theorem ofHost_text {parts : Term.Parts} (names : parts.NamesHosts kind) (zone : Zone) (domain : String) :
    ofHost zone kind parts.text domain =
      (fun networks => ⟨parts.qualifier, parts.text,
          .host kind (hostDomain parts domain) parts.prefixLengths networks⟩) <$>
        hostNetworks zone (hostDomain parts domain) kind parts.prefixLengths := by
  have read := names.readHost_text
  have found : Term.keyword? parts.text = some (.host kind) := Term.keyword?_of_readHost read
  rw [ofHost_of_readHost zone domain found read]
  rfl

/-- A term whose fields are not those of hosts of a kind is refused for its form. -/
theorem ofHost_refused (other : ¬Term.ReadsAs term (.host kind)) (zone : Zone) (domain : String) :
    ∃ error, ofHost zone kind term domain = fail error ∧ error.IsOfForm := by
  cases required : requireKeyword (.host kind) term with
  | error error =>
    exact ⟨error, ofHost_of_refused required zone domain, isOfForm_of_requireKeyword required⟩
  | ok =>
    have found := requireKeyword_eq_ok_iff.mp required
    cases read : Term.readHost term with
    | error fault => exact ⟨_, ofHost_eq_fail zone domain found read, trivial⟩
    | ok fields => exact absurd (Term.readsAs_of_readHost found read) other

theorem readsAs_host_iff :
    Term.ReadsAs term (.host kind) ↔ ∃ parts : Term.Parts, parts.NamesHosts kind ∧ parts.text = term := by
  constructor
  · rintro ⟨fields, read, rfl⟩
    exact Term.Parts.exists_namesHosts read
  · rintro ⟨parts, names, rfl⟩
    exact ⟨_, names.readHost_text, rfl⟩

/-- The fields of a term are those of a directive of hosts of a kind exactly when the term is put together from
the parts of one, which it is in one way only. The directive then has the qualifier, the domain and the lengths of
the parts, and every other term is refused for its form. -/
theorem ofHost_grammar (zone : Zone) (kind : HostKind) (term domain : String) :
    ((requireKeyword (.host kind) term = .ok () ∧ ∃ fields, Term.readHost term = .ok fields) ↔
      ∃ parts : Term.Parts, parts.NamesHosts kind ∧ parts.text = term) ∧
    (∀ left right : Term.Parts, left.NamesHosts kind → right.NamesHosts kind →
      left.text = right.text → left = right) ∧
    (∀ parts : Term.Parts, parts.NamesHosts kind → parts.text = term →
      ofHost zone kind term domain =
        (fun networks => ⟨parts.qualifier, term,
            .host kind (hostDomain parts domain) parts.prefixLengths networks⟩) <$>
          hostNetworks zone (hostDomain parts domain) kind parts.prefixLengths) ∧
    ((¬∃ parts : Term.Parts, parts.NamesHosts kind ∧ parts.text = term) →
      ∃ error, ofHost zone kind term domain = fail error ∧ error.IsOfForm) := by
  refine ⟨?_, ?_, ?_, ?_⟩
  · rw [← readsAs_host_iff]
    constructor
    · rintro ⟨required, fields, read⟩
      exact Term.readsAs_of_readHost (requireKeyword_eq_ok_iff.mp required) read
    · rintro ⟨fields, read, rfl⟩
      exact ⟨requireKeyword_of_keyword? (Term.keyword?_of_readHost read), fields, read⟩
  · exact fun left right names others => names.legible.eq_of_text_eq others.legible
  · rintro parts names rfl
    exact ofHost_text names zone domain
  · rw [← readsAs_host_iff]
    exact fun other => ofHost_refused other zone domain

/-- The parts of a term that names the mail hosts of a domain with letters beyond ASCII. -/
def foldedParts : Term.Parts := ⟨some '~', "mX".toList, some "_s.\u212A\u017F".toList, [8, 64]⟩

/-- Such a domain is taken as it stands, and a length that starts with a zero is refused. -/
theorem ofHost_grammar_folded :
    foldedParts.text = "~mX:_s.\u212A\u017F/8/64" ∧
    ofHost {} .mx "~mX:_s.\u212A\u017F/8/64" "b" =
      (fun networks => ⟨.softFail, "~mX:_s.\u212A\u017F/8/64",
          .host .mx "_s.\u212A\u017F" ⟨8, 64⟩ networks⟩) <$>
        hostNetworks {} "_s.\u212A\u017F" .mx ⟨8, 64⟩ ∧
    ∃ error, ofHost {} .a "a/08" "b" = fail error ∧ error.IsOfForm := by
  have text : foldedParts.text = "~mX:_s.\u212A\u017F/8/64" := by decide +kernel
  have names : foldedParts.NamesHosts .mx := {
    mark _ given := by cases given; decide
    word := by decide
    target _ given := by cases given; exact Term.Parts.isName_iff.mp (by decide)
    few := by decide
    v4 := by decide
    v6 := by decide }
  have target : hostDomain foldedParts "b" = "_s.\u212A\u017F" := by decide +kernel
  have refused : Term.readHost "a/08" = .error (.malformed "a/08") := by decide +kernel
  obtain ⟨-, -, built, -⟩ := ofHost_grammar {} .mx "~mX:_s.\u212A\u017F/8/64" "b"
  have fine := built foldedParts names text
  rw [target] at fine
  obtain ⟨read, -, -, others⟩ := ofHost_grammar {} .a "a/08" "b"
  refine ⟨text, fine, others fun shaped => ?_⟩
  obtain ⟨-, fields, given⟩ := read.mpr shaped
  rw [refused] at given
  cases given

/-- A term is refused as one of another keyword if it has one, and for its form otherwise. A block is never what
is wrong with it. -/
theorem ofLiteral_eq_error_cases {error : PolicyError} (failed : ofLiteral term = .error error) :
    (∃ found, Term.keyword? term = some found ∧ found ≠ .ip ∧ error = .wrongKeyword .ip found) ∨
      (∀ found, Term.keyword? term = some found → found = .ip) ∧
        ∃ fault, error = .format fault ∧ ∀ cause, fault ≠ .badBlock cause := by
  cases required : requireKeyword .ip term with
  | error cause =>
    rw [ofLiteral, required] at failed
    cases failed
    rcases requireKeyword_eq_error_iff.mp required with ⟨none, rfl⟩ | refused
    · right
      refine ⟨fun found named => ?_, _, rfl, by simp⟩
      rw [none] at named
      cases named
    · exact .inl refused
  | ok =>
    have found := requireKeyword_eq_ok_iff.mp required
    right
    refine ⟨fun other named => ?_, ?_⟩
    · rw [found, Option.some.injEq] at named
      exact named.symm
    · rw [ofLiteral_eq_mapError found] at failed
      rcases Term.readLiteral_cases term with
        malformed | ⟨parts, version, literal, -, rfl, ⟨-, bad⟩ | ⟨address, -, gives | ⟨n, outside⟩⟩⟩
      · rw [malformed] at failed
        cases failed
        exact ⟨_, rfl, by simp⟩
      · rw [bad] at failed
        cases failed
        exact ⟨_, rfl, by simp⟩
      · rw [gives.readLiteral_text] at failed
        cases failed
      · rw [outside] at failed
        cases failed
        exact ⟨_, rfl, by simp⟩

/-- A term that shapes a literal is refused for the literal if this is no address, whatever length follows, and for
the length otherwise. -/
theorem ofLiteral_text_eq_error {parts : Term.Parts} {version : Version} {literal : List Char}
    (shapes : parts.ShapesLiteral version literal) :
    (Address.ofVersion? version literal = none →
      ofLiteral parts.text = .error (.format (.badLiteral version (String.ofList literal) parts.text))) ∧
    (∀ address n, Address.ofVersion? version literal = some address → parts.lengths = [n] → version.width < n →
      ofLiteral parts.text = .error (.format (.lengthOutOfRange (toString n) version parts.text))) := by
  rw [ofLiteral_eq_mapError shapes.keyword?_text]
  constructor
  · intro bad
    rw [shapes.readLiteral_text, bad]
    rfl
  · intro address n given single beyond
    rcases shapes.givesLiteral_or given with gives | ⟨m, same, -, refused⟩
    · have range := gives.range n (by simp [single])
      omega
    · rw [single, List.singleton_inj] at same
      rw [refused, same]
      rfl

/-- A term is built into a directive of one network exactly when its parts give an address, and the network is the
block around this address that they state, which there always is. Every other term is refused as one of another
keyword if it has one, and for its form otherwise: for a literal that is no address before a length that is out of
range. -/
theorem ofLiteral_grammar (term : String) :
    ((∃ directive, ofLiteral term = .ok directive) ↔
      ∃ (parts : Term.Parts) (version : Version) (address : Address),
        parts.GivesLiteral version address ∧ parts.text = term) ∧
    (∀ (parts : Term.Parts) (version : Version) (address : Address),
      parts.GivesLiteral version address → parts.text = term →
        ∃ network, Block.ofAddress address (parts.statedLength version) = .ok network ∧
          ofLiteral term = .ok ⟨parts.qualifier, term, .ip network⟩) ∧
    (∀ error, ofLiteral term = .error error →
      (∃ found, Term.keyword? term = some found ∧ found ≠ .ip ∧ error = .wrongKeyword .ip found) ∨
        (∀ found, Term.keyword? term = some found → found = .ip) ∧
          ∃ fault, error = .format fault ∧ ∀ cause, fault ≠ .badBlock cause) ∧
    (∀ (parts : Term.Parts) (version : Version) (literal : List Char),
      parts.ShapesLiteral version literal → parts.text = term →
        (Address.ofVersion? version literal = none →
          ofLiteral term = .error (.format (.badLiteral version (String.ofList literal) term))) ∧
        (∀ address n, Address.ofVersion? version literal = some address → parts.lengths = [n] →
          version.width < n →
            ofLiteral term = .error (.format (.lengthOutOfRange (toString n) version term)))) := by
  refine ⟨⟨?_, ?_⟩, ?_, fun error => ofLiteral_eq_error_cases, ?_⟩
  · rintro ⟨directive, made⟩
    obtain ⟨fields, read, -⟩ := ofLiteral_eq_ok_iff.mp made
    exact Term.Parts.exists_givesLiteral read
  · rintro ⟨parts, version, address, gives, rfl⟩
    exact ⟨_, ofLiteral_text gives⟩
  · rintro parts version address gives rfl
    exact ⟨_, gives.ofAddress_eq_ok, ofLiteral_text gives⟩
  · rintro parts version literal shapes rfl
    exact ofLiteral_text_eq_error shapes

def mappedParts : Term.Parts := ⟨some '?', "iP6".toList, some "::FFFF:1.2.3.4".toList, [96]⟩

def faultyParts : Term.Parts := ⟨none, "ip4".toList, some "300.1.1.1".toList, [99]⟩

/-- A mapped address in large letters is the literal of a long block, and of two faults the one in the literal is
reported. -/
theorem ofLiteral_grammar_mapped :
    ofLiteral "?iP6:::FFFF:1.2.3.4/96" =
      .ok ⟨.neutral, "?iP6:::FFFF:1.2.3.4/96", .ip (.v6 0xFFFF00000000#128 96)⟩ ∧
    ofLiteral "ip4:300.1.1.1/99" =
      .error (.format (.badLiteral .v4 "300.1.1.1" "ip4:300.1.1.1/99")) := by
  have gives : mappedParts.GivesLiteral .v6 (.v6 0xFFFF01020304#128) :=
    ⟨fun _ given => by cases given; decide, by decide, ⟨_, rfl, by decide⟩, by decide, by decide⟩
  have shapes : faultyParts.ShapesLiteral .v4 "300.1.1.1".toList :=
    ⟨nofun, by decide, rfl, by decide, by decide, by decide⟩
  have block : Block.ofAddress (.v6 0xFFFF01020304#128) 96 = .ok (.v6 0xFFFF00000000#128 96) := by
    decide
  obtain ⟨-, built, -⟩ := ofLiteral_grammar "?iP6:::FFFF:1.2.3.4/96"
  obtain ⟨-, -, -, faults⟩ := ofLiteral_grammar "ip4:300.1.1.1/99"
  constructor
  · obtain ⟨network, made, same⟩ := built mappedParts .v6 _ gives (by decide +kernel)
    cases made.symm.trans block
    exact same
  · exact (faults faultyParts .v4 _ shapes (by decide +kernel)).1 (by decide)

end Directive

end SenderPolicy

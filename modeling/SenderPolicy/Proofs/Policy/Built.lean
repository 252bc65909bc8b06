import SenderPolicy.Proofs.Policy.Directive

/-! # What terms are built into

The keyword of a term decides how its directive is made, and a term without one makes none. A directive
of hosts asks for its hosts, and an include is entered and holds the policy that is found inside of it.
The relations here state this without the order of the steps, and the statements beside them say that
they agree with the functions that build directives, wherever these succeed.
-/

namespace SenderPolicy

namespace Directive

open Inquiry

/-- What a term is built into on a path, and what is asked for it. -/
inductive Built (zone : Zone) (options : Options) (nested : String → Inquiry Policy) (domain : String)
    (path : IncludePath) : String → Option Directive → List Query → Prop where
  | skipped {term : String} (found : Term.keyword? term = none) (lenient : options.strict = false) :
      Built zone options nested domain path term none []
  | host {term name : String} {kind : HostKind} {fields : Term.HostTerm} {addresses : List Address}
      {networks : List Block} {queries : List Query}
      (found : Term.keyword? term = some (.host kind)) (read : Term.readHost term = .ok fields)
      (name_eq : name = DomainName.normalize (fields.domain.getD domain))
      (answered : hostAddresses zone name fields.kind path = ⟨.done addresses, path, queries⟩)
      (made : networksOf addresses fields.lengths = .ok networks) :
      Built zone options nested domain path term
        (some ⟨fields.qualifier, term, .host fields.kind name fields.lengths networks⟩) queries
  | literal {term : String} {fields : Term.LiteralTerm} (found : Term.keyword? term = some .ip)
      (read : Term.readLiteral term = .ok fields) :
      Built zone options nested domain path term
        (some ⟨fields.qualifier, term, .ip fields.network⟩) []
  | all {term : String} {qualifier : Qualifier} (found : Term.keyword? term = some .all)
      (read : Term.readAll term = .ok qualifier) :
      Built zone options nested domain path term (some ⟨qualifier, term, .all⟩) []
  | inclusion {term : String} {fields : Term.InclusionTerm} {inner : IncludePath} {policy : Policy}
      {queries : List Query} (read : Term.readInclusion term = .ok fields)
      (entered : path.enter options.maxIncludeDepth (DomainName.normalize fields.target) = .ok inner)
      (within : nested (DomainName.normalize fields.target) inner = ⟨.done policy, inner, queries⟩) :
      Built zone options nested domain path term (some (ofIncluded term fields policy)) queries

/-- What terms are built into one after the other, and what is asked for them. -/
inductive BuiltAll (zone : Zone) (options : Options) (nested : String → Inquiry Policy)
    (domain : String) (path : IncludePath) :
    List String → List Directive → List Query → Prop where
  | nil : BuiltAll zone options nested domain path [] [] []
  | cons {term : String} {rest : List String} {first : Option Directive} {others : List Directive}
      {asked more : List Query} (here : Built zone options nested domain path term first asked)
      (after : BuiltAll zone options nested domain path rest others more) :
      BuiltAll zone options nested domain path (term :: rest) (first.toList ++ others) (asked ++ more)

variable {zone : Zone} {options : Options} {nested : String → Inquiry Policy} {domain term : String}
  {path last : IncludePath} {directive : Directive} {first : Option Directive}
  {directives : List Directive} {terms : List String} {queries : List Query}

theorem ofHost_eq_done_iff {kind : HostKind} (found : Term.keyword? term = some (.host kind)) :
    ofHost zone kind term domain path = ⟨.done directive, last, queries⟩ ↔
      ∃ fields addresses networks, Term.readHost term = .ok fields ∧
        hostAddresses zone (DomainName.normalize (fields.domain.getD domain)) fields.kind path =
          ⟨.done addresses, last, queries⟩ ∧
        networksOf addresses fields.lengths = .ok networks ∧
        directive = ⟨fields.qualifier, term, .host fields.kind
          (DomainName.normalize (fields.domain.getD domain)) fields.lengths networks⟩ := by
  rw [ofHost, ofExcept_requireKeyword found, pure_bind]
  cases read : Term.readHost term with
  | error fault => simp [ofExcept_mapError_error, fail_bind, fail_ne_done]
  | ok fields =>
    rw [ofExcept_mapError_ok, pure_bind]
    simp only [bind_eq_done_iff, ofExcept_eq_done_iff, pure_eq_done_iff]
    constructor
    · rintro ⟨addresses, _, asked, _, answered, ⟨networks, _, _, _, ⟨made, rfl, rfl⟩,
        ⟨rfl, rfl, rfl⟩, rfl⟩, rfl⟩
      exact ⟨fields, addresses, networks, rfl, by simpa using answered, made, rfl⟩
    · rintro ⟨_, addresses, networks, same, answered, made, rfl⟩
      cases same
      exact ⟨addresses, last, queries, [], answered, ⟨networks, last, [], [], ⟨made, rfl, rfl⟩,
        ⟨rfl, rfl, rfl⟩, rfl⟩, (List.append_nil queries).symm⟩

/-- A literal is built when it is read. -/
theorem ofLiteral_eq_ok_iff :
    ofLiteral term = .ok directive ↔ ∃ fields, Term.readLiteral term = .ok fields ∧
      directive = ⟨fields.qualifier, term, .ip fields.network⟩ := by
  rw [ofLiteral]
  cases required : requireKeyword .ip term with
  | error error =>
    refine iff_of_false nofun ?_
    rintro ⟨fields, read, -⟩
    rw [requireKeyword_of_keyword? (Term.keyword?_of_readLiteral read)] at required
    cases required
  | ok =>
    cases read : Term.readLiteral term <;>
      simp [Except.mapError, bind, Except.bind, pure, Except.pure, eq_comm]

theorem ofAll_eq_ok_iff (found : Term.keyword? term = some .all) :
    ofAll term = .ok directive ↔ ∃ qualifier, Term.readAll term = .ok qualifier ∧
      directive = ⟨qualifier, term, .all⟩ := by
  rw [ofAll, requireKeyword_of_keyword? found]
  cases read : Term.readAll term <;>
    simp [Except.mapError, bind, Except.bind, pure, Except.pure, eq_comm]

/-- A term that reads as an include is built when its include succeeds. -/
theorem ofTerm?_eq_done_iff_of_readInclusion (balanced : ∀ name, (nested name).Balanced)
    {fields : Term.InclusionTerm} (read : Term.readInclusion term = .ok fields) :
    ofTerm? zone options nested domain term path = ⟨.done first, last, queries⟩ ↔
      ∃ inner policy, path.enter options.maxIncludeDepth (DomainName.normalize fields.target) =
          .ok inner ∧
        nested (DomainName.normalize fields.target) inner = ⟨.done policy, inner, queries⟩ ∧
        first = some (ofIncluded term fields policy) ∧ last = path := by
  rw [ofTerm?_of_readInclusion read]
  simp only [map_eq_done_iff, (balanced _).inside_eq_done_iff]
  constructor
  · rintro ⟨policy, ⟨inner, entered, within, rfl⟩, rfl⟩
    exact ⟨inner, policy, entered, within, rfl, rfl⟩
  · rintro ⟨inner, policy, entered, within, rfl, rfl⟩
    exact ⟨policy, ⟨inner, entered, within, rfl⟩, rfl⟩

/-- A term that succeeds does so with what it is built into. -/
theorem Built.of_done (balanced : ∀ name, (nested name).Balanced)
    (done : ofTerm? zone options nested domain term path = ⟨.done first, path, queries⟩) :
    Built zone options nested domain path term first queries := by
  cases found : Term.keyword? term with
  | none =>
    simp only [ofTerm?, found] at done
    split at done
    · exact absurd done fail_ne_done
    · next lenient =>
      obtain ⟨rfl, -, rfl⟩ := pure_eq_done_iff.mp done
      exact .skipped found (Bool.eq_false_iff.mpr lenient)
  | some keyword =>
    cases keyword with
    | host kind =>
      simp only [ofTerm?, found] at done
      obtain ⟨directive, built, rfl⟩ := map_eq_done_iff.mp done
      obtain ⟨fields, addresses, networks, read, answered, made, rfl⟩ :=
        (ofHost_eq_done_iff found).mp built
      exact .host found read rfl answered made
    | ip =>
      simp only [ofTerm?, found] at done
      obtain ⟨directive, built, rfl⟩ := map_eq_done_iff.mp done
      obtain ⟨made, -, rfl⟩ := ofExcept_eq_done_iff.mp built
      obtain ⟨fields, read, rfl⟩ := ofLiteral_eq_ok_iff.mp made
      exact .literal found read
    | all =>
      simp only [ofTerm?, found] at done
      obtain ⟨directive, built, rfl⟩ := map_eq_done_iff.mp done
      obtain ⟨made, -, rfl⟩ := ofExcept_eq_done_iff.mp built
      obtain ⟨qualifier, read, rfl⟩ := (ofAll_eq_ok_iff found).mp made
      exact .all found read
    | inclusion =>
      cases read : Term.readInclusion term with
      | error fault =>
        simp only [ofTerm?, found, ofInclusion_eq_fail found read] at done
        obtain ⟨directive, built, -⟩ := map_eq_done_iff.mp done
        exact absurd built fail_ne_done
      | ok fields =>
        obtain ⟨inner, policy, entered, within, rfl, -⟩ :=
          (ofTerm?_eq_done_iff_of_readInclusion balanced read).mp done
        exact .inclusion read entered within

/-- What a term is built into is what it succeeds with. -/
theorem Built.done (balanced : ∀ name, (nested name).Balanced)
    (built : Built zone options nested domain path term first queries) :
    ofTerm? zone options nested domain term path = ⟨.done first, path, queries⟩ := by
  cases built with
  | skipped found lenient => simp [ofTerm?, found, lenient, pure_eq_done_iff]
  | host found read name_eq answered made =>
    subst name_eq
    simp only [ofTerm?, found]
    exact map_eq_done_iff.mpr
      ⟨_, (ofHost_eq_done_iff found).mpr ⟨_, _, _, read, answered, made, rfl⟩, rfl⟩
  | literal found read =>
    simp only [ofTerm?, found]
    have made := ofLiteral_eq_ok_iff.mpr ⟨_, read, rfl⟩
    exact map_eq_done_iff.mpr ⟨_, ofExcept_eq_done_iff.mpr ⟨made, rfl, rfl⟩, rfl⟩
  | all found read =>
    simp only [ofTerm?, found]
    have made := (ofAll_eq_ok_iff found).mpr ⟨_, read, rfl⟩
    exact map_eq_done_iff.mpr ⟨_, ofExcept_eq_done_iff.mpr ⟨made, rfl, rfl⟩, rfl⟩
  | inclusion read entered within =>
    exact (ofTerm?_eq_done_iff_of_readInclusion balanced read).mpr
      ⟨_, _, entered, within, rfl, rfl⟩

/-- A term succeeds with what it is built into. -/
theorem ofTerm?_eq_done_iff (balanced : ∀ name, (nested name).Balanced) :
    ofTerm? zone options nested domain term path = ⟨.done first, last, queries⟩ ↔
      Built zone options nested domain path term first queries ∧ last = path := by
  constructor
  · intro done
    have stays : (ofTerm? zone options nested domain term path).path = path :=
      balanced_ofTerm? balanced path
    obtain rfl : last = path := by rw [← stays, done]
    exact ⟨.of_done balanced done, rfl⟩
  · rintro ⟨built, rfl⟩
    exact built.done balanced

/-- A term that reads as an include is built into one. -/
theorem Built.of_readInclusion (built : Built zone options nested domain path term first queries)
    {fields : Term.InclusionTerm} (read : Term.readInclusion term = .ok fields) :
    ∃ inner policy, path.enter options.maxIncludeDepth (DomainName.normalize fields.target) =
        .ok inner ∧
      nested (DomainName.normalize fields.target) inner = ⟨.done policy, inner, queries⟩ ∧
      first = some (ofIncluded term fields policy) := by
  have keyword := Term.keyword?_of_readInclusion read
  cases built with
  | skipped found _ => rw [keyword] at found; cases found
  | host found _ _ _ _ => rw [keyword] at found; cases found
  | literal found _ => rw [keyword] at found; cases found
  | all found _ => rw [keyword] at found; cases found
  | inclusion same entered within =>
    rw [read] at same
    cases same
    exact ⟨_, _, entered, within, rfl⟩

/-- A directive has the text, the keyword and the qualifier of its term. -/
theorem Built.stated (built : Built zone options nested domain path term (some directive) queries) :
    directive.text = term ∧ Term.keyword? term = some directive.mechanism.keyword ∧
      directive.qualifier = Term.qualifier term := by
  cases built with
  | host _ read _ _ _ =>
    exact ⟨rfl, Term.keyword?_of_readHost read, Term.qualifier_of_readHost read⟩
  | literal found read => exact ⟨rfl, found, Term.qualifier_of_readLiteral read⟩
  | all found read => exact ⟨rfl, found, Term.qualifier_of_readAll read⟩
  | inclusion read _ _ =>
    obtain ⟨_, _, _, _, _, _, rfl⟩ := Term.readInclusion_eq_ok read
    exact ⟨rfl, Term.keyword?_of_readInclusion read, rfl⟩

/-- A term is skipped only if it has no keyword and the options are not strict. -/
theorem Built.of_skipped (built : Built zone options nested domain path term none queries) :
    Term.keyword? term = none ∧ options.strict = false := by
  cases built with
  | skipped found lenient => exact ⟨found, lenient⟩

/-- A term is built into a directive of its keyword, and into none if it has none. -/
theorem Built.map_keyword (built : Built zone options nested domain path term first queries) :
    first.map (·.mechanism.keyword) = Term.keyword? term := by
  cases first with
  | none => exact built.of_skipped.1.symm
  | some directive => exact built.stated.2.1.symm

/-- What a term is built into is what it is built into elsewhere, if it may be skipped there as well and
the policy of its include is found there. -/
theorem Built.elsewhere {other : Options} {nested' : String → Inquiry Policy} {path' : IncludePath}
    (built : Built zone options nested domain path term first queries)
    (skips : Term.keyword? term = none → options.strict = false → other.strict = false)
    (within : ∀ fields inner policy,
      path.enter options.maxIncludeDepth (DomainName.normalize fields.target) = .ok inner →
      nested (DomainName.normalize fields.target) inner = ⟨.done policy, inner, queries⟩ →
      first = some (ofIncluded term fields policy) →
      ∃ inner', path'.enter other.maxIncludeDepth (DomainName.normalize fields.target) = .ok inner' ∧
        nested' (DomainName.normalize fields.target) inner' = ⟨.done policy, inner', queries⟩) :
    Built zone other nested' domain path' term first queries := by
  cases built with
  | skipped found lenient => exact .skipped found (skips found lenient)
  | host found read name_eq answered made =>
    have same := (plain_hostAddresses ..).eq_done_of_eq_done answered path'
    exact .host found read name_eq same made
  | literal found read => exact .literal found read
  | all found read => exact .all found read
  | inclusion read entered found =>
    obtain ⟨inner', entered', found'⟩ := within _ _ _ entered found rfl
    exact .inclusion read entered' found'

/-- Terms are built elsewhere as they are here if each of them is. -/
theorem BuiltAll.elsewhere {other : Options} {nested' : String → Inquiry Policy} {path' : IncludePath}
    (built : BuiltAll zone options nested domain path terms directives queries)
    (each : ∀ term first asked, term ∈ terms → first.toList ⊆ directives →
      Built zone options nested domain path term first asked →
      Built zone other nested' domain path' term first asked) :
    BuiltAll zone other nested' domain path' terms directives queries := by
  induction built with
  | nil => exact .nil
  | cons here after ih =>
    have first := each _ _ _ List.mem_cons_self (List.subset_append_left _ _) here
    refine .cons first (ih fun term later asked member within => each term later asked ?_ ?_)
    · exact List.mem_cons_of_mem _ member
    · exact List.Subset.trans within (List.subset_append_right _ _)

/-- Terms succeed with what they are built into, one after the other. -/
theorem ofTerms_eq_done_iff (balanced : ∀ name, (nested name).Balanced) :
    ofTerms zone options nested domain terms path = ⟨.done directives, last, queries⟩ ↔
      BuiltAll zone options nested domain path terms directives queries ∧ last = path := by
  induction terms generalizing path directives queries last with
  | nil =>
    rw [ofTerms, pure_eq_done_iff]
    constructor
    · rintro ⟨rfl, rfl, rfl⟩
      exact ⟨.nil, rfl⟩
    · rintro ⟨built, rfl⟩
      cases built
      exact ⟨rfl, rfl, rfl⟩
  | cons term rest ih =>
    simp only [ofTerms, bind_eq_done_iff, ofTerm?_eq_done_iff balanced, ih, pure_eq_done_iff]
    constructor
    · rintro ⟨first, _, asked, _, ⟨here, rfl⟩, ⟨others, _, more, _, ⟨after, rfl⟩,
        ⟨rfl, rfl, rfl⟩, rfl⟩, rfl⟩
      rw [List.append_nil]
      exact ⟨.cons here after, rfl⟩
    · rintro ⟨built, rfl⟩
      cases built with
      | cons here after =>
        exact ⟨_, last, _, _, ⟨here, rfl⟩, ⟨_, last, _, _, ⟨after, rfl⟩, ⟨rfl, rfl, rfl⟩, rfl⟩,
          by rw [List.append_nil]⟩

/-- A text that is a policy succeeds with what its terms are built into. -/
theorem ofText_eq_done_iff (balanced : ∀ name, (nested name).Balanced) {raw : String} :
    ofText zone options nested domain raw path = ⟨.done directives, last, queries⟩ ↔
      PolicyText.isPolicy raw = true ∧
        BuiltAll zone options nested domain path (PolicyText.terms raw) directives queries ∧
        last = path := by
  unfold ofText
  split
  · next policy => simp only [policy, true_and, ofTerms_eq_done_iff balanced]
  · next other => exact iff_of_false fail_ne_done fun built => other built.1

/-- Terms of two parts are built one part after the other. -/
theorem BuiltAll.exists_append {left right : List String}
    (built : BuiltAll zone options nested domain path (left ++ right) directives queries) :
    ∃ given others asked more, directives = given ++ others ∧ queries = asked ++ more ∧
      BuiltAll zone options nested domain path left given asked ∧
      BuiltAll zone options nested domain path right others more := by
  induction left generalizing directives queries with
  | nil => exact ⟨[], directives, [], queries, rfl, rfl, .nil, built⟩
  | cons term rest ih =>
    cases built with
    | cons here after =>
      obtain ⟨given, others, asked, more, rfl, rfl, first, second⟩ := ih after
      exact ⟨_, others, _, more, (List.append_assoc ..).symm, (List.append_assoc ..).symm,
        .cons here first, second⟩

/-- Every directive comes from a term. -/
theorem BuiltAll.exists_term
    (built : BuiltAll zone options nested domain path terms directives queries)
    (member : directive ∈ directives) : ∃ term ∈ terms, ∃ asked,
      Built zone options nested domain path term (some directive) asked := by
  induction built with
  | nil => cases member
  | @cons term _ first _ _ _ here after ih =>
    rcases List.mem_append.mp member with member | member
    · obtain rfl := Option.mem_toList.mp member
      exact ⟨term, List.mem_cons_self, _, here⟩
    · obtain ⟨term, known, rest⟩ := ih member
      exact ⟨term, List.mem_cons_of_mem _ known, rest⟩

/-- Every term is built, and its directive is among them all. -/
theorem BuiltAll.exists_built
    (built : BuiltAll zone options nested domain path terms directives queries)
    (member : term ∈ terms) : ∃ first asked,
      Built zone options nested domain path term first asked ∧
        ∀ directive, first = some directive → directive ∈ directives := by
  induction built with
  | nil => cases member
  | @cons head rest first others asked more here after ih =>
    rcases List.mem_cons.mp member with rfl | member
    · refine ⟨first, asked, here, fun directive same => ?_⟩
      exact List.mem_append_left _ (Option.mem_toList.mpr same)
    · obtain ⟨later, queries, there, within⟩ := ih member
      exact ⟨later, queries, there, fun directive same =>
        List.mem_append_right _ (within directive same)⟩

end Directive

end SenderPolicy

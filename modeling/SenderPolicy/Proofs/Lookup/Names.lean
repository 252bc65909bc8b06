import SenderPolicy.Proofs.Lookup.Placement
import SenderPolicy.Proofs.Policy.Networks

/-! # The names in a policy

A name is normalised when a look-up starts, when a directive takes it over from its term, and once more
when the policy inside of an include is read. Each time one dot goes from its end. So the names agree with
each other if no domain is written with more than one dot at its end: then the first normal form has settled,
and the policy of an include has the name that the include gives to it.
-/

namespace SenderPolicy

/-- The domain that a term of hosts or an include writes out. -/
def Term.writtenDomain? (term : String) : Option String :=
  match keyword? term with
  | some (.host _) | some .inclusion => ((sections term).head?.bind target?).map String.ofList
  | _ => none

namespace Term

variable {term : String}

theorem writtenDomain?_of_readHost {fields : HostTerm} (read : readHost term = .ok fields) :
    writtenDomain? term = fields.domain := by
  rw [writtenDomain?, keyword?_of_readHost read]
  exact (stated_of_readHost read).1.symm

theorem writtenDomain?_of_readInclusion {fields : InclusionTerm}
    (read : readInclusion term = .ok fields) : writtenDomain? term = some fields.target := by
  obtain ⟨head, target, single, found, -, -, rfl⟩ := readInclusion_eq_ok read
  rw [writtenDomain?, keyword?_of_readInclusion read, single]
  simp [found]

end Term

/-- The name in a directive has settled. For an include it is the name of the policy inside, and the normal
form of the domain that the term writes out; for hosts without a domain of their own, it is the name of the
policy around. -/
def Directive.CoherentIn (around : String) (directive : Directive) : Prop :=
  match directive.mechanism with
  | .host _ name _ _ =>
      DomainName.normalize name = name ∧ (Term.writtenDomain? directive.text = none → name = around)
  | .inclusion name inner =>
      DomainName.normalize name = name ∧ name = inner.domain ∧
        ∃ target, Term.writtenDomain? directive.text = some target ∧ name = DomainName.normalize target
  | .ip _ | .all => True

/-- The name of a policy has settled, and the names in its directives agree with it. -/
structure Policy.Coherent (policy : Policy) : Prop where
  settled : DomainName.normalize policy.domain = policy.domain
  directives : ∀ directive ∈ policy.directives, directive.CoherentIn policy.domain

/-- The text of a policy writes out no domain with more than one dot at its end. -/
def Policy.WrittenPlainly (policy : Policy) : Prop :=
  ∀ term ∈ PolicyText.terms policy.raw, ∀ name, Term.writtenDomain? term = some name →
    DomainName.trailingDots name ≤ 1

instance (policy : Policy) : Decidable policy.WrittenPlainly :=
  inferInstanceAs (Decidable (∀ term ∈ PolicyText.terms policy.raw, ∀ name ∈ Term.writtenDomain? term, _))

namespace Lookup

variable {zone : Zone} {options : Options} {domain : String} {policy inner outer : Policy}
  {qualifier : Qualifier} {text name : String}

/-- A directive of hosts in a policy that is found is stated by a term of its text, and has the name that
the term writes out, or else that of the policy, in normal form. -/
theorem Found.host (found : Found zone options policy) {kind : HostKind} {lengths : PrefixLengths}
    {networks : List Block}
    (member : ⟨qualifier, text, .host kind name lengths networks⟩ ∈ policy.directives) :
    text ∈ PolicyText.terms policy.raw ∧
      name = DomainName.normalize ((Term.writtenDomain? text).getD policy.domain) := by
  obtain ⟨-, room, path, queries, built⟩ := found.text_and_builtAll
  obtain ⟨term, stated, asked, here⟩ := built.exists_term member
  cases here with
  | host _ read name_eq _ _ =>
    rw [Term.writtenDomain?_of_readHost read]
    exact ⟨stated, name_eq⟩

/-- The name of an include that is written plainly is that of the policy inside, and has settled. -/
theorem Found.inclusion_name (found : Found zone options policy) (plain : policy.WrittenPlainly)
    (member : ⟨qualifier, text, .inclusion name inner⟩ ∈ policy.directives) :
    DomainName.normalize name = name ∧ name = inner.domain ∧
      ∃ target, Term.writtenDomain? text = some target ∧ name = DomainName.normalize target := by
  obtain ⟨stated, ⟨fields, read, rfl⟩, -, done⟩ := found.inclusion member
  have written := Term.writtenDomain?_of_readInclusion read
  have settled := DomainName.normalize_normalize (plain text stated _ written)
  have inside := domain_of_lookup done
  rw [settled] at inside
  exact ⟨settled, inside.symm, fields.target, written, rfl⟩

/-- A policy that is found has coherent names if its own name has settled and its text is written plainly. -/
theorem Found.coherent (found : Found zone options policy) (plain : policy.WrittenPlainly)
    (settled : DomainName.normalize policy.domain = policy.domain) : policy.Coherent where
  settled := settled
  directives := by
    rintro ⟨qualifier, text, mechanism⟩ member
    cases mechanism with
    | ip network => trivial
    | all => trivial
    | inclusion name inner => exact found.inclusion_name plain member
    | host kind name lengths networks =>
      obtain ⟨stated, rfl⟩ := found.host member
      cases written : Term.writtenDomain? text with
      | none =>
        rw [Option.getD_none, settled]
        exact ⟨settled, fun _ => rfl⟩
      | some target =>
        refine ⟨DomainName.normalize_normalize (plain text stated target written), fun own => ?_⟩
        rw [written] at own
        cases own

/-- The name of every policy inside of one with a settled name has settled. -/
theorem Found.settled_of_reflTransGen (found : Found zone options policy)
    (plain : ∀ outer, Relation.ReflTransGen Policy.Includes policy outer → outer.WrittenPlainly)
    (settled : DomainName.normalize policy.domain = policy.domain)
    (reaches : Relation.ReflTransGen Policy.Includes policy outer) :
    DomainName.normalize outer.domain = outer.domain := by
  induction reaches with
  | refl => exact settled
  | tail before includes _ =>
    obtain ⟨_, _, _, member⟩ := includes
    obtain ⟨name_settled, rfl, -⟩ :=
      (found.of_reflTransGen before).inclusion_name (plain _ before) member
    exact name_settled

/-- The names in the policy that a look-up finds are coherent, at every depth, if neither the domain that is
looked up nor any domain that the texts of the policies write out has more than one dot at its end. -/
theorem coherent_of_lookup (done : (lookup zone options domain).outcome = .done policy)
    (start : DomainName.trailingDots domain ≤ 1)
    (plain : ∀ outer, Relation.ReflTransGen Policy.Includes policy outer → outer.WrittenPlainly) :
    policy.domain = DomainName.normalize domain ∧
      ∀ outer, Relation.ReflTransGen Policy.Includes policy outer → outer.Coherent := by
  have found := found_of_lookup done
  have name_eq := domain_of_lookup done
  have settled : DomainName.normalize policy.domain = policy.domain := by
    rw [name_eq]
    exact DomainName.normalize_normalize start
  refine ⟨name_eq, fun outer reaches => ?_⟩
  exact (found.of_reflTransGen reaches).coherent (plain outer reaches)
    (found.settled_of_reflTransGen plain settled reaches)

/-- A domain with a policy inside of a policy, in each of which hosts are meant without a domain. -/
def nestedZone : Zone :=
  let texts := [("a", ["v=spf1 MX include:C. -all"]), ("c", ["v=spf1 a:B./24 a include:d"]),
    ("d", ["v=spf1 ?mx"])]
  texts.foldl (fun zone entry => zone.setTxt entry.1 entry.2) {}

def deepestPolicy : Policy := ⟨"d", "v=spf1 ?mx", [⟨.neutral, "?mx", .host .mx "d" ⟨32, 128⟩ []⟩]⟩

def betweenPolicy : Policy :=
  ⟨"c", "v=spf1 a:B./24 a include:d", [⟨.pass, "a:B./24", .host .a "b" ⟨24, 128⟩ []⟩,
    ⟨.pass, "a", .host .a "c" ⟨32, 128⟩ []⟩, ⟨.pass, "include:d", .inclusion "d" deepestPolicy⟩]⟩

def nestedPolicy : Policy :=
  ⟨"a", "v=spf1 MX include:C. -all", [⟨.pass, "MX", .host .mx "a" ⟨32, 128⟩ []⟩,
    ⟨.pass, "include:C.", .inclusion "c" betweenPolicy⟩, ⟨.fail, "-all", .all⟩]⟩

theorem eq_of_nestedPolicy_reaches (reaches : Relation.ReflTransGen Policy.Includes nestedPolicy outer) :
    outer = nestedPolicy ∨ outer = betweenPolicy ∨ outer = deepestPolicy := by
  induction reaches with
  | refl => exact .inl rfl
  | @tail _ inner _ includes ih =>
    obtain ⟨qualifier, text, name, member⟩ := includes
    rcases ih with rfl | rfl | rfl
    · have stated : qualifier = .pass ∧ text = "include:C." ∧ name = "c" ∧ inner = betweenPolicy := by
        simpa [nestedPolicy] using member
      exact .inr (.inl stated.2.2.2)
    · have stated : qualifier = .pass ∧ text = "include:d" ∧ name = "d" ∧ inner = deepestPolicy := by
        simpa [betweenPolicy] using member
      exact .inr (.inr stated.2.2.2)
    · exact absurd member (by simp [deepestPolicy])

theorem coherent_of_lookup_nested :
    (lookup nestedZone {} "A.").outcome = .done nestedPolicy ∧
    nestedPolicy.Coherent ∧ betweenPolicy.Coherent ∧ deepestPolicy.Coherent := by
  have done : (lookup nestedZone {} "A.").outcome = .done nestedPolicy := by decide +kernel
  have plain : ∀ outer, Relation.ReflTransGen Policy.Includes nestedPolicy outer →
      outer.WrittenPlainly := by
    intro outer reaches
    rcases eq_of_nestedPolicy_reaches reaches with rfl | rfl | rfl <;> decide +kernel
  have coherent := (coherent_of_lookup done (by decide +kernel) plain).2
  have between : nestedPolicy.Includes betweenPolicy :=
    ⟨_, _, _, List.mem_cons_of_mem _ List.mem_cons_self⟩
  have deepest : betweenPolicy.Includes deepestPolicy :=
    ⟨_, _, _, List.mem_cons_of_mem _ (List.mem_cons_of_mem _ List.mem_cons_self)⟩
  exact ⟨done, coherent _ .refl, coherent _ (.single between), coherent _ (.tail (.single between) deepest)⟩

end Lookup

end SenderPolicy

import Mathlib.Logic.Relation
import SenderPolicy.Proofs.Lookup.Termination
import SenderPolicy.Proofs.Policy.Hosts

/-! # Look-ups and the graph of includes

The policies of a zone form a graph, with an edge from each name to the names that are read inside of
its includes. A look-up goes down this graph as into a tree: it succeeds when there is no cycle below
its start and each policy there can be built by itself. No names may be confused for this, so the start
ends in at most one dot and the includes in at most two.
-/

namespace SenderPolicy

namespace Zone

/-- The policy of a name includes that of another. -/
def Includes (zone : Zone) (name inner : String) : Prop :=
  ∃ raw target, zone.policyText? name = some raw ∧ target ∈ PolicyText.inclusions raw ∧
    inner = DomainName.normalize (DomainName.normalize target)

/-- A name has a policy, and all terms of it are accepted. -/
def InOrder (zone : Zone) (name : String) : Prop :=
  ∃ raw, zone.policyText? name = some raw ∧ ∀ term ∈ PolicyText.terms raw, zone.Accepts name term

def AcyclicFrom (zone : Zone) (name : String) : Prop :=
  ∀ node, Relation.ReflTransGen zone.Includes name node → ¬Relation.TransGen zone.Includes node node

def InOrderFrom (zone : Zone) (name : String) : Prop :=
  ∀ node, Relation.ReflTransGen zone.Includes name node → zone.InOrder node

variable {zone : Zone} {name inner raw term : String} {fields : Term.InclusionTerm}

/-- A term that reads as an include is an edge. -/
theorem Includes.ofTerm (found : zone.policyText? name = some raw)
    (member : term ∈ PolicyText.terms raw) (read : Term.readInclusion term = .ok fields) :
    zone.Includes name (DomainName.normalize (DomainName.normalize fields.target)) :=
  ⟨raw, fields.target, found, PolicyText.mem_inclusions member read, rfl⟩

/-- Every edge comes from a term that reads as an include. -/
theorem Includes.exists_term (includes : zone.Includes name inner)
    (found : zone.policyText? name = some raw) :
    ∃ term ∈ PolicyText.terms raw, ∃ fields, Term.readInclusion term = .ok fields ∧
      inner = DomainName.normalize (DomainName.normalize fields.target) := by
  obtain ⟨other, target, same, included, rfl⟩ := includes
  rw [found] at same
  cases same
  obtain ⟨term, member, reads⟩ := List.mem_filterMap.mp included
  cases read : Term.readInclusion term with
  | error fault => simp [read] at reads
  | ok fields =>
    simp only [read, Option.some.injEq] at reads
    exact ⟨term, member, fields, read, by rw [reads]⟩

/-- A name is at the top of no cycle if none can be reached from what it includes. -/
theorem acyclicFrom_of_includes (below : ∀ inner, zone.Includes name inner → zone.AcyclicFrom inner) :
    zone.AcyclicFrom name := by
  intro node reaches cycle
  rcases reaches.cases_head with rfl | ⟨inner, includes, rest⟩
  · obtain ⟨inner, includes, back⟩ := Relation.TransGen.head'_iff.mp cycle
    exact below inner includes name back cycle
  · exact below inner includes node rest cycle

theorem inOrderFrom_of_includes (here : zone.InOrder name)
    (below : ∀ inner, zone.Includes name inner → zone.InOrderFrom inner) : zone.InOrderFrom name := by
  intro node reaches
  rcases reaches.cases_head with rfl | ⟨inner, includes, rest⟩
  · exact here
  · exact below inner includes node rest

theorem AcyclicFrom.below (acyclic : zone.AcyclicFrom name) (includes : zone.Includes name inner) :
    zone.AcyclicFrom inner := fun node reaches => acyclic node (.head includes reaches)

theorem InOrderFrom.below (inOrder : zone.InOrderFrom name) (includes : zone.Includes name inner) :
    zone.InOrderFrom inner := fun node reaches => inOrder node (.head includes reaches)

end Zone

namespace Lookup

variable {zone : Zone} {options : Options} {domain : String} {path : IncludePath}

/-- What a look-up that succeeds has been through: a finite tree of policies in order. -/
theorem acyclic_and_inOrder_of_done (lenient : options.strict = false) {room : Nat}
    (done : (policyWithin zone options room domain path).outcome.cause? = none) :
    zone.AcyclicFrom (DomainName.normalize domain) ∧
      zone.InOrderFrom (DomainName.normalize domain) := by
  induction room generalizing domain path with
  | zero => contradiction
  | succ room ih =>
    cases found : zone.policyText? (DomainName.normalize domain) with
    | none =>
      obtain ⟨error, stopped⟩ := policyWithin_cause?_of_no_text zone options found
      rw [stopped] at done
      contradiction
    | some raw =>
      rw [policyWithin_cause?_of_text found, List.findSome?_eq_none_iff] at done
      have here : zone.InOrder (DomainName.normalize domain) := by
        refine ⟨raw, found, fun term member => ?_⟩
        cases read : Term.readInclusion term with
        | error fault => exact (Directive.ofTerm?_cause?_eq_none_iff lenient read).mp (done term member)
        | ok fields => exact zone.accepts_of_readInclusion _ read
      have below (inner : String) (includes : zone.Includes (DomainName.normalize domain) inner) :
          zone.AcyclicFrom inner ∧ zone.InOrderFrom inner := by
        obtain ⟨term, member, fields, read, rfl⟩ := includes.exists_term found
        have built := done term member
        cases entered : path.enter options.maxIncludeDepth (DomainName.normalize fields.target) with
        | error error =>
          rw [Directive.ofTerm?_cause?_of_refused read entered] at built
          contradiction
        | ok inner =>
          rw [Directive.ofTerm?_cause?_of_entered read entered] at built
          exact ih built
      exact ⟨Zone.acyclicFrom_of_includes fun inner includes => (below inner includes).1,
        Zone.inOrderFrom_of_includes here fun inner includes => (below inner includes).2⟩

/-- The names on the path are settled, and each of them leads to the policy being read. -/
structure LeadsTo (zone : Zone) (path : IncludePath) (name : String) : Prop where
  settled : ∀ outer ∈ path.names, DomainName.normalize outer = outer
  reaches : ∀ outer ∈ path.names, Relation.ReflTransGen zone.Includes outer name

theorem LeadsTo.extend {name target : String} (leads : LeadsTo zone path name)
    (includes : zone.Includes name (DomainName.normalize target))
    (settled : DomainName.normalize (DomainName.normalize target) = DomainName.normalize target) :
    LeadsTo zone (path.extend target) (DomainName.normalize target) where
  settled outer member := by
    rcases List.mem_cons.mp member with rfl | member
    · exact settled
    · exact leads.settled outer member
  reaches outer member := by
    rcases List.mem_cons.mp member with rfl | member
    · exact .refl
    · exact (leads.reaches outer member).tail includes

/-- Below a name from which no cycle can be reached, no include is refused as a loop. -/
theorem LeadsTo.holds_eq_false {name target : String} (leads : LeadsTo zone path name)
    (acyclic : zone.AcyclicFrom name) (includes : zone.Includes name (DomainName.normalize target)) :
    path.holds target = false := by
  apply Bool.eq_false_iff.mpr
  intro held
  obtain ⟨outer, member, same⟩ := IncludePath.holds_iff.mp held
  have back := leads.reaches outer member
  rw [leads.settled outer member] at same
  rw [same] at back
  exact acyclic _ (.single includes) (.tail' back includes)

/-- Where no cycle can be reached and all is in order, nothing stops with an error. -/
theorem not_failed_of_acyclic (lenient : options.strict = false)
    (unlimited : options.maxIncludeDepth = none) (few : FewDots zone) {room : Nat}
    (leads : LeadsTo zone path (DomainName.normalize domain))
    (acyclic : zone.AcyclicFrom (DomainName.normalize domain))
    (inOrder : zone.InOrderFrom (DomainName.normalize domain)) (error : PolicyError) :
    (policyWithin zone options room domain path).outcome.cause? ≠ some (.error error) := by
  induction room generalizing domain path with
  | zero => exact nofun
  | succ room ih =>
    obtain ⟨raw, found, accepted⟩ := inOrder _ .refl
    rw [policyWithin_cause?_of_text found]
    intro stopped
    obtain ⟨term, member, stops⟩ := List.exists_of_findSome?_eq_some stopped
    cases read : Term.readInclusion term with
    | error fault =>
      rw [(Directive.ofTerm?_cause?_eq_none_iff lenient read).mpr (accepted term member)] at stops
      contradiction
    | ok fields =>
      have includes := Zone.Includes.ofTerm found member read
      have included := Zone.target_mem_inclusions found member read
      have unheld := leads.holds_eq_false acyclic includes
      have entered := IncludePath.enter_none_eq_ok_iff.mpr ⟨unheld, rfl⟩
      rw [← unlimited] at entered
      rw [Directive.ofTerm?_cause?_of_entered read entered] at stops
      exact ih (leads.extend includes (few.settled included)) (acyclic.below includes)
        (inOrder.below includes) stops

/-- A look-up succeeds exactly when no cycle can be reached from its start and every policy that can be
reached is in order. -/
theorem lookup_done_iff {domain : String} (start : DomainName.trailingDots domain ≤ 1)
    (few : ∀ target ∈ inclusions zone, DomainName.trailingDots target ≤ 2) :
    (∃ policy, (lookup zone {} domain).outcome = .done policy) ↔
      (∀ node, Relation.ReflTransGen zone.Includes (DomainName.normalize domain) node →
        ¬Relation.TransGen zone.Includes node node) ∧
      (∀ node, Relation.ReflTransGen zone.Includes (DomainName.normalize domain) node →
        zone.InOrder node) := by
  rw [← Outcome.cause?_eq_none_iff]
  constructor
  · exact acyclic_and_inOrder_of_done rfl
  · rintro ⟨acyclic, inOrder⟩
    have leads : LeadsTo zone (.ofRoot domain) (DomainName.normalize domain) := by
      constructor
      · intro outer member
        rw [List.mem_singleton.mp member]
        exact DomainName.normalize_normalize start
      · intro outer member
        rw [List.mem_singleton.mp member]
    cases stopped : (lookup zone {} domain).outcome.cause? with
    | none => rfl
    | some cause =>
      cases cause with
      | error error =>
        exact absurd stopped (not_failed_of_acyclic rfl rfl few leads acyclic inOrder error)
      | endless =>
        exact absurd (Outcome.cause?_eq_endless_iff.mp stopped) (FewDots.lookup_ends few {} domain)

def diamondZone : Zone :=
  let texts := [("a", ["v=spf1 include:b include:c.. -all"]), ("b", ["v=spf1 include:d"]),
    ("c", ["v=spf1 mx include:D."]), ("d", ["other text", "v=spf1 ip4:10.0.0.0/8"])]
  texts.foldl (fun zone entry => zone.setTxt entry.1 entry.2) {}

/-- The look-up of a diamond succeeds, and that of a cycle does not. -/
theorem lookup_done_iff_diamond :
    DomainName.trailingDots "A." ≤ 1 ∧
    (∀ target ∈ inclusions diamondZone, DomainName.trailingDots target ≤ 2) ∧
    (∀ node, Relation.ReflTransGen diamondZone.Includes "a" node → diamondZone.InOrder node) ∧
    ¬∃ policy, (lookup mutualZone {} "a").outcome = .done policy := by
  have few : ∀ target ∈ inclusions diamondZone, DomainName.trailingDots target ≤ 2 := by decide +kernel
  have done : (lookup diamondZone {} "A.").outcome.cause? = none := by decide +kernel
  have whole := (lookup_done_iff (by decide) few).mp (Outcome.cause?_eq_none_iff.mp done)
  refine ⟨by decide, few, whole.2, fun succeeds => ?_⟩
  have fewMutual : ∀ target ∈ inclusions mutualZone, DomainName.trailingDots target ≤ 2 := by
    decide +kernel
  have broken := (lookup_done_iff (by decide) fewMutual).mp succeeds
  have there : mutualZone.Includes "a" "b" :=
    ⟨"v=spf1 include:B.", "B.", by decide +kernel, by decide +kernel, by decide +kernel⟩
  have back : mutualZone.Includes "b" "a" :=
    ⟨"v=spf1 include:a.. -all", "a..", by decide +kernel, by decide +kernel, by decide +kernel⟩
  exact broken.1 "a" .refl (.tail (.single there) back)

end Lookup

end SenderPolicy

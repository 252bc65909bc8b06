import Mathlib.Logic.Relation
import SenderPolicy.Policy.Basic
import SenderPolicy.Proofs.Lookup.Room

/-! # Where a policy is found

The path on which a policy is read can keep it from being found, but leaves no mark on a policy that is
found: with the same queries the same policy is found on every freer path. So a policy inside of an
include is the one that a look-up of the included domain gives.
-/

namespace SenderPolicy

/-- A directive of one policy includes another. -/
def Policy.Includes (outer inner : Policy) : Prop :=
  ∃ qualifier text domain, (⟨qualifier, text, .inclusion domain inner⟩ : Directive) ∈ outer.directives

variable {zone : Zone} {options other : Options} {nested nested' : String → Inquiry Policy}
  {domain term : String} {path freer : IncludePath} {queries : List Query}

namespace Directive

/-- On a freer path the policies of includes are found as well. -/
def FoundAlike (options other : Options) (nested nested' : String → Inquiry Policy) : Prop :=
  ∀ name inner freer policy queries,
    freer.Freer other.maxIncludeDepth inner options.maxIncludeDepth →
    nested name inner = ⟨.done policy, inner, queries⟩ →
    nested' name freer = ⟨.done policy, freer, queries⟩

theorem Built.of_freer (strict : other.strict = options.strict)
    (within : FoundAlike options other nested nested')
    (free : freer.Freer other.maxIncludeDepth path options.maxIncludeDepth)
    {first : Option Directive} (built : Built zone options nested domain path term first queries) :
    Built zone other nested' domain freer term first queries := by
  refine built.elsewhere (fun _ lenient => strict.trans lenient) fun fields inner policy entered found _ => ?_
  obtain ⟨freerInner, freerEntered, freeInner⟩ := free.enter entered
  exact ⟨freerInner, freerEntered, within _ _ _ _ _ freeInner found⟩

theorem BuiltAll.of_freer (strict : other.strict = options.strict)
    (within : FoundAlike options other nested nested')
    (free : freer.Freer other.maxIncludeDepth path options.maxIncludeDepth)
    {terms : List String} {directives : List Directive}
    (built : BuiltAll zone options nested domain path terms directives queries) :
    BuiltAll zone other nested' domain freer terms directives queries :=
  built.elsewhere fun _ _ _ _ _ here => here.of_freer strict within free

end Directive

namespace Lookup

/-- What is found on a path is found on every freer one. -/
theorem policyWithin_of_freer (strict : other.strict = options.strict) {room : Nat} {policy : Policy}
    (free : freer.Freer other.maxIncludeDepth path options.maxIncludeDepth)
    (done : policyWithin zone options room domain path = ⟨.done policy, path, queries⟩) :
    policyWithin zone other room domain freer = ⟨.done policy, freer, queries⟩ := by
  induction room generalizing domain path freer policy queries with
  | zero => cases done
  | succ room ih =>
    obtain ⟨raw, directives, asked, found, built, policy_eq, -, queries_eq⟩ :=
      policyWithin_eq_done_iff.mp done
    have within : Directive.FoundAlike options other (policyWithin zone options room)
        (policyWithin zone other room) := fun _ _ _ _ _ free done => ih free done
    exact policyWithin_eq_done_iff.mpr
      ⟨raw, directives, asked, found, built.of_freer strict within free, policy_eq, rfl, queries_eq⟩

/-- A policy inside of an include is what a look-up of the included domain gives. -/
theorem lookup_of_entered {limit? : Option Nat} {outer inner : IncludePath} {room : Nat}
    {policy : Policy} (limit_eq : limit? = options.maxIncludeDepth)
    (entered : outer.enter limit? domain = .ok inner)
    (done : policyWithin zone options room domain inner = ⟨.done policy, inner, queries⟩) :
    (lookup zone options domain).outcome = .done policy := by
  subst limit_eq
  have found := policyWithin_of_freer rfl (IncludePath.freer_ofRoot entered) done
  rw [lookup_eq_of_policyWithin found nofun]

/-- A policy that is found at the start of a look-up or inside of an include. -/
def Found (zone : Zone) (options : Options) (policy : Policy) : Prop :=
  ∃ room domain path queries,
    policyWithin zone options (room + 1) domain path = ⟨.done policy, path, queries⟩

variable {policy inner outer : Policy}

theorem found_of_policyWithin {room : Nat}
    (done : policyWithin zone options room domain path = ⟨.done policy, path, queries⟩) :
    Found zone options policy := by
  cases room with
  | zero => cases done
  | succ room => exact ⟨room, domain, path, queries, done⟩

theorem found_of_lookup (done : (lookup zone options domain).outcome = .done policy) :
    Found zone options policy := by
  obtain ⟨room, queries, found⟩ := exists_policyWithin_of_lookup done
  exact found_of_policyWithin found

/-- A look-up finds the policy of the normal form of its domain. -/
theorem domain_of_lookup (done : (lookup zone options domain).outcome = .done policy) :
    policy.domain = DomainName.normalize domain := by
  obtain ⟨room, queries, found⟩ := exists_policyWithin_of_lookup done
  cases room with
  | zero => cases found
  | succ room =>
    obtain ⟨raw, directives, asked, -, -, rfl, -⟩ := policyWithin_eq_done_iff.mp found
    rfl

/-- The text of a policy that is found is the one of its name, and its directives are built from the terms
of this text. -/
theorem Found.text_and_builtAll (found : Found zone options policy) :
    zone.policyText? policy.domain = some policy.raw ∧ ∃ room path queries,
      Directive.BuiltAll zone options (policyWithin zone options room) policy.domain path
        (PolicyText.terms policy.raw) policy.directives queries := by
  obtain ⟨room, domain, path, queries, done⟩ := found
  obtain ⟨raw, directives, asked, text, built, rfl, -⟩ := policyWithin_eq_done_iff.mp done
  exact ⟨text, room, path, asked, built⟩

theorem Found.text (found : Found zone options policy) :
    zone.policyText? policy.domain = some policy.raw :=
  found.text_and_builtAll.1

/-- An include of a policy that is found is stated by a term of its text, and includes what a look-up of
its domain gives. -/
theorem Found.inclusion (found : Found zone options policy) {qualifier : Qualifier} {text : String}
    (member : ⟨qualifier, text, .inclusion domain inner⟩ ∈ policy.directives) :
    text ∈ PolicyText.terms policy.raw ∧
      (∃ fields, Term.readInclusion text = .ok fields ∧
        domain = DomainName.normalize fields.target) ∧
      Found zone options inner ∧ (lookup zone options domain).outcome = .done inner := by
  obtain ⟨-, room, path, queries, built⟩ := found.text_and_builtAll
  obtain ⟨term, stated, asked, here⟩ := built.exists_term member
  cases here with
  | inclusion read entered within =>
    exact ⟨stated, ⟨_, read, rfl⟩, found_of_policyWithin within, lookup_of_entered rfl entered within⟩

/-- Every term of its text that reads as an include is an include of a policy that is found. -/
theorem Found.exists_inclusion (found : Found zone options policy)
    (member : term ∈ PolicyText.terms policy.raw) {fields : Term.InclusionTerm}
    (read : Term.readInclusion term = .ok fields) : ∃ inner,
      ⟨fields.qualifier, term, .inclusion (DomainName.normalize fields.target) inner⟩ ∈
        policy.directives := by
  obtain ⟨-, room, path, queries, built⟩ := found.text_and_builtAll
  obtain ⟨first, asked, here, within⟩ := built.exists_built member
  obtain ⟨_, inner, _, _, rfl⟩ := here.of_readInclusion read
  exact ⟨inner, within _ rfl⟩

theorem Found.of_reflTransGen (found : Found zone options policy)
    (reaches : Relation.ReflTransGen Policy.Includes policy outer) : Found zone options outer := by
  induction reaches with
  | refl => exact found
  | tail _ includes ih =>
    obtain ⟨_, _, _, member⟩ := includes
    exact (ih.inclusion member).2.2.1

/-- A policy does not depend on where it is included. Inside of an include, at any depth, it is the one
that a look-up of the included domain gives. What is found on a path is found with the same queries on
every other path, under any limit, that holds no other names and has as many includes left. -/
theorem found_wherever_included (zone : Zone) (options : Options) :
    (∀ domain policy, (lookup zone options domain).outcome = .done policy →
      ∀ outer, Relation.ReflTransGen Policy.Includes policy outer →
      ∀ qualifier text included inner,
        (⟨qualifier, text, .inclusion included inner⟩ : Directive) ∈ outer.directives →
        (lookup zone options included).outcome = .done inner) ∧
    ∀ (other : Options) (room : Nat) (domain : String) (path freer : IncludePath) (policy : Policy),
      other.strict = options.strict → freer.names ⊆ path.names →
      path.budget options.maxIncludeDepth ≤ freer.budget other.maxIncludeDepth →
      (policyWithin zone options room domain path).outcome = .done policy →
      (policyWithin zone other room domain freer).outcome = .done policy ∧
        (policyWithin zone other room domain freer).queries =
          (policyWithin zone options room domain path).queries := by
  constructor
  · intro domain policy done outer reaches qualifier text included inner member
    exact (((found_of_lookup done).of_reflTransGen reaches).inclusion member).2.2.2
  · intro other room domain path freer policy strict names budget done
    have balanced := balanced_policyWithin zone options room domain
    obtain ⟨queries, found⟩ := balanced.outcome_eq_done_iff.mp done
    rw [policyWithin_of_freer strict ⟨names, budget⟩ found, found]
    exact ⟨rfl, rfl⟩

/-- A domain that another includes at once and by way of a third. -/
def shortcutZone : Zone :=
  let texts := [("a", ["v=spf1 include:B. include:c -all"]), ("b", ["v=spf1 a include:c.."]),
    ("c", ["v=spf1 ip4:10.0.0.0/8"])]
  texts.foldl (fun zone entry => zone.setTxt entry.1 entry.2)
    (({} : Zone).setIp "b" [.v4 0x0A000001#32])

def lastPolicy : Policy :=
  ⟨"c", "v=spf1 ip4:10.0.0.0/8", [⟨.pass, "ip4:10.0.0.0/8", .ip (.v4 0x0A000000#32 8)⟩]⟩

def middlePolicy : Policy :=
  ⟨"b", "v=spf1 a include:c..", [⟨.pass, "a", .host .a "b" ⟨32, 128⟩ [.v4 0x0A000001#32 32]⟩,
    ⟨.pass, "include:c..", .inclusion "c." lastPolicy⟩]⟩

def shortcutPolicy : Policy :=
  ⟨"a", "v=spf1 include:B. include:c -all", [⟨.pass, "include:B.", .inclusion "b" middlePolicy⟩,
    ⟨.pass, "include:c", .inclusion "c" lastPolicy⟩, ⟨.fail, "-all", .all⟩]⟩

theorem lookup_shortcut : (lookup shortcutZone ⟨false, some 2⟩ "A").outcome = .done shortcutPolicy := by
  decide +kernel

/-- The policies inside are found by themselves, and the middle one also without any limit. -/
theorem found_wherever_included_shortcut :
    (lookup shortcutZone ⟨false, some 2⟩ "b").outcome = .done middlePolicy ∧
    (lookup shortcutZone ⟨false, some 2⟩ "c.").outcome = .done lastPolicy ∧
    (policyWithin shortcutZone {} 2 "b" .outside).outcome = .done middlePolicy := by
  have law := found_wherever_included shortcutZone ⟨false, some 2⟩
  have reaches : Relation.ReflTransGen Policy.Includes shortcutPolicy middlePolicy :=
    .single ⟨_, _, _, List.mem_cons_self⟩
  refine ⟨?_, ?_, ?_⟩
  · exact law.1 "A" _ lookup_shortcut _ .refl _ _ _ _ List.mem_cons_self
  · exact law.1 "A" _ lookup_shortcut _ reaches _ _ _ _ (List.mem_cons_of_mem _ List.mem_cons_self)
  · have deep : (policyWithin shortcutZone ⟨false, some 2⟩ 2 "b" ⟨["b", "a"], 1⟩).outcome =
        .done middlePolicy := by decide +kernel
    exact (law.2 {} 2 "b" ⟨["b", "a"], 1⟩ .outside _ rfl (List.nil_subset _) le_top deep).1

end Lookup

end SenderPolicy

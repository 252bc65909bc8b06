import SenderPolicy.Policy.Basic
import SenderPolicy.Proofs.Lookup.Indifference
import SenderPolicy.Proofs.Lookup.Room

/-! # Includes that stand by themselves

An include that is built by itself enters its domain from outside of every policy, where a look-up starts
with the domain. The two paths hold the same names, but the include is one deeper. So the include comes
to what a look-up of its domain comes to under a limit that is one lower.
-/

namespace SenderPolicy

open Inquiry

/-- From outside of every policy a domain is let in, unless the limit allows for no include at all. -/
theorem IncludePath.enter_outside (limit? : Option Nat) (domain : String) :
    outside.enter (limit?.map (· + 1)) domain = .ok ((ofRoot domain).deeper 1) := by
  cases limit? <;> rfl

namespace Lookup

variable {zone : Zone} {strict : Bool} {domain : String}

/-- Further inside, and under a limit that is as much higher, a policy ends as it does at the start. -/
theorem policyWithin_deeper (zone : Zone) (strict : Bool) (room : Nat) (domain : String) (offset : Nat)
    (limit? : Option Nat) (f : Nat → Nat)
    (higher : ∀ limit, limit? = some limit → f limit = limit + offset) :
    (policyWithin zone ⟨strict, limit?.map (· + offset)⟩ room domain
          ((IncludePath.ofRoot domain).deeper offset)).outcome =
        (policyWithin zone ⟨strict, limit?⟩ room domain (.ofRoot domain)).outcome.mapError
          (.mapLimit f) ∧
      (policyWithin zone ⟨strict, limit?.map (· + offset)⟩ room domain
          ((IncludePath.ofRoot domain).deeper offset)).queries =
        (policyWithin zone ⟨strict, limit?⟩ room domain (.ofRoot domain)).queries := by
  have simulation := simulation_carried (IncludePath.parallel_deeper offset higher) zone strict
  obtain ⟨-, goes⟩ := simulation.policyWithin (carried_stop .unending) room domain _ _ rfl
  rw [goes]
  exact ⟨rfl, rfl⟩

/-- A look-up that fails for the depth names its limit. -/
theorem lookup_tooDeep_limit {limit told : Nat} {name : String}
    (failed : (lookup zone ⟨strict, some limit⟩ domain).outcome =
      .failed (.inclusionTooDeep name told)) : told = limit := by
  -- The look-up is parallel to itself even if every other limit is replaced by its own.
  have same : (lookup zone ⟨strict, some limit⟩ domain).outcome =
      (lookup zone ⟨strict, some limit⟩ domain).outcome.mapError (.mapLimit fun _ => limit) :=
    (policyWithin_deeper zone strict (limit + 1) domain 0 (some limit) (fun _ => limit)
      fun _ given => Option.some.inj given).1
  rw [failed] at same
  simpa [Outcome.mapError, PolicyError.mapLimit] using same

/-- Inside of one include, a policy under a limit has an end in less room than an include is given. -/
theorem policyWithin_spare_room (zone : Zone) (strict : Bool) (limit : Nat) (domain : String) :
    policyWithin zone ⟨strict, some (limit + 1)⟩ (limit + 2) domain
        ((IncludePath.ofRoot domain).deeper 1) =
      policyWithin zone ⟨strict, some (limit + 1)⟩ (limit + 1) domain
        ((IncludePath.ofRoot domain).deeper 1) := by
  apply extends_policyWithin (Nat.le_succ (limit + 1))
  apply policyWithin_ends_of_limit rfl (Nat.succ_pos limit)
  simp only [IncludePath.deeper, IncludePath.ofRoot]
  omega

end Lookup

namespace Directive

variable {term domain : String} {fields : Term.InclusionTerm}

/-- An include comes to what its policy comes to at the start, in any room that is enough inside. -/
theorem inclusion_of_room (zone : Zone) (strict : Bool) (limit? : Option Nat) (f : Nat → Nat)
    (higher : ∀ limit, limit? = some limit → f limit = limit + 1)
    (read : Term.readInclusion term = .ok fields)
    (named : DomainName.normalize fields.target = domain) {room : Nat}
    (enough : Lookup.policyWithin zone ⟨strict, limit?.map (· + 1)⟩
        (Lookup.room ⟨strict, limit?.map (· + 1)⟩ (Lookup.inclusions zone).length) domain
        ((IncludePath.ofRoot domain).deeper 1) =
      Lookup.policyWithin zone ⟨strict, limit?.map (· + 1)⟩ room domain
        ((IncludePath.ofRoot domain).deeper 1)) :
    (inclusion zone ⟨strict, limit?.map (· + 1)⟩ term).outcome =
        ((Lookup.policyWithin zone ⟨strict, limit?⟩ room domain (.ofRoot domain)).outcome.mapError
          (.mapLimit f)).map (ofIncluded term fields) ∧
      (inclusion zone ⟨strict, limit?.map (· + 1)⟩ term).queries =
        (Lookup.policyWithin zone ⟨strict, limit?⟩ room domain (.ofRoot domain)).queries := by
  subst named
  obtain ⟨outcome, queries⟩ := Lookup.policyWithin_deeper zone strict room
    (DomainName.normalize fields.target) 1 limit? f higher
  have balanced := Lookup.balanced_policyWithin zone ⟨strict, limit?.map (· + 1)⟩
    (Lookup.room ⟨strict, limit?.map (· + 1)⟩ (Lookup.inclusions zone).length)
    (DomainName.normalize fields.target)
  rw [inclusion, ofInclusion_of_readInclusion read, map_apply,
    balanced.inside_apply (IncludePath.enter_outside limit? _), enough]
  exact ⟨congrArg (Outcome.map _) outcome, queries⟩

/-- An include that may not be entered asks nothing. -/
theorem inclusion_of_no_depth (zone : Zone) (strict : Bool)
    (read : Term.readInclusion term = .ok fields)
    (named : DomainName.normalize fields.target = domain) :
    inclusion zone ⟨strict, some 0⟩ term =
      ⟨.failed (.inclusionTooDeep domain 0), .outside, []⟩ := by
  subst named
  rw [inclusion, ofInclusion_of_readInclusion read, map_apply]
  rfl

/-- An include that stands by itself agrees with a look-up of its domain. Without a limit both come to
the same policy or the same error, with the same queries. Under a limit the look-up agrees under the limit
below it, except that an error about the depth names the limit of the include and not its own. Where no
include is allowed, the include fails for the depth and asks nothing. -/
theorem inclusion_eq_lookup (zone : Zone) (strict : Bool)
    (read : Term.readInclusion term = .ok fields)
    (named : DomainName.normalize fields.target = domain) :
    ((inclusion zone ⟨strict, none⟩ term).outcome =
        (lookup zone ⟨strict, none⟩ domain).outcome.map
          (fun policy => ⟨fields.qualifier, term, .inclusion domain policy⟩) ∧
      (inclusion zone ⟨strict, none⟩ term).queries = (lookup zone ⟨strict, none⟩ domain).queries) ∧
    (∀ limit,
      (inclusion zone ⟨strict, some (limit + 1)⟩ term).outcome =
          ((lookup zone ⟨strict, some limit⟩ domain).outcome.mapError
            (.mapLimit fun _ => limit + 1)).map
            (fun policy => ⟨fields.qualifier, term, .inclusion domain policy⟩) ∧
        (inclusion zone ⟨strict, some (limit + 1)⟩ term).queries =
          (lookup zone ⟨strict, some limit⟩ domain).queries ∧
        ∀ name told, (lookup zone ⟨strict, some limit⟩ domain).outcome =
          .failed (.inclusionTooDeep name told) → told = limit) ∧
    (inclusion zone ⟨strict, some 0⟩ term).outcome = .failed (.inclusionTooDeep domain 0) ∧
      (inclusion zone ⟨strict, some 0⟩ term).queries = [] := by
  have included : (fun policy => ⟨fields.qualifier, term, .inclusion domain policy⟩) =
      ofIncluded term fields := by
    subst named
    rfl
  rw [included, inclusion_of_no_depth zone strict read named]
  refine ⟨?_, fun limit => ?_, rfl, rfl⟩
  · have alike := inclusion_of_room zone strict none id nofun read named rfl
    rw [PolicyError.mapLimit_id, Outcome.mapError_id] at alike
    exact alike
  · obtain ⟨outcome, queries⟩ := inclusion_of_room zone strict (some limit) (fun _ => limit + 1)
      (fun _ given => congrArg (· + 1) (Option.some.inj given)) read named
      (Lookup.policyWithin_spare_room zone strict limit domain)
    exact ⟨outcome, queries, fun _ _ => Lookup.lookup_tooDeep_limit⟩

def chainedZone : Zone :=
  ((({} : Zone).setTxt "a" ["v=spf1 mx include:B. -all"]).setTxt "b" ["v=spf1 include:c"]).setTxt "c"
    ["v=spf1 ?all"]

/-- One limit is too low by one for the last include of the chain, whichever way it is reached. -/
theorem inclusion_eq_lookup_chained :
    Term.readInclusion "~include:A." = .ok ⟨.softFail, "A."⟩ ∧ DomainName.normalize "A." = "a" ∧
    (lookup chainedZone ⟨true, some 1⟩ "a").outcome = .failed (.inclusionTooDeep "c" 1) ∧
    (inclusion chainedZone ⟨true, some 2⟩ "~include:A.").outcome =
      .failed (.inclusionTooDeep "c" 2) ∧
    (inclusion chainedZone ⟨true, some 2⟩ "~include:A.").queries =
      [⟨.txt, "a"⟩, ⟨.mx, "a"⟩, ⟨.txt, "b"⟩] ∧
    ∃ policy, (lookup chainedZone ⟨true, none⟩ "a").outcome = .done policy ∧
      (inclusion chainedZone ⟨true, none⟩ "~include:A.").outcome =
        .done ⟨.softFail, "~include:A.", .inclusion "a" policy⟩ := by
  have read : Term.readInclusion "~include:A." = .ok ⟨.softFail, "A."⟩ := by decide +kernel
  have named : DomainName.normalize "A." = "a" := by decide +kernel
  have failed : (lookup chainedZone ⟨true, some 1⟩ "a").outcome =
      .failed (.inclusionTooDeep "c" 1) := by decide +kernel
  have asked : (lookup chainedZone ⟨true, some 1⟩ "a").queries =
      [⟨.txt, "a"⟩, ⟨.mx, "a"⟩, ⟨.txt, "b"⟩] := by decide +kernel
  have found : (lookup chainedZone ⟨true, none⟩ "a").outcome.cause? = none := by decide +kernel
  obtain ⟨policy, done⟩ := Outcome.cause?_eq_none_iff.mp found
  obtain ⟨⟨unlimited, -⟩, limited, -⟩ := inclusion_eq_lookup chainedZone true read named
  obtain ⟨outcome, queries, -⟩ := limited 1
  rw [failed] at outcome
  rw [done] at unlimited
  exact ⟨read, named, failed, outcome, queries.trans asked, policy, done, unlimited⟩

end Directive

end SenderPolicy

import SenderPolicy.Proofs.Lookup.Placement
import SenderPolicy.Proofs.Policy.Statement
import SenderPolicy.Proofs.Record.Life

/-! # Records that can be had

A record comes from a look-up, or from a domain by fetching and reading, or is inside of another one. If
it has been read, then its directives are built from its text, and so are those of every policy inside of it,
however deep. So all of them are true to their texts, and none is left without an answer.
-/

namespace SenderPolicy

open Lookup

namespace Record

/-- What a record can come from. -/
inductive Reachable : Record → Prop where
  | ofDomain (domain : String) : Reachable (.ofDomain domain)
  | found {zone : Zone} {options : Options} {domain : String} {policy : Policy}
      (done : (lookup zone options domain).outcome = .done policy) : Reachable (.ofPolicy policy)
  | called {record : Record} (before : Reachable record) (call : Call) :
      Reachable (record.call call).record
  | inside {record : Record} {policy inner : Policy} (outer : Reachable record)
      (read : record.policy? = some policy) (includes : policy.Includes inner) :
      Reachable (.ofPolicy inner)

end Record

/-- A directive that a term is built into. -/
def Directive.IsBuilt (directive : Directive) : Prop :=
  ∃ zone options room domain path term queries,
    Built zone options (policyWithin zone options room) domain path term (some directive) queries

/-- A policy whose directives are built from its text. -/
def Policy.IsBuilt (policy : Policy) : Prop :=
  PolicyText.isPolicy policy.raw = true ∧ ∃ zone options room path queries,
    Directive.BuiltAll zone options (policyWithin zone options room) policy.domain path
      (PolicyText.terms policy.raw) policy.directives queries

theorem Lookup.Found.isBuilt {zone : Zone} {options : Options} {policy : Policy}
    (found : Found zone options policy) : policy.IsBuilt := by
  obtain ⟨text, room, path, queries, built⟩ := found.text_and_builtAll
  exact ⟨Zone.isPolicy_of_policyText? text, zone, options, room, path, queries, built⟩

namespace Policy.IsBuilt

variable {policy : Policy}

theorem trueToText (built : policy.IsBuilt) : policy.TrueToText := by
  obtain ⟨domain, raw, directives⟩ := policy
  obtain ⟨text, zone, options, room, path, queries, built⟩ := built
  exact built.trueToText text

theorem directive {directive : Directive} (built : policy.IsBuilt)
    (member : directive ∈ policy.directives) : directive.IsBuilt := by
  obtain ⟨-, zone, options, room, path, queries, built⟩ := built
  obtain ⟨term, -, asked, here⟩ := built.exists_term member
  exact ⟨zone, options, room, _, path, term, asked, here⟩

end Policy.IsBuilt

/-- The policy of an include that is built has been found, and so is built as well. -/
theorem Directive.IsBuilt.inner {qualifier : Qualifier} {text domain : String} {policy : Policy}
    (built : Directive.IsBuilt ⟨qualifier, text, .inclusion domain policy⟩) : policy.IsBuilt := by
  obtain ⟨zone, options, room, domain, path, term, queries, built⟩ := built
  cases built with
  | inclusion read entered within => exact (found_of_policyWithin within).isBuilt

/-- Whatever a policy that is built includes is built, at any depth. -/
theorem Policy.IsBuilt.of_reflTransGen {policy inner : Policy} (built : policy.IsBuilt)
    (reaches : Relation.ReflTransGen Policy.Includes policy inner) : inner.IsBuilt := by
  induction reaches with
  | refl => exact built
  | tail _ includes ih =>
    obtain ⟨_, _, _, member⟩ := includes
    exact (ih.directive member).inner

/-- A policy that is true to its text, like all that it includes at any depth. -/
def Policy.TrueThroughout (policy : Policy) : Prop :=
  ∀ inner, Relation.ReflTransGen Policy.Includes policy inner → inner.TrueToText

namespace Record

theorem policy?_eq_some_iff {record : Record} {policy : Policy} :
    record.policy? = some policy ↔ record = ofPolicy policy := by
  constructor
  · intro read
    obtain ⟨directives, given, rfl⟩ := Option.map_eq_some_iff.mp read
    obtain ⟨domain, raw, directives?⟩ := record
    cases given
    rfl
  · rintro rfl
    exact policy?_ofPolicy policy

/-- A record that is read right now is built from its text, whatever it was before. -/
theorem isBuilt_of_parse {zone : Zone} {options : Options} {record : Record} {policy : Policy}
    (read : (record.parse zone options).record.policy? = some policy) : policy.IsBuilt := by
  obtain ⟨directives, given, rfl⟩ := Option.map_eq_some_iff.mp read
  obtain ⟨text, room, built⟩ := builtAll_of_parse given
  exact ⟨text, zone, options, room, _, _, built⟩

theorem Reachable.isBuilt {record : Record} {policy : Policy} (reachable : Reachable record)
    (read : record.policy? = some policy) : policy.IsBuilt := by
  induction reachable generalizing policy with
  | ofDomain domain => cases read
  | found done =>
    rw [policy?_ofPolicy] at read
    cases read
    exact (found_of_lookup done).isBuilt
  | called before call ih =>
    cases call with
    | fetch zone => cases read
    -- Reading starts afresh, so it does not matter what the record was before.
    | parse zone options => exact isBuilt_of_parse read
  | inside outer within includes ih =>
    rw [policy?_ofPolicy] at read
    cases read
    exact (ih within).of_reflTransGen (.single includes)

theorem Reachable.trueThroughout {record : Record} {policy : Policy} (reachable : Reachable record)
    (read : record.policy? = some policy) : policy.TrueThroughout :=
  fun _ reaches => ((reachable.isBuilt read).of_reflTransGen reaches).trueToText

theorem Reachable.after {record : Record} (reachable : Reachable record) (calls : List Call) :
    Reachable (record.after calls) := by
  induction calls generalizing record with
  | nil => exact reachable
  | cons first rest ih => exact ih (reachable.called first)

/-- Whatever way a record was had, once it has been read it is true to its text and answers for every
address, and so does each policy inside of it. -/
theorem evaluate_of_reachable {record : Record} {policy : Policy} (reachable : Reachable record)
    (read : record.policy? = some policy) :
    record = ofPolicy policy ∧
    ∀ inner, Relation.ReflTransGen Policy.Includes policy inner →
      inner.TrueToText ∧
      ∀ address, ∃ trail matched?, (ofPolicy inner).evaluate address = .ok trail ∧
        (ofPolicy inner).matched? address = .ok matched? := by
  refine ⟨policy?_eq_some_iff.mp read, fun inner reaches => ⟨?_, fun address => ?_⟩⟩
  · exact reachable.trueThroughout read inner reaches
  · exact ⟨_, _, evaluate_of_policy? (policy?_ofPolicy inner) address⟩

/-- A domain whose text repeats a term, and has one without a keyword. -/
def repeatingZone : Zone :=
  (({} : Zone).setTxt "a" ["V=SPF1  Include:b foo ?mx  ?mx"]).setTxt "b" ["v=spf1 ~ALL"]

def innerPolicy : Policy := ⟨"b", "v=spf1 ~ALL", [⟨.softFail, "~ALL", .all⟩]⟩

def repeatingPolicy : Policy :=
  ⟨"a", "V=SPF1  Include:b foo ?mx  ?mx", [⟨.pass, "Include:b", .inclusion "b" innerPolicy⟩,
    ⟨.neutral, "?mx", .host .mx "a" ⟨32, 128⟩ []⟩, ⟨.neutral, "?mx", .host .mx "a" ⟨32, 128⟩ []⟩]⟩

theorem evaluate_of_reachable_repeating :
    ((ofDomain "A").after [.fetch repeatingZone, .parse repeatingZone {}]).policy? =
      some repeatingPolicy ∧
    ["Include:b", "?mx", "?mx"] =
      (PolicyText.terms repeatingPolicy.raw).filter (fun term => (Term.keyword? term).isSome) ∧
    innerPolicy.TrueToText := by
  have read : ((ofDomain "A").after [.fetch repeatingZone, .parse repeatingZone {}]).policy? =
      some repeatingPolicy := by decide +kernel
  have law := (evaluate_of_reachable ((Reachable.ofDomain "A").after _) read).2
  refine ⟨read, (law _ .refl).1.texts, (law innerPolicy (.single ?_)).1⟩
  exact ⟨_, _, _, List.mem_cons_self⟩

end Record

end SenderPolicy

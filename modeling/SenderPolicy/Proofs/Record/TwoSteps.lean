import SenderPolicy.Proofs.Lookup.Indifference
import SenderPolicy.Proofs.Record.Reading

/-! # One step or two

A look-up fetches and reads in one step, on a path that starts with the domain as it was given. A record
that is fetched and then read starts its path with the normal form of the domain. A domain with more dots
at its end than one is not settled by that, but up to two dots no include can tell.
-/

namespace SenderPolicy.Record

open Inquiry

variable {zone : Zone} {options : Options} {domain raw : String}

/-- Fetches a record and then reads it, unless the fetch fails. -/
def fetchAndParse (zone : Zone) (options : Options) (record : Record) : Step :=
  let fetched := record.fetch zone
  match fetched.report.outcome with
  | .done () =>
      let read := fetched.record.parse zone options
      ⟨read.record, { read.report with queries := fetched.report.queries ++ read.report.queries }⟩
  | _ => fetched

/-- The record that a step leaves, if it succeeds. -/
def Step.outcome (step : Step) : Outcome Record := step.report.outcome.map fun _ => step.record

/-- A record without a text is as far as a fetch that fails gets. -/
theorem fetchAndParse_of_failed {name : String} {error : PolicyError} {queries : List Query}
    (failed : policyText zone name .outside = ⟨.failed error, .outside, queries⟩)
    (options : Options) (directives? : Option (List Directive)) :
    fetchAndParse zone options ⟨name, raw, directives?⟩ =
      ⟨⟨name, "", none⟩, ⟨.failed error, .outside, queries⟩⟩ := by
  simp only [fetchAndParse, fetch, failed, Report.map, Outcome.map, Outcome.value?, Option.getD_none]

/-- A record with a text is read. -/
theorem fetchAndParse_of_text {name : String} (found : zone.policyText? name = some raw)
    (options : Options) (before : String) (directives? : Option (List Directive)) :
    fetchAndParse zone options ⟨name, before, directives?⟩ =
      let read := parse zone options ⟨name, raw, none⟩
      ⟨read.record, { read.report with queries := .about .txt name :: read.report.queries }⟩ := by
  have answered : policyText zone name .outside = ⟨.done raw, .outside, [.about .txt name]⟩ :=
    policyText_eq_done_iff.mpr ⟨found, rfl, rfl⟩
  simp only [fetchAndParse, fetch, answered, Report.map, Outcome.map, Outcome.value?, Option.getD_some,
    List.singleton_append]

/-- A text is built alike below a domain and below its normal form. -/
theorem ofText_ofRoot_normalize (few : DomainName.trailingDots domain ≤ 2)
    (policy : PolicyText.isPolicy raw = true) (zone : Zone) (options : Options) (room : Nat)
    (name : String) :
    Directive.ofText zone options (Lookup.policyWithin zone options room) name raw
        (.ofRoot (DomainName.normalize domain)) =
      { Directive.ofText zone options (Lookup.policyWithin zone options room) name raw (.ofRoot domain) with
        path := .ofRoot (DomainName.normalize domain) } := by
  have simulation := simulation_indifferent zone options
  have nested := simulation.policyWithin (indifferent_stop .unending) room
  exact (simulation.ofText nested name policy _ _ (IncludePath.alike_ofRoot few)).2

/-- Where the text has an end, reading it comes to what looking the domain up does. -/
theorem parse_eq_lookup_of_ends (few : DomainName.trailingDots domain ≤ 2)
    (found : zone.policyText? (DomainName.normalize domain) = some raw) {room : Nat}
    (ends : (Directive.ofText zone options (Lookup.policyWithin zone options room)
      (DomainName.normalize domain) raw (.ofRoot domain)).outcome ≠ .unending) :
    (parse zone options ⟨DomainName.normalize domain, raw, none⟩).outcome =
        (lookup zone options domain).outcome.map ofPolicy ∧
      .about .txt (DomainName.normalize domain) ::
          (parse zone options ⟨DomainName.normalize domain, raw, none⟩).report.queries =
        (lookup zone options domain).queries := by
  have policy := Zone.isPolicy_of_policyText? found
  have built := ofText_ofRoot_normalize few policy zone options room (DomainName.normalize domain)
  have looked := @Lookup.policyWithin_of_text zone options domain raw found room (.ofRoot domain)
  rcases ran : Directive.ofText zone options (Lookup.policyWithin zone options room)
    (DomainName.normalize domain) raw (.ofRoot domain) with ⟨outcome, last, queries⟩
  rw [ran] at looked built ends
  have read : parse zone options ⟨DomainName.normalize domain, raw, none⟩ = readAs _ _ :=
    parse_eq_of_ofText built ends
  have lookup_eq := Lookup.lookup_eq_of_policyWithin looked
    fun unending => ends (Outcome.map_eq_unending_iff.mp unending)
  rw [read, lookup_eq]
  cases outcome <;> exact ⟨rfl, rfl⟩

/-- A text without an end in any room has none either way. -/
theorem parse_and_lookup_unending (few : DomainName.trailingDots domain ≤ 2)
    (found : zone.policyText? (DomainName.normalize domain) = some raw)
    (unending : ∀ room, (Directive.ofText zone options (Lookup.policyWithin zone options room)
      (DomainName.normalize domain) raw (.ofRoot domain)).outcome = .unending) :
    (parse zone options ⟨DomainName.normalize domain, raw, none⟩).outcome = .unending ∧
      (lookup zone options domain).outcome = .unending := by
  have policy := Zone.isPolicy_of_policyText? found
  have looked (room : Nat) :
      (Lookup.policyWithin zone options room domain (.ofRoot domain)).outcome = .unending := by
    cases room with
    | zero => rfl
    | succ room =>
      rw [Lookup.policyWithin_of_text found]
      exact Outcome.map_eq_unending_iff.mpr (unending room)
  refine ⟨?_, looked _⟩
  rw [parse_eq, ofText_ofRoot_normalize few policy]
  simp only [Step.outcome, readAs, Report.map, unending, Outcome.map]

/-- A domain is looked up in one step as it is in two: with the same record or the same error, and with
the same queries. -/
theorem fetchAndParse_eq_lookup (zone : Zone) (options : Options)
    (few : DomainName.trailingDots domain ≤ 2) :
    ((ofDomain domain).fetchAndParse zone options).outcome =
        (lookup zone options domain).outcome.map ofPolicy ∧
      ((lookup zone options domain).outcome ≠ .unending →
        ((ofDomain domain).fetchAndParse zone options).report.queries =
          (lookup zone options domain).queries) := by
  obtain ⟨outcome, queries, textEnds, runs⟩ := plain_policyText zone (DomainName.normalize domain)
  cases outcome with
  | unending => exact (textEnds rfl).elim
  | failed error =>
    have stopped : Lookup.policyWithin zone options 1 domain (.ofRoot domain) =
        ⟨.failed error, .ofRoot domain, queries⟩ := bind_apply_failed (runs _)
    rw [ofDomain, fetchAndParse_of_failed (runs _), Lookup.lookup_eq_of_policyWithin stopped nofun]
    exact ⟨rfl, fun _ => rfl⟩
  | done raw =>
    have found : zone.policyText? (DomainName.normalize domain) = some raw := by
      have done : (policyText zone (DomainName.normalize domain) .outside).outcome = .done raw := by
        rw [runs]
      exact policyText_outcome_eq_done_iff.mp done
    rw [ofDomain, fetchAndParse_of_text found]
    by_cases ends : ∃ room, (Directive.ofText zone options (Lookup.policyWithin zone options room)
        (DomainName.normalize domain) raw (.ofRoot domain)).outcome ≠ .unending
    · obtain ⟨room, ends⟩ := ends
      obtain ⟨outcome, queries⟩ := parse_eq_lookup_of_ends few found ends
      exact ⟨outcome, fun _ => queries⟩
    · have unending := parse_and_lookup_unending few found fun room =>
        not_not.mp fun other => ends ⟨room, other⟩
      refine ⟨?_, fun other => absurd unending.2 other⟩
      rw [unending.2]
      exact unending.1

/-- Two domains that include each other. The first has a dot at its end even in normal form. -/
def rootedZone : Zone :=
  (({} : Zone).setTxt "a." ["v=spf1 mx include:b -all"]).setTxt "b" ["v=spf1 include:A.. ?all"]

/-- The two paths start with different names, but both find the way back to the start. -/
theorem fetchAndParse_eq_lookup_rooted :
    DomainName.trailingDots "A.." ≤ 2 ∧
    IncludePath.ofRoot "A.." ≠ IncludePath.ofRoot (ofDomain "A..").domain ∧
    (lookup rootedZone {} "A..").outcome = .failed (.inclusionLoop "a.") ∧
    ((ofDomain "A..").fetchAndParse rootedZone {}).outcome = .failed (.inclusionLoop "a.") ∧
    ((ofDomain "A..").fetchAndParse rootedZone {}).report.queries =
      [⟨.txt, "a."⟩, ⟨.mx, "a"⟩, ⟨.txt, "b"⟩] := by
  have few : DomainName.trailingDots "A.." ≤ 2 := by decide +kernel
  have failed : (lookup rootedZone {} "A..").outcome = .failed (.inclusionLoop "a.") := by
    decide +kernel
  have law := fetchAndParse_eq_lookup rootedZone {} few
  refine ⟨few, by decide +kernel, failed, law.1.trans (by rw [failed]; rfl), ?_⟩
  rw [law.2 (by rw [failed]; exact nofun)]
  decide +kernel

end SenderPolicy.Record

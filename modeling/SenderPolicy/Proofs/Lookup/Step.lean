import SenderPolicy.Proofs.Policy.Built

/-! # One policy of a look-up

A look-up reads the text of a name and builds its terms in order. Without a text it stops with an
error, and with one it stops for the first cause among the terms. More room changes nothing about a
look-up that has an end.
-/

namespace SenderPolicy

variable {zone : Zone} {options : Options} {name domain raw : String} {path : IncludePath}

/-- A term that reads as an include names a target of its text. -/
theorem PolicyText.mem_inclusions {term : String} (member : term ∈ PolicyText.terms raw)
    {fields : Term.InclusionTerm} (read : Term.readInclusion term = .ok fields) :
    fields.target ∈ PolicyText.inclusions raw :=
  List.mem_filterMap.mpr ⟨term, member, by rw [read]⟩

namespace Zone

/-- The text that states the policy of a name: the first policy in its answer, if it has one. -/
def policyText? (zone : Zone) (name : String) : Option String :=
  match zone.txt name with
  | .ok texts => texts.find? PolicyText.isPolicy
  | .error _ => none

theorem isPolicy_of_policyText? (found : zone.policyText? name = some raw) :
    PolicyText.isPolicy raw = true := by
  unfold policyText? at found
  split at found
  · exact List.find?_some found
  · contradiction

/-- Whatever the policy of a name includes is included by a text of the zone. -/
theorem inclusions_of_policyText? (found : zone.policyText? name = some raw) {target : String}
    (included : target ∈ PolicyText.inclusions raw) : target ∈ Lookup.inclusions zone := by
  unfold policyText? txt answer Table.get? at found
  split at found
  · next texts answered =>
    have member := List.mem_of_find?_eq_some found
    split at answered
    · contradiction
    · cases answered
      cases kept : zone.texts.entries.lookup (Text.lowercase name) with
      | none => simp [kept] at member
      | some texts =>
        rw [kept, Option.getD_some] at member
        obtain ⟨before, after, entries, -⟩ := List.lookup_eq_some_iff.mp kept
        have inTexts := List.mem_flatMap.mpr ⟨raw, member, included⟩
        refine List.mem_flatMap.mpr ⟨(Text.lowercase name, texts), ?_, inTexts⟩
        simp [entries]
  · contradiction

/-- The target of an include in the policy of a name is included by a text of the zone. -/
theorem target_mem_inclusions (found : zone.policyText? name = some raw) {term : String}
    (member : term ∈ PolicyText.terms raw) {fields : Term.InclusionTerm}
    (read : Term.readInclusion term = .ok fields) : fields.target ∈ Lookup.inclusions zone :=
  inclusions_of_policyText? found (PolicyText.mem_inclusions member read)

end Zone

namespace Inquiry

theorem plain_policyText (zone : Zone) (name : String) : (policyText zone name).Plain := by
  refine (plain_ask ..).bind fun texts => ?_
  split
  · exact plain_pure _
  · exact plain_fail _

/-- The text that states a policy is found with one query. -/
theorem policyText_eq_done_iff {last : IncludePath} {queries : List Query} :
    policyText zone name path = ⟨.done raw, last, queries⟩ ↔
      zone.policyText? name = some raw ∧ last = path ∧ queries = [.about .txt name] := by
  simp only [policyText, askTxt, bind_eq_done_iff, ask_eq_done_iff, Zone.policyText?]
  constructor
  · rintro ⟨texts, _, _, more, ⟨answered, rfl, rfl⟩, went, rfl⟩
    rw [answered]
    cases first : texts.find? PolicyText.isPolicy with
    | none =>
      rw [first] at went
      exact absurd went fail_ne_done
    | some found =>
      rw [first] at went
      obtain ⟨rfl, rfl, rfl⟩ := pure_eq_done_iff.mp went
      exact ⟨first, rfl, rfl⟩
  · rintro ⟨found, rfl, rfl⟩
    split at found
    · next texts answered =>
      refine ⟨texts, last, _, [], ⟨answered, rfl, rfl⟩, ?_, rfl⟩
      rw [found]
      rfl
    · contradiction

theorem policyText_outcome_eq_done_iff :
    (policyText zone name path).outcome = .done raw ↔ zone.policyText? name = some raw := by
  rw [(plain_policyText zone name).balanced.outcome_eq_done_iff]
  simp [policyText_eq_done_iff]

end Inquiry

namespace Lookup

open Inquiry

theorem balanced_policyWithin (zone : Zone) (options : Options) (room : Nat) (domain : String) :
    (policyWithin zone options room domain).Balanced := by
  induction room generalizing domain with
  | zero => exact balanced_stop _
  | succ room ih =>
    refine (plain_policyText ..).balanced.bind fun raw => ?_
    exact (Directive.balanced_ofText ih raw).bind fun directives => (plain_pure _).balanced

/-- A policy is found when the text of its name is, and each of its terms is built. -/
theorem policyWithin_eq_done_iff {room : Nat} {policy : Policy} {last : IncludePath}
    {queries : List Query} :
    policyWithin zone options (room + 1) domain path = ⟨.done policy, last, queries⟩ ↔
      ∃ raw directives asked, zone.policyText? (DomainName.normalize domain) = some raw ∧
        Directive.BuiltAll zone options (policyWithin zone options room) (DomainName.normalize domain)
          path (PolicyText.terms raw) directives asked ∧
        policy = ⟨DomainName.normalize domain, raw, directives⟩ ∧ last = path ∧
        queries = .about .txt (DomainName.normalize domain) :: asked := by
  have nested := balanced_policyWithin zone options room
  simp only [policyWithin, bind_eq_done_iff, policyText_eq_done_iff, pure_eq_done_iff,
    Directive.ofText_eq_done_iff nested]
  constructor
  · rintro ⟨raw, _, _, _, ⟨found, rfl, rfl⟩, ⟨directives, _, asked, _, ⟨-, terms, rfl⟩,
      ⟨rfl, rfl, rfl⟩, rfl⟩, rfl⟩
    exact ⟨raw, directives, asked, found, terms, rfl, rfl, by simp⟩
  · rintro ⟨raw, directives, asked, found, terms, rfl, rfl, rfl⟩
    have policy := Zone.isPolicy_of_policyText? found
    exact ⟨raw, last, _, asked, ⟨found, rfl, rfl⟩, ⟨directives, last, asked, [], ⟨policy, terms, rfl⟩,
      ⟨rfl, rfl, rfl⟩, by simp⟩, rfl⟩

/-- Once the text of its name is found, a policy is built from the terms of this text. -/
theorem policyWithin_of_text (found : zone.policyText? (DomainName.normalize domain) = some raw)
    (room : Nat) (path : IncludePath) :
    policyWithin zone options (room + 1) domain path =
      let report := Directive.ofText zone options (policyWithin zone options room)
        (DomainName.normalize domain) raw path
      ⟨report.outcome.map (⟨DomainName.normalize domain, raw, ·⟩), report.path,
        .about .txt (DomainName.normalize domain) :: report.queries⟩ := by
  have answered : policyText zone (DomainName.normalize domain) path =
      ⟨.done raw, path, [.about .txt (DomainName.normalize domain)]⟩ :=
    policyText_eq_done_iff.mpr ⟨found, rfl, rfl⟩
  rw [policyWithin, bind_apply_done answered, ← map_eq_pure_bind, map_apply]
  rfl

/-- A policy stops for the first cause among the terms of its text. -/
theorem policyWithin_cause?_of_text (found : zone.policyText? (DomainName.normalize domain) = some raw)
    (room : Nat) (path : IncludePath) :
    (policyWithin zone options (room + 1) domain path).outcome.cause? =
      (PolicyText.terms raw).findSome? fun term =>
        (Directive.ofTerm? zone options (policyWithin zone options room) (DomainName.normalize domain)
          term path).outcome.cause? := by
  have nested := balanced_policyWithin zone options room
  rw [policyWithin_of_text found, Outcome.cause?_map, Directive.ofText,
    if_pos (Zone.isPolicy_of_policyText? found), Directive.ofTerms_cause? nested]

/-- Without a text there is no policy, but there is an error, the same on every path. -/
theorem policyWithin_cause?_of_no_text (zone : Zone) (options : Options)
    (missing : zone.policyText? (DomainName.normalize domain) = none) :
    ∃ error, ∀ room path,
      (policyWithin zone options (room + 1) domain path).outcome.cause? = some (.error error) := by
  obtain ⟨outcome, queries, ends, runs⟩ := plain_policyText zone (DomainName.normalize domain)
  cases outcome with
  | done raw =>
    have answered : (policyText zone (DomainName.normalize domain) .outside).outcome = .done raw := by
      rw [runs]
    rw [policyText_outcome_eq_done_iff, missing] at answered
    contradiction
  | unending => exact (ends rfl).elim
  | failed error =>
    refine ⟨error, fun room path => bind_cause?_of_eq_some ?_⟩
    rw [runs]
    rfl

/-- A policy without an end has an include that is entered and has no end, and every term before it is
built. -/
theorem policyWithin_unending_cases {room : Nat}
    (unending : (policyWithin zone options (room + 1) domain path).outcome = .unending) :
    ∃ raw before term after fields inner,
      zone.policyText? (DomainName.normalize domain) = some raw ∧
      PolicyText.terms raw = before ++ term :: after ∧
      (∀ earlier ∈ before, (Directive.ofTerm? zone options (policyWithin zone options room)
        (DomainName.normalize domain) earlier path).outcome.cause? = none) ∧
      Term.readInclusion term = .ok fields ∧
      path.enter options.maxIncludeDepth (DomainName.normalize fields.target) = .ok inner ∧
      (policyWithin zone options room (DomainName.normalize fields.target) inner).outcome =
        .unending := by
  rw [← Outcome.cause?_eq_endless_iff] at unending
  cases found : zone.policyText? (DomainName.normalize domain) with
  | none =>
    obtain ⟨error, stopped⟩ := policyWithin_cause?_of_no_text zone options found
    rw [stopped] at unending
    cases unending
  | some raw =>
    rw [policyWithin_cause?_of_text found] at unending
    obtain ⟨before, term, after, terms, endless, built⟩ := List.findSome?_eq_some_iff.mp unending
    cases read : Term.readInclusion term with
    | error fault =>
      have plain : (Directive.ofTerm? zone options (policyWithin zone options room)
          (DomainName.normalize domain) term).Plain := Directive.plain_ofTerm? read
      exact (plain.ends path (Outcome.cause?_eq_endless_iff.mp endless)).elim
    | ok fields =>
      cases entered : path.enter options.maxIncludeDepth (DomainName.normalize fields.target) with
      | error error =>
        rw [Directive.ofTerm?_cause?_of_refused read entered] at endless
        cases endless
      | ok inner =>
        rw [Directive.ofTerm?_cause?_of_entered read entered] at endless
        exact ⟨raw, before, term, after, fields, inner, rfl, terms, built, read, entered,
          Outcome.cause?_eq_endless_iff.mp endless⟩

theorem extends_policyWithin_succ (zone : Zone) (options : Options) (room : Nat) (domain : String) :
    (policyWithin zone options (room + 1) domain).Extends (policyWithin zone options room domain) := by
  induction room generalizing domain with
  | zero => exact extends_unending _
  | succ room ih =>
    refine (Extends.refl _).bind fun raw => ?_
    exact (Directive.extends_ofText ih raw).bind fun directives => .refl _

/-- More room changes nothing about a look-up that has an end. -/
theorem extends_policyWithin {less more : Nat} (le : less ≤ more) (domain : String) :
    (policyWithin zone options more domain).Extends (policyWithin zone options less domain) := by
  induction more, le using Nat.le_induction with
  | base => exact .refl _
  | succ more _ ih => exact (extends_policyWithin_succ zone options more domain).trans ih

end Lookup

end SenderPolicy

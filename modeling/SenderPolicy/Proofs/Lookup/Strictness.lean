import SenderPolicy.Proofs.Lookup.Placement
import SenderPolicy.Proofs.Lookup.Simulation

/-! # Strict look-ups

A strict look-up goes the same way as a lenient one, up to the first term without a keyword, where it
ends. Until then both ask the same, so what a strict look-up asked comes first in what a lenient one
asks. A policy that is found where terms are skipped is found by a strict look-up if nothing was
skipped in it, nor in any policy inside of it.
-/

namespace SenderPolicy

variable {α β : Type}

/-- How the report of a strict run stands to that of a lenient one: it is the same and refuses no term, or
it is cut off at a term without a keyword. -/
inductive Report.CutOf (lenient : Report α) : Report α → Prop where
  | same (accepts : ∀ term, lenient.outcome ≠ .failed (.unknownTerm term)) : CutOf lenient lenient
  | cut {term : String} {path : IncludePath} {queries : List Query}
      (unknown : Term.keyword? term = none) (earlier : queries <+: lenient.queries) :
      CutOf lenient ⟨.failed (.unknownTerm term), path, queries⟩

namespace Report.CutOf

variable {strict lenient : Report α}

/-- A cut report has no value, so one with a value is the whole report. -/
theorem eq_of_done (cut : lenient.CutOf strict) {value : α} (done : strict.outcome = .done value) :
    strict = lenient := by
  cases cut with
  | same => rfl
  | cut => cases done

/-- A cut report has no other error than that of the term. -/
theorem eq_of_failed (cut : lenient.CutOf strict) {error : PolicyError}
    (failed : strict.outcome = .failed error) (other : ∀ term, error ≠ .unknownTerm term) :
    strict = lenient := by
  cases cut with
  | same => rfl
  | cut =>
    cases failed
    exact absurd rfl (other _)

/-- A report that refuses a term is cut off there. -/
theorem of_refused (cut : lenient.CutOf strict) {term : String}
    (refused : strict.outcome = .failed (.unknownTerm term)) :
    Term.keyword? term = none ∧ strict.queries <+: lenient.queries := by
  cases cut with
  | same accepts => exact absurd refused (accepts term)
  | cut unknown earlier =>
    cases refused
    exact ⟨unknown, earlier⟩

end Report.CutOf

namespace Inquiry

/-- Wherever the reader is, the strict inquiry reports what the lenient one does, or is cut off. -/
def CutOf (lenient strict : Inquiry α) : Prop := ∀ path, (lenient path).CutOf (strict path)

theorem cutOf_stop {outcome : Outcome α} (accepts : ∀ term, outcome ≠ .failed (.unknownTerm term)) :
    (stop outcome).CutOf (stop outcome) := fun _ => .same accepts

theorem cutOf_pure (value : α) : (pure value : Inquiry α).CutOf (pure value) := cutOf_stop nofun

theorem cutOf_ask (kind : QueryKind) (domain : String) (answer : Except DnsError α) :
    (ask kind domain answer).CutOf (ask kind domain answer) := by
  intro path
  cases answer <;> exact .same nofun

theorem CutOf.bind {first first' : Inquiry α} {next next' : α → Inquiry β} (cut : first.CutOf first')
    (after : ∀ path value, (first path).outcome = .done value → (next value).CutOf (next' value)) :
    (first >>= next).CutOf (first' >>= next') := by
  intro path
  have starts := queries_prefix_bind first next path
  have here := cut path
  rcases ran : first' path with ⟨outcome, last, queries⟩
  generalize lenient : first path = report at here starts
  rw [ran] at here
  -- A cut in the first part ends the strict sequence there. Without one, both go on from the same value.
  cases here with
  | cut unknown earlier =>
    rw [bind_apply_failed ran]
    exact .cut unknown (earlier.trans starts)
  | same accepts =>
    cases outcome with
    | failed error =>
      rw [bind_apply_failed ran, bind_apply_failed lenient]
      exact .same fun term refused => accepts term (by cases refused; rfl)
    | unending =>
      rw [bind_apply_unending ran, bind_apply_unending lenient]
      exact .same nofun
    | done value =>
      rw [bind_apply_done ran, bind_apply_done lenient]
      have there := after path value (by rw [lenient]) last
      generalize next' value last = report at there ⊢
      cases there with
      | same accepts => exact .same accepts
      | cut unknown earlier => exact .cut unknown ((List.prefix_append_right_inj queries).mpr earlier)

theorem CutOf.inside {lenient strict : Inquiry α} (cut : lenient.CutOf strict) (limit? : Option Nat)
    (domain : String) : (inside limit? domain lenient).CutOf (inside limit? domain strict) := by
  intro path
  unfold Inquiry.inside
  split
  · next error refused =>
    rcases IncludePath.error_of_enter refused with rfl | ⟨limit, -, rfl⟩ <;> exact .same nofun
  · next inner entered =>
    have within := cut inner
    generalize strict inner = report at within ⊢
    cases within with
    | same accepts => exact .same accepts
    | cut unknown earlier => exact .cut unknown earlier

theorem cutOf_policyText (zone : Zone) (domain : String) :
    (policyText zone domain).CutOf (policyText zone domain) := by
  refine (cutOf_ask _ _ _).bind fun _ texts _ => ?_
  split
  · exact cutOf_pure _
  · exact cutOf_stop nofun

theorem composes_cutOf : Composes fun _ lenient strict => lenient.CutOf strict where
  value := cutOf_pure
  bind := CutOf.bind

end Inquiry

open Inquiry

variable {zone : Zone} {limit? : Option Nat} {domain term : String} {path : IncludePath}
  {queries : List Query}

/-- A term without a keyword is where a strict run is cut off. All other steps are the same. -/
theorem simulation_cutOf (zone : Zone) (limit? : Option Nat) :
    Simulation zone zone ⟨false, limit?⟩ ⟨true, limit?⟩ fun _ lenient strict => lenient.CutOf strict where
  toComposes := composes_cutOf
  text name := cutOf_policyText zone name
  networks name kind _ fit :=
    composes_cutOf.hostNetworks (fun host => cutOf_ask .ip host (zone.ip host))
      (fun name => cutOf_ask .mx name (zone.mx name)) name kind fit
  unknown unknown := fun _ => .cut unknown List.nil_prefix
  malformed _ := cutOf_stop nofun
  inside name _ _ within := within.inside limit? name

/-- Every term of a policy has a keyword, and so has every term of the policies inside of it. -/
def Policy.Recognised (policy : Policy) : Prop :=
  ∀ inner, Relation.ReflTransGen Policy.Includes policy inner →
    ∀ term ∈ PolicyText.terms inner.raw, Term.keyword? term ≠ none

theorem Policy.Recognised.inner {policy inner : Policy} (recognised : policy.Recognised)
    (includes : policy.Includes inner) : inner.Recognised :=
  fun deeper reaches => recognised deeper (.head includes reaches)

namespace Lookup

theorem cutOf_lookup (zone : Zone) (limit? : Option Nat) (domain : String) :
    (lookup zone ⟨false, limit?⟩ domain).CutOf (lookup zone ⟨true, limit?⟩ domain) :=
  (simulation_cutOf zone limit?).policyWithin (cutOf_stop nofun) _ domain (.ofRoot domain)

/-- Every term of a policy that a strict look-up finds has a keyword. -/
theorem Found.keyword?_ne_none {options : Options} {policy : Policy} (strict : options.strict = true)
    (found : Found zone options policy) (member : term ∈ PolicyText.terms policy.raw) :
    Term.keyword? term ≠ none := by
  obtain ⟨-, room, path, queries, built⟩ := found.text_and_builtAll
  obtain ⟨first, asked, here, -⟩ := built.exists_built member
  cases first with
  | none => exact absurd (here.of_skipped.2.symm.trans strict) Bool.false_ne_true
  | some directive =>
    rw [here.stated.2.1]
    exact Option.some_ne_none _

/-- A policy in which nothing was skipped is found by a strict look-up as well. -/
theorem policyWithin_of_recognised {room : Nat} {policy : Policy}
    (done : policyWithin zone ⟨false, limit?⟩ room domain path = ⟨.done policy, path, queries⟩)
    (recognised : policy.Recognised) :
    policyWithin zone ⟨true, limit?⟩ room domain path = ⟨.done policy, path, queries⟩ := by
  induction room generalizing domain path policy queries with
  | zero => cases done
  | succ room ih =>
    obtain ⟨raw, directives, asked, found, built, rfl, -, queries_eq⟩ :=
      policyWithin_eq_done_iff.mp done
    refine policyWithin_eq_done_iff.mpr ⟨raw, directives, asked, found, ?_, rfl, rfl, queries_eq⟩
    apply built.elsewhere
    intro term first more member stands here
    apply here.elsewhere
    · exact fun unknown _ => absurd unknown (recognised _ .refl term member)
    · rintro fields inner policy entered within rfl
      have includes : Policy.Includes ⟨DomainName.normalize domain, raw, directives⟩ policy :=
        ⟨_, _, _, stands (List.mem_singleton_self _)⟩
      exact ⟨inner, entered, ih within (recognised.inner includes)⟩

/-- Strictness only adds the refusal of terms without a keyword. A strict look-up succeeds where a lenient
one finds a policy in which nothing was skipped, at any depth, and asks the same. Where it fails for any
other cause, so does the lenient one, after the same queries. And where it refuses a term, the term has no
keyword, and what it asked comes first in what the lenient one asks. -/
theorem lookup_strict (zone : Zone) (limit? : Option Nat) (domain : String) :
    (∀ policy, (lookup zone ⟨true, limit?⟩ domain).outcome = .done policy ↔
      (lookup zone ⟨false, limit?⟩ domain).outcome = .done policy ∧ policy.Recognised) ∧
    (∀ policy, (lookup zone ⟨true, limit?⟩ domain).outcome = .done policy →
      (lookup zone ⟨true, limit?⟩ domain).queries = (lookup zone ⟨false, limit?⟩ domain).queries) ∧
    (∀ error, (lookup zone ⟨true, limit?⟩ domain).outcome = .failed error →
      (∀ term, error ≠ .unknownTerm term) →
      (lookup zone ⟨false, limit?⟩ domain).outcome = .failed error ∧
        (lookup zone ⟨true, limit?⟩ domain).queries = (lookup zone ⟨false, limit?⟩ domain).queries) ∧
    ∀ term, (lookup zone ⟨true, limit?⟩ domain).outcome = .failed (.unknownTerm term) →
      Term.keyword? term = none ∧
        (lookup zone ⟨true, limit?⟩ domain).queries <+: (lookup zone ⟨false, limit?⟩ domain).queries := by
  have cut := cutOf_lookup zone limit? domain
  refine ⟨fun policy => ⟨fun done => ?_, ?_⟩, ?_, ?_, ?_⟩
  · have same := cut.eq_of_done done
    refine ⟨same ▸ done, fun inner reaches term member => ?_⟩
    exact ((found_of_lookup done).of_reflTransGen reaches).keyword?_ne_none rfl member
  · rintro ⟨done, recognised⟩
    obtain ⟨room, queries, found⟩ := exists_policyWithin_of_lookup done
    rw [lookup_eq_of_policyWithin (policyWithin_of_recognised found recognised) nofun]
  · intro policy done
    rw [cut.eq_of_done done]
  · intro error failed other
    have same := cut.eq_of_failed failed other
    exact ⟨same ▸ failed, by rw [same]⟩
  · exact fun term => cut.of_refused

/-- A domain that includes another, each with a term that has no keyword, and includes a third after it. -/
def oddZone : Zone :=
  let texts := [("a", ["v=spf1 include:B. include:c redirect=c"]), ("b", ["v=spf1  mx exists:c a"]),
    ("c", ["v=spf1 ip4:10.0.0.0/8  -all"])]
  texts.foldl (fun zone entry => zone.setTxt entry.1 entry.2) {}

/-- The policy without such a term is found either way, and the other is refused for the term inside. -/
theorem lookup_strict_odd :
    (∃ policy, (lookup oddZone ⟨true, some 1⟩ "c").outcome = .done policy ∧ policy.Recognised) ∧
    (lookup oddZone ⟨true, some 1⟩ "a").outcome = .failed (.unknownTerm "exists:c") ∧
    Term.keyword? "exists:c" = none ∧
    (lookup oddZone ⟨true, some 1⟩ "a").queries <+: (lookup oddZone ⟨false, some 1⟩ "a").queries := by
  have done : (lookup oddZone ⟨true, some 1⟩ "c").outcome.cause? = none := by decide +kernel
  obtain ⟨policy, found⟩ := Outcome.cause?_eq_none_iff.mp done
  have refused : (lookup oddZone ⟨true, some 1⟩ "a").outcome = .failed (.unknownTerm "exists:c") := by
    decide +kernel
  refine ⟨⟨policy, found, ?_⟩, refused, ?_⟩
  · exact (((lookup_strict oddZone (some 1) "c").1 policy).mp found).2
  · exact (lookup_strict oddZone (some 1) "a").2.2.2 "exists:c" refused

example : (lookup oddZone ⟨true, some 1⟩ "a").queries = [⟨.txt, "a"⟩, ⟨.txt, "b"⟩, ⟨.mx, "b"⟩] ∧
    (lookup oddZone ⟨false, some 1⟩ "a").queries =
      [⟨.txt, "a"⟩, ⟨.txt, "b"⟩, ⟨.mx, "b"⟩, ⟨.ip, "b"⟩, ⟨.txt, "c"⟩] := by
  decide +kernel

end Lookup

end SenderPolicy

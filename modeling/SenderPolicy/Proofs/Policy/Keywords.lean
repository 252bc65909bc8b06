import SenderPolicy.Policy.Basic
import SenderPolicy.Proofs.Lookup.Errors

/-! # Terms and the constructors of their keywords

Each constructor of directives judges the keyword of its term first. It refuses a term for its keyword if this is
another one, and what it builds is of its own keyword, which the fields bear out. An include is no exception: the
terms of the policy inside go to the constructors of their own keywords.
-/

namespace SenderPolicy

def PolicyError.IsOfForm : PolicyError → Prop
  | .format _ => True
  | .wrongKeyword .. => True
  | _ => False

section Refusal

variable {wanted other found : Keyword} {term : String} {error : PolicyError}

theorem requireKeyword_eq_ok_iff :
    requireKeyword wanted term = .ok () ↔ Term.keyword? term = some wanted := by
  refine ⟨fun passed => ?_, requireKeyword_of_keyword?⟩
  unfold requireKeyword at passed
  split at passed
  · contradiction
  · next given named =>
    split at passed
    · next same => rw [named, same]
    · contradiction

/-- A term is refused if it has no keyword, or another one. -/
theorem requireKeyword_eq_error_iff :
    requireKeyword wanted term = .error error ↔
      Term.keyword? term = none ∧ error = .format (.notKeyword term wanted) ∨
        ∃ found, Term.keyword? term = some found ∧ found ≠ wanted ∧ error = .wrongKeyword wanted found := by
  unfold requireKeyword
  cases Term.keyword? term with
  | none => simp [eq_comm]
  | some found =>
    by_cases same : found = wanted
    · simp [same]
    · have differs : wanted ≠ found := fun equal => same equal.symm
      simp [same, differs, eq_comm]

theorem requireKeyword_eq_wrongKeyword_iff :
    requireKeyword wanted term = .error (.wrongKeyword other found) ↔
      other = wanted ∧ found ≠ wanted ∧ Term.keyword? term = some found := by
  rw [requireKeyword_eq_error_iff]
  constructor
  · rintro (⟨-, same⟩ | ⟨given, named, differs, same⟩)
    · cases same
    · cases same
      exact ⟨rfl, differs, named⟩
  · rintro ⟨rfl, differs, named⟩
    exact .inr ⟨found, named, differs, rfl⟩

theorem isOfForm_of_requireKeyword (refused : requireKeyword wanted term = .error error) :
    error.IsOfForm := by
  rcases requireKeyword_eq_error_iff.mp refused with ⟨-, rfl⟩ | ⟨found, -, -, rfl⟩
  · trivial
  · trivial

end Refusal

namespace Directive

open Inquiry

/-- The constructor of directives of a keyword. -/
def ofKeyword (zone : Zone) (options : Options) (nested : String → Inquiry Policy)
    (domain term : String) : Keyword → Inquiry Directive
  | .host kind => ofHost zone kind term domain
  | .inclusion => ofInclusion options nested term
  | .ip => Inquiry.ofExcept (ofLiteral term)
  | .all => Inquiry.ofExcept (ofAll term)

variable {zone : Zone} {options : Options} {nested : String → Inquiry Policy} {domain term : String}
  {keyword : Keyword} {error : PolicyError} {path : IncludePath} {directive : Directive}

/-- A term in a text goes to the constructor of its keyword. -/
theorem ofTerm?_eq_map_ofKeyword (found : Term.keyword? term = some keyword) :
    ofTerm? zone options nested domain term =
      some <$> ofKeyword zone options nested domain term keyword := by
  cases keyword <;> simp only [ofTerm?, found, ofKeyword]

theorem ofHost_of_refused {kind : HostKind} (refused : requireKeyword (.host kind) term = .error error)
    (zone : Zone) (domain : String) : ofHost zone kind term domain = fail error := by
  rw [ofHost, refused]
  exact fail_bind error _

/-- A constructor judges the keyword before anything else. -/
theorem ofKeyword_eq_fail (refused : requireKeyword keyword term = .error error) :
    ofKeyword zone options nested domain term keyword = fail error := by
  cases keyword with
  | host kind => exact ofHost_of_refused refused zone domain
  | inclusion =>
    rw [ofKeyword, ofInclusion, refused]
    exact fail_bind error _
  | ip =>
    rw [ofKeyword, ofLiteral, refused]
    rfl
  | all =>
    rw [ofKeyword, ofAll, refused]
    rfl

/-- A constructor succeeds with what its term is built into in a text, and only for a term of its keyword. -/
theorem built_of_ofKeyword (balanced : ∀ name, (nested name).Balanced)
    (done : (ofKeyword zone options nested domain term keyword path).outcome = .done directive) :
    Term.keyword? term = some keyword ∧
      ∃ queries, Built zone options nested domain path term (some directive) queries := by
  cases required : requireKeyword keyword term with
  | error error =>
    rw [ofKeyword_eq_fail required] at done
    cases done
  | ok =>
    have found := requireKeyword_eq_ok_iff.mp required
    have inText : (ofTerm? zone options nested domain term path).outcome = .done (some directive) := by
      rw [ofTerm?_eq_map_ofKeyword found, map_apply, Report.map, done]
      rfl
    obtain ⟨queries, ran⟩ := (balanced_ofTerm? balanced).outcome_eq_done_iff.mp inText
    exact ⟨found, queries, ((ofTerm?_eq_done_iff balanced).mp ran).1⟩

/-- What a constructor builds is of its keyword. -/
theorem keyword_of_ofKeyword (balanced : ∀ name, (nested name).Balanced)
    (done : (ofKeyword zone options nested domain term keyword path).outcome = .done directive) :
    directive.mechanism.keyword = keyword := by
  obtain ⟨found, queries, built⟩ := built_of_ofKeyword balanced done
  obtain ⟨-, stated, -⟩ := built.stated
  rw [found, Option.some.injEq] at stated
  exact stated.symm

/-- A constructor refuses a term for its keyword when this is another one, and never for the keyword of a term in
another policy. -/
theorem ofKeyword_eq_wrongKeyword_iff {wanted found : Keyword}
    (within : ∀ name, (nested name).FailsOnly fun error => ∀ wanted found, error ≠ .wrongKeyword wanted found) :
    (ofKeyword zone options nested domain term keyword path).outcome = .failed (.wrongKeyword wanted found) ↔
      wanted = keyword ∧ found ≠ keyword ∧ Term.keyword? term = some found := by
  rw [← requireKeyword_eq_wrongKeyword_iff]
  cases required : requireKeyword keyword term with
  | error error =>
    rw [ofKeyword_eq_fail required]
    simp [fail, stop]
  | ok =>
    refine iff_of_false (fun failed => ?_) (by simp)
    have goes : (ofTerm? zone options nested domain term path).outcome =
        .failed (.wrongKeyword wanted found) := by
      rw [ofTerm?_eq_map_ofKeyword (requireKeyword_eq_ok_iff.mp required), map_apply, Report.map, failed]
      rfl
    have only := @Simulation.ofTerm? zone zone options options _ nested nested
      (Lookup.simulation_failsOnly_wrongKeyword zone options) within domain term
    exact only path _ goes wanted found rfl

/-- The keyword of a term is that of its fields if these are read, so no fields of a second keyword are. Every
constructor builds directives of its keyword only, and it refuses a term as one of another keyword exactly when it
is one. -/
theorem ofKeyword_agrees (zone : Zone) (options : Options) (room : Nat) (domain term : String) :
    let build := ofKeyword zone options (Lookup.policyWithin zone options room) domain term
    (∀ keyword, Term.ReadsAs term keyword → Term.keyword? term = some keyword) ∧
    (∀ left right, Term.ReadsAs term left → Term.ReadsAs term right → left = right) ∧
    (∀ keyword path directive, (build keyword path).outcome = .done directive →
      directive.mechanism.keyword = keyword) ∧
    (∀ keyword path wanted found, (build keyword path).outcome = .failed (.wrongKeyword wanted found) ↔
      wanted = keyword ∧ found ≠ keyword ∧ Term.keyword? term = some found) := by
  intro build
  refine ⟨fun keyword => Term.ReadsAs.keyword?_eq, ?_, ?_, ?_⟩
  · intro left right readsLeft readsRight
    have same := readsLeft.keyword?_eq
    rw [readsRight.keyword?_eq, Option.some.injEq] at same
    exact same.symm
  · intro keyword path directive
    exact keyword_of_ofKeyword (Lookup.balanced_policyWithin zone options room)
  · intro keyword path wanted found
    exact ofKeyword_eq_wrongKeyword_iff (Lookup.policyWithin_failsOnly zone options room)

/-- A letter beyond ASCII stays in the domain, and keeps no constructor from seeing that mail hosts are meant. -/
theorem ofKeyword_agrees_folded :
    Term.keyword? "-Mx:\u212A.b/8" = some (.host .mx) ∧
    (ofHost {} .mx "-Mx:\u212A.b/8" "a" .outside).outcome =
      .done ⟨.fail, "-Mx:\u212A.b/8", .host .mx "\u212A.b" ⟨8, 128⟩ []⟩ ∧
    (ofHost {} .a "-Mx:\u212A.b/8" "a" .outside).outcome = .failed (.wrongKeyword (.host .a) (.host .mx)) ∧
    (inclusion {} {} "-Mx:\u212A.b/8").outcome = .failed (.wrongKeyword .inclusion (.host .mx)) := by
  have read : Term.readHost "-Mx:\u212A.b/8" = .ok ⟨.fail, .mx, some "\u212A.b", ⟨8, 128⟩⟩ := by
    decide +kernel
  have settled : DomainName.normalize "\u212A.b" = "\u212A.b" := by decide +kernel
  obtain ⟨named, -, -, refused⟩ := ofKeyword_agrees {} {}
    (Lookup.room {} (Lookup.inclusions {}).length) "a" "-Mx:\u212A.b/8"
  have found := named (.host .mx) ⟨_, read, rfl⟩
  refine ⟨found, ?_, ?_, ?_⟩
  · rw [ofHost_of_readHost {} "a" found read, Option.getD_some, settled]
    rfl
  · exact (refused (.host .a) .outside _ _).mpr ⟨rfl, by decide, found⟩
  · exact (refused .inclusion .outside _ _).mpr ⟨rfl, by decide, found⟩

end Directive

end SenderPolicy

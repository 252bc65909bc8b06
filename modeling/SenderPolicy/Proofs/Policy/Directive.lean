import SenderPolicy.Proofs.Inquiry
import SenderPolicy.Proofs.Term.Agreement

/-! # Building the directives of a text

Only a term that reads as an include looks at the path or at other policies. Every other term is built
in one way wherever it stands, and an include stops for the cause that keeps it from being entered or
for the cause of the policy inside. The directives of a text stop with the first cause among its terms,
each of which is built on the path where the text is read.
-/

namespace SenderPolicy

namespace Inquiry

theorem plain_askHosts (zone : Zone) (exchangers : List Exchanger) :
    (askHosts zone exchangers).Plain := by
  induction exchangers with
  | nil => exact plain_pure []
  | cons exchanger rest ih =>
    exact (plain_ask ..).bind fun first => ih.bind fun others => plain_pure (first ++ others)

theorem plain_hostAddresses (zone : Zone) (domain : String) (kind : HostKind) :
    (hostAddresses zone domain kind).Plain := by
  cases kind with
  | a => exact plain_ask ..
  | mx => exact (plain_ask ..).bind fun exchangers => plain_askHosts zone exchangers

end Inquiry

theorem requireKeyword_of_keyword? {wanted : Keyword} {term : String}
    (found : Term.keyword? term = some wanted) : requireKeyword wanted term = .ok () := by
  simp [requireKeyword, found]

/-- The keyword of a term holds nothing up once it is the wanted one. -/
theorem Inquiry.ofExcept_requireKeyword {wanted : Keyword} {term : String}
    (found : Term.keyword? term = some wanted) :
    Inquiry.ofExcept (requireKeyword wanted term) = pure () := by
  rw [requireKeyword_of_keyword? found]
  rfl

namespace Directive

open Inquiry

variable {zone : Zone} {options : Options} {nested nested' : String → Inquiry Policy}
  {domain term : String} {path inner : IncludePath} {fields : Term.InclusionTerm}
  {fault : FormatFault}

theorem plain_ofHost (zone : Zone) (wanted : HostKind) (term domain : String) :
    (ofHost zone wanted term domain).Plain := by
  refine (plain_ofExcept _).bind fun _ => (plain_ofExcept _).bind fun fields => ?_
  exact (plain_hostAddresses ..).bind fun addresses =>
    (plain_ofExcept _).bind fun networks => plain_pure _

/-- The directive of an include, made of the policy inside. -/
def ofIncluded (term : String) (fields : Term.InclusionTerm) (policy : Policy) : Directive :=
  ⟨fields.qualifier, term, .inclusion (DomainName.normalize fields.target) policy⟩

/-- An include whose fields cannot be read fails before anything is looked up. -/
theorem ofInclusion_eq_fail (found : Term.keyword? term = some .inclusion)
    (read : Term.readInclusion term = .error fault) :
    ofInclusion options nested term = fail (.format fault) := by
  rw [ofInclusion, ofExcept_requireKeyword found, pure_bind, read, ofExcept_mapError_error, fail_bind]

/-- A term that reads as an include is built from the policy of its target. -/
theorem ofInclusion_of_readInclusion (read : Term.readInclusion term = .ok fields) :
    ofInclusion options nested term =
      ofIncluded term fields <$>
        inside options.maxIncludeDepth (DomainName.normalize fields.target)
          (nested (DomainName.normalize fields.target)) := by
  rw [ofInclusion, ofExcept_requireKeyword (Term.keyword?_of_readInclusion read), pure_bind, read,
    ofExcept_mapError_ok, pure_bind, map_eq_pure_bind]
  rfl

theorem ofTerm?_of_readInclusion (read : Term.readInclusion term = .ok fields) :
    ofTerm? zone options nested domain term =
      (fun policy => some (ofIncluded term fields policy)) <$>
        inside options.maxIncludeDepth (DomainName.normalize fields.target)
          (nested (DomainName.normalize fields.target)) := by
  simp only [ofTerm?, Term.keyword?_of_readInclusion read, ofInclusion_of_readInclusion read,
    Functor.map_map]

/-- Any other term is built in one way, whatever includes look up, whatever limits them and wherever the
reader is. -/
theorem ofTerm?_of_readInclusion_error (zone : Zone) (options : Options) (domain : String)
    (read : Term.readInclusion term = .error fault) :
    ∃ inquiry : Inquiry (Option Directive), inquiry.Plain ∧
      ∀ other nested, other.strict = options.strict →
        ofTerm? zone other nested domain term = inquiry := by
  cases found : Term.keyword? term with
  | none =>
    refine ⟨if options.strict then fail (.unknownTerm term) else pure none, ?_, ?_⟩
    · split
      · exact plain_fail _
      · exact plain_pure none
    · intro other nested alike
      simp only [ofTerm?, found, alike]
  | some keyword =>
    cases keyword with
    | host kind =>
      refine ⟨some <$> ofHost zone kind term domain, (plain_ofHost ..).map _, fun _ _ _ => ?_⟩
      simp only [ofTerm?, found]
    | ip =>
      refine ⟨some <$> Inquiry.ofExcept (ofLiteral term), (plain_ofExcept _).map _, fun _ _ _ => ?_⟩
      simp only [ofTerm?, found]
    | all =>
      refine ⟨some <$> Inquiry.ofExcept (ofAll term), (plain_ofExcept _).map _, fun _ _ _ => ?_⟩
      simp only [ofTerm?, found]
    | inclusion =>
      refine ⟨some <$> fail (.format fault), (plain_fail _).map _, fun _ _ _ => ?_⟩
      simp only [ofTerm?, found, ofInclusion_eq_fail found read]

theorem plain_ofTerm? (read : Term.readInclusion term = .error fault) :
    (ofTerm? zone options nested domain term).Plain := by
  obtain ⟨inquiry, plain, same⟩ := ofTerm?_of_readInclusion_error zone options domain read
  rw [same options nested rfl]
  exact plain

theorem balanced_ofInclusion (balanced : ∀ name, (nested name).Balanced) :
    (ofInclusion options nested term).Balanced := by
  refine (plain_ofExcept _).balanced.bind fun _ => (plain_ofExcept _).balanced.bind fun fields => ?_
  exact ((balanced _).inside _ _).bind fun policy => (plain_pure _).balanced

theorem balanced_ofTerm? (balanced : ∀ name, (nested name).Balanced) :
    (ofTerm? zone options nested domain term).Balanced := by
  cases read : Term.readInclusion term with
  | error fault => exact (plain_ofTerm? read).balanced
  | ok fields =>
    rw [ofTerm?_of_readInclusion read]
    exact ((balanced _).inside _ _).map _

theorem extends_ofTerm? (zone : Zone) (options : Options) (domain term : String)
    (extension : ∀ name, (nested' name).Extends (nested name)) :
    (ofTerm? zone options nested' domain term).Extends (ofTerm? zone options nested domain term) := by
  cases read : Term.readInclusion term with
  | error fault =>
    obtain ⟨inquiry, _, same⟩ := ofTerm?_of_readInclusion_error zone options domain read
    rw [same options nested rfl, same options nested' rfl]
    exact .refl _
  | ok fields =>
    rw [ofTerm?_of_readInclusion read, ofTerm?_of_readInclusion read]
    exact ((extension _).inside _ _).map _

/-- An include depends on the policy of its target alone, and only where it is entered. -/
theorem ofInclusion_congr
    (same : ∀ fields inner, Term.readInclusion term = .ok fields →
      path.enter options.maxIncludeDepth (DomainName.normalize fields.target) = .ok inner →
      nested' (DomainName.normalize fields.target) inner =
        nested (DomainName.normalize fields.target) inner) :
    ofInclusion options nested' term path = ofInclusion options nested term path := by
  refine bind_apply_congr rfl fun _ middle _ required => ?_
  obtain ⟨-, rfl, -⟩ := ofExcept_eq_done_iff.mp required
  cases read : Term.readInclusion term with
  | error fault => rw [ofExcept_mapError_error, fail_bind, fail_bind]
  | ok fields =>
    rw [ofExcept_mapError_ok, pure_bind, pure_bind]
    exact bind_apply_congr (inside_apply_congr fun inner => same fields inner read) fun _ _ _ _ => rfl

/-- Any other term depends on no policy. -/
theorem ofTerm?_congr
    (same : Term.keyword? term = some .inclusion →
      ofInclusion options nested' term path = ofInclusion options nested term path) :
    ofTerm? zone options nested' domain term path = ofTerm? zone options nested domain term path := by
  cases found : Term.keyword? term with
  | none => simp only [ofTerm?, found]
  | some keyword =>
    cases keyword with
    | inclusion => simp only [ofTerm?, found, map_apply, same found]
    | host kind => simp only [ofTerm?, found]
    | ip => simp only [ofTerm?, found]
    | all => simp only [ofTerm?, found]

/-- Inside an include that is entered, a term stops for the same cause as the policy there. -/
theorem ofTerm?_cause?_of_entered (read : Term.readInclusion term = .ok fields)
    (entered : path.enter options.maxIncludeDepth (DomainName.normalize fields.target) = .ok inner) :
    (ofTerm? zone options nested domain term path).outcome.cause? =
      (nested (DomainName.normalize fields.target) inner).outcome.cause? := by
  rw [ofTerm?_of_readInclusion read, map_apply, Report.map, Outcome.cause?_map,
    inside_outcome _ entered]

/-- An include that is refused is the cause of its term. -/
theorem ofTerm?_cause?_of_refused (read : Term.readInclusion term = .ok fields) {error : PolicyError}
    (refused : path.enter options.maxIncludeDepth (DomainName.normalize fields.target) =
      .error error) :
    (ofTerm? zone options nested domain term path).outcome.cause? = some (.error error) := by
  rw [ofTerm?_of_readInclusion read, map_apply, Report.map, Outcome.cause?_map,
    inside_outcome_of_refused _ refused]
  rfl

theorem balanced_ofTerms (zone : Zone) (options : Options) (domain : String)
    (balanced : ∀ name, (nested name).Balanced) (terms : List String) :
    (ofTerms zone options nested domain terms).Balanced := by
  induction terms with
  | nil => exact (plain_pure _).balanced
  | cons term rest ih =>
    exact (balanced_ofTerm? balanced).bind fun first => ih.bind fun others => (plain_pure _).balanced

theorem extends_ofTerms (zone : Zone) (options : Options) (domain : String)
    (extension : ∀ name, (nested' name).Extends (nested name)) (terms : List String) :
    (ofTerms zone options nested' domain terms).Extends (ofTerms zone options nested domain terms) := by
  induction terms with
  | nil => exact .refl _
  | cons term rest ih =>
    have here := extends_ofTerm? zone options domain term extension
    exact here.bind fun first => ih.bind fun others => .refl _

/-- Terms depend on each of them from where the terms before it are built. -/
theorem ofTerms_congr {terms : List String}
    (same : ∀ before term after directives last queries, terms = before ++ term :: after →
      ofTerms zone options nested domain before path = ⟨.done directives, last, queries⟩ →
      ofTerm? zone options nested' domain term last = ofTerm? zone options nested domain term last) :
    ofTerms zone options nested' domain terms path = ofTerms zone options nested domain terms path := by
  induction terms generalizing path with
  | nil => rfl
  | cons term rest ih =>
    refine bind_apply_congr (same [] term rest [] path [] rfl rfl) fun first middle asked ran => ?_
    refine bind_apply_congr (ih fun before next after directives last queries parts built => ?_)
      fun _ _ _ _ => rfl
    have built_here : ofTerms zone options nested domain (term :: before) path =
        ⟨.done (first.toList ++ directives), last, asked ++ queries⟩ := by
      rw [ofTerms, bind_apply_done ran, bind_apply_done built, pure_apply, List.append_nil]
    exact same (term :: before) next after _ last _ (congrArg (term :: ·) parts) built_here

/-- The first cause among the terms is the cause of them all. -/
theorem ofTerms_cause? (balanced : ∀ name, (nested name).Balanced) (terms : List String)
    (path : IncludePath) :
    (ofTerms zone options nested domain terms path).outcome.cause? =
      terms.findSome? fun term => (ofTerm? zone options nested domain term path).outcome.cause? := by
  induction terms with
  | nil => rfl
  | cons term rest ih =>
    rw [List.findSome?_cons, ofTerms]
    cases stopped : (ofTerm? zone options nested domain term path).outcome.cause? with
    | some cause => exact bind_cause?_of_eq_some stopped
    | none =>
      obtain ⟨first, built⟩ := Outcome.cause?_eq_none_iff.mp stopped
      rw [bind_cause?_of_done (balanced_ofTerm? balanced) built]
      change _ = rest.findSome? _
      rw [← ih, ← map_eq_pure_bind, map_apply, Report.map, Outcome.cause?_map]

theorem balanced_ofText (balanced : ∀ name, (nested name).Balanced) (raw : String) :
    (ofText zone options nested domain raw).Balanced := by
  unfold ofText
  split
  · exact balanced_ofTerms zone options domain balanced _
  · exact (plain_fail _).balanced

theorem extends_ofText (extension : ∀ name, (nested' name).Extends (nested name)) (raw : String) :
    (ofText zone options nested' domain raw).Extends (ofText zone options nested domain raw) := by
  unfold ofText
  split
  · exact extends_ofTerms zone options domain extension _
  · exact .refl _

end Directive

end SenderPolicy

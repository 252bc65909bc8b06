import SenderPolicy.Proofs.Lookup.Simulation
import SenderPolicy.Proofs.Term.Case

/-! # Policies in either case

A text in small letters states the terms of the text in small letters. Terms that are the same in small letters are
built alike: they ask the same and give directives that differ in nothing but their own texts, or are refused alike.
What stands in the policies inside does not come from the terms, so it is the same to the letter.
-/

namespace SenderPolicy

open Text

def PolicyError.lowered : PolicyError → PolicyError
  | .format fault => .format fault.lowered
  | .unknownTerm term => .unknownTerm (Text.lowered term)
  | error => error

def Directive.lowered (directive : Directive) : Directive :=
  { directive with text := Text.lowered directive.text }

theorem DomainName.normalize_lowered (name : String) : normalize (Text.lowered name) = normalize name := by
  rw [normalize, normalize, toList_lowered, map_toLower_map_toLower]

namespace PolicyText

theorem isPolicy_lowered (raw : String) : isPolicy (Text.lowered raw) = isPolicy raw := by
  simp only [isPolicy, toList_lowered, map_toLower_map_toLower]

/-- The terms of a text in small letters are its terms in small letters. -/
theorem terms_lowered (raw : String) : terms (Text.lowered raw) = (terms raw).map Text.lowered := by
  have blank : (fun piece : List Char => decide (piece ≠ [])) ∘ List.map Char.toLower =
      fun piece => decide (piece ≠ []) :=
    funext fun piece => decide_eq_decide.mpr (not_congr List.map_eq_nil_iff)
  rw [terms, toList_lowered, splitOn_map_toLower rfl, ← List.map_tail, List.filter_map, blank, List.map_map, terms,
    List.map_map]
  exact List.map_congr_left fun piece _ => (lowered_ofList piece).symm

theorem inclusions_lowered (raw : String) : inclusions (Text.lowered raw) = (inclusions raw).map Text.lowered := by
  rw [inclusions, terms_lowered, List.filterMap_map, inclusions, List.map_filterMap]
  refine congrArg (fun found => List.filterMap found (terms raw)) (funext fun term => ?_)
  simp only [Function.comp_apply, Term.readInclusion_lowered]
  cases Term.readInclusion term <;> rfl

end PolicyText

section Alike

variable {α β γ δ : Type}

/-- Two reports are alike: what was asked is the same, and so are the values that `f` makes of theirs, or the errors
in small letters. -/
inductive Report.AlikeBy (f : α → γ) : Report α → Report α → Prop where
  | done {value value' : α} (same : f value = f value') (path : IncludePath) (queries : List Query) :
      AlikeBy f ⟨.done value, path, queries⟩ ⟨.done value', path, queries⟩
  | failed {error error' : PolicyError} (same : error.lowered = error'.lowered) (path : IncludePath)
      (queries : List Query) : AlikeBy f ⟨.failed error, path, queries⟩ ⟨.failed error', path, queries⟩
  | unending (path : IncludePath) (queries : List Query) :
      AlikeBy f ⟨.unending, path, queries⟩ ⟨.unending, path, queries⟩

/-- What was asked before may come first in both. -/
theorem Report.AlikeBy.prepend {f : α → γ} {report report' : Report α} (alike : report.AlikeBy f report')
    (asked : List Query) :
    Report.AlikeBy f { report with queries := asked ++ report.queries }
      { report' with queries := asked ++ report'.queries } := by
  cases alike with
  | done same path more => exact .done same path (asked ++ more)
  | failed same path more => exact .failed same path (asked ++ more)
  | unending path more => exact .unending path (asked ++ more)

namespace Inquiry

/-- Wherever the reader is, the reports of two inquiries are alike. -/
def AlikeBy (f : α → γ) (inquiry inquiry' : Inquiry α) : Prop := ∀ path, (inquiry path).AlikeBy f (inquiry' path)

variable {f : α → γ} {g : β → δ}

theorem AlikeBy.refl (f : α → γ) (inquiry : Inquiry α) : inquiry.AlikeBy f inquiry := by
  intro path
  rcases inquiry path with ⟨outcome, last, queries⟩
  cases outcome with
  | done value => exact .done rfl last queries
  | failed error => exact .failed rfl last queries
  | unending => exact .unending last queries

theorem alikeBy_fail {error error' : PolicyError} (same : error.lowered = error'.lowered) :
    (fail error : Inquiry α).AlikeBy f (fail error') := fun path => .failed same path []

theorem alikeBy_pure {value value' : α} (same : f value = f value') :
    (pure value : Inquiry α).AlikeBy f (pure value') := fun path => .done same path []

theorem AlikeBy.bind {first first' : Inquiry α} {next next' : α → Inquiry β} (here : first.AlikeBy f first')
    (after : ∀ value value', f value = f value' → (next value).AlikeBy g (next' value')) :
    (first >>= next).AlikeBy g (first' >>= next') := by
  intro path
  have alike := here path
  generalize ran : first path = report at alike
  generalize went : first' path = report' at alike
  cases alike with
  | failed same last queries =>
    rw [bind_apply_failed ran, bind_apply_failed went]
    exact .failed same last queries
  | unending last queries =>
    rw [bind_apply_unending ran, bind_apply_unending went]
    exact .unending last queries
  | done same last queries =>
    rw [bind_apply_done ran, bind_apply_done went]
    exact (after _ _ same last).prepend queries

theorem AlikeBy.map {inquiry inquiry' : Inquiry α} (here : inquiry.AlikeBy f inquiry') {make make' : α → β}
    (agree : ∀ value value', f value = f value' → g (make value) = g (make' value')) :
    (make <$> inquiry).AlikeBy g (make' <$> inquiry') := by
  rw [map_eq_pure_bind, map_eq_pure_bind]
  exact here.bind fun value value' same => alikeBy_pure (agree value value' same)

/-- What is made of one value in two ways is alike if it comes to the same. -/
theorem alikeBy_map (inquiry : Inquiry α) {make make' : α → β} (agree : ∀ value, g (make value) = g (make' value)) :
    (make <$> inquiry).AlikeBy g (make' <$> inquiry) :=
  (AlikeBy.refl id inquiry).map fun value value' same => by rw [agree value, show value = value' from same]

end Inquiry

end Alike

open Inquiry

/-- Results that are the same in small letters are both errors or both values. -/
theorem FormatFault.cases_of_lowered {α β : Type} {result result' : Except FormatFault α} {f : α → β}
    (same : (result.map f).mapError lowered = (result'.map f).mapError lowered) :
    (∃ fault fault', result = .error fault ∧ result' = .error fault' ∧ fault.lowered = fault'.lowered) ∨
      ∃ fields fields', result = .ok fields ∧ result' = .ok fields' ∧ f fields = f fields' := by
  cases result with
  | error fault =>
    cases result' with
    | error fault' => exact .inl ⟨fault, fault', rfl, rfl, Except.error.inj same⟩
    | ok fields' => cases same
  | ok fields =>
    cases result' with
    | error fault' => cases same
    | ok fields' => exact .inr ⟨fields, fields', rfl, rfl, Except.ok.inj same⟩

namespace Directive

variable {zone : Zone} {options : Options} {nested : String → Inquiry Policy} {domain term term' : String}

theorem lowered_eq_iff {left right : Directive} :
    left.lowered = right.lowered ↔ left.qualifier = right.qualifier ∧
      Text.lowered left.text = Text.lowered right.text ∧ left.mechanism = right.mechanism := by
  cases left
  cases right
  simp [lowered]

/-- A term of hosts names its domain in either case. -/
theorem alikeBy_ofHost {kind : HostKind} (same : Text.lowered term = Text.lowered term')
    (found : Term.keyword? term = some (.host kind)) (found' : Term.keyword? term' = some (.host kind)) :
    (ofHost zone kind term domain).AlikeBy lowered (ofHost zone kind term' domain) := by
  have reads : ((Term.readHost term).map Term.HostTerm.lowered).mapError FormatFault.lowered =
      ((Term.readHost term').map Term.HostTerm.lowered).mapError FormatFault.lowered := by
    rw [← Term.readHost_lowered, same, Term.readHost_lowered]
  rcases FormatFault.cases_of_lowered reads with
    ⟨fault, fault', read, read', faults⟩ | ⟨fields, fields', read, read', equal⟩
  · rw [ofHost_eq_fail zone domain found read, ofHost_eq_fail zone domain found' read']
    exact alikeBy_fail (congrArg PolicyError.format faults)
  · simp only [Term.HostTerm.lowered, Term.HostTerm.mk.injEq] at equal
    obtain ⟨qualifier, hosts, target, lengths⟩ := equal
    have name : DomainName.normalize (fields.domain.getD domain) =
        DomainName.normalize (fields'.domain.getD domain) := by
      rw [← DomainName.normalize_lowered, ← Option.getD_map Text.lowered, target, Option.getD_map,
        DomainName.normalize_lowered]
    rw [ofHost_of_readHost zone domain found read, ofHost_of_readHost zone domain found' read', qualifier, hosts,
      name, lengths]
    exact alikeBy_map _ fun networks => lowered_eq_iff.mpr ⟨rfl, same, rfl⟩

/-- What is made of fields that have no case is alike. -/
theorem alikeBy_format {α β γ : Type} {result result' : Except FormatFault α}
    (same : result.mapError FormatFault.lowered = result'.mapError FormatFault.lowered) {make make' : α → β}
    {g : β → γ} (agree : ∀ value, g (make value) = g (make' value)) :
    (Inquiry.ofExcept ((result.map make).mapError .format)).AlikeBy g
      (Inquiry.ofExcept ((result'.map make').mapError .format)) := by
  have both : (result.map id).mapError FormatFault.lowered = (result'.map id).mapError FormatFault.lowered := by
    rw [Except.map_id]
    exact same
  rcases FormatFault.cases_of_lowered both with ⟨fault, fault', rfl, rfl, faults⟩ | ⟨fields, fields', rfl, rfl, equal⟩
  · exact alikeBy_fail (congrArg PolicyError.format faults)
  · obtain rfl : fields = fields' := equal
    exact alikeBy_pure (agree fields)

/-- An include names its target in either case. -/
theorem alikeBy_ofInclusion (same : Text.lowered term = Text.lowered term')
    (found : Term.keyword? term = some .inclusion) (found' : Term.keyword? term' = some .inclusion) :
    (ofInclusion options nested term).AlikeBy lowered (ofInclusion options nested term') := by
  have reads : ((Term.readInclusion term).map Term.InclusionTerm.lowered).mapError FormatFault.lowered =
      ((Term.readInclusion term').map Term.InclusionTerm.lowered).mapError FormatFault.lowered := by
    rw [← Term.readInclusion_lowered, same, Term.readInclusion_lowered]
  rcases FormatFault.cases_of_lowered reads with
    ⟨fault, fault', read, read', faults⟩ | ⟨fields, fields', read, read', equal⟩
  · rw [ofInclusion_eq_fail found read, ofInclusion_eq_fail found' read']
    exact alikeBy_fail (congrArg PolicyError.format faults)
  · simp only [Term.InclusionTerm.lowered, Term.InclusionTerm.mk.injEq] at equal
    obtain ⟨qualifier, target⟩ := equal
    have name : DomainName.normalize fields.target = DomainName.normalize fields'.target := by
      rw [← DomainName.normalize_lowered, target, DomainName.normalize_lowered]
    rw [ofInclusion_of_readInclusion read, ofInclusion_of_readInclusion read', name]
    refine alikeBy_map _ fun policy => lowered_eq_iff.mpr ⟨qualifier, same, ?_⟩
    rw [ofIncluded, ofIncluded, name]

/-- Terms that are the same in small letters are built alike, or skipped alike. -/
theorem alikeBy_ofTerm? (zone : Zone) (options : Options) (nested : String → Inquiry Policy) (domain : String)
    (same : Text.lowered term = Text.lowered term') :
    (ofTerm? zone options nested domain term).AlikeBy (Option.map lowered)
      (ofTerm? zone options nested domain term') := by
  have keywords : Term.keyword? term' = Term.keyword? term := by
    rw [← Term.keyword?_lowered, ← same, Term.keyword?_lowered]
  have once {inquiry inquiry' : Inquiry Directive} (here : inquiry.AlikeBy lowered inquiry') :
      (some <$> inquiry).AlikeBy (Option.map lowered) (some <$> inquiry') :=
    here.map fun _ _ equal => congrArg some equal
  cases found : Term.keyword? term with
  | none =>
    simp only [ofTerm?, keywords, found]
    split
    · exact alikeBy_fail (congrArg PolicyError.unknownTerm same)
    · exact alikeBy_pure rfl
  | some keyword =>
    have found' : Term.keyword? term' = some keyword := keywords.trans found
    cases keyword with
    | host kind =>
      simp only [ofTerm?, found, found']
      exact once (alikeBy_ofHost same found found')
    | ip =>
      have reads : (Term.readLiteral term).mapError FormatFault.lowered =
          (Term.readLiteral term').mapError FormatFault.lowered := by
        rw [← Term.readLiteral_lowered, same, Term.readLiteral_lowered]
      simp only [ofTerm?, found, found', ofLiteral_eq_mapError found, ofLiteral_eq_mapError found']
      exact once (alikeBy_format reads fun fields => lowered_eq_iff.mpr ⟨rfl, same, rfl⟩)
    | all =>
      have reads : (Term.readAll term).mapError FormatFault.lowered =
          (Term.readAll term').mapError FormatFault.lowered := by
        rw [← Term.readAll_lowered, same, Term.readAll_lowered]
      simp only [ofTerm?, found, found', ofAll_eq_mapError found, ofAll_eq_mapError found']
      exact once (alikeBy_format reads fun qualifier => lowered_eq_iff.mpr ⟨rfl, same, rfl⟩)
    | inclusion =>
      simp only [ofTerm?, found, found']
      exact once (alikeBy_ofInclusion same found found')

/-- So are terms, one after the other. -/
theorem alikeBy_ofTerms (zone : Zone) (options : Options) (nested : String → Inquiry Policy) (domain : String)
    {terms terms' : List String} (same : terms.map Text.lowered = terms'.map Text.lowered) :
    (ofTerms zone options nested domain terms).AlikeBy (List.map lowered)
      (ofTerms zone options nested domain terms') := by
  induction terms generalizing terms' with
  | nil =>
    obtain rfl := List.map_eq_nil_iff.mp same.symm
    exact .refl _ _
  | cons term rest ih =>
    obtain ⟨term', rest', rfl, first, others⟩ := List.map_eq_cons_iff.mp same.symm
    refine (alikeBy_ofTerm? zone options nested domain first.symm).bind fun here here' built => ?_
    refine (ih others.symm).bind fun after after' rest => alikeBy_pure ?_
    rw [List.map_append, List.map_append, ← Option.toList_map, ← Option.toList_map, built, rest]

/-- So are texts. -/
theorem alikeBy_ofText (zone : Zone) (options : Options) (nested : String → Inquiry Policy) (domain : String)
    {raw raw' : String} (same : Text.lowered raw = Text.lowered raw') :
    (ofText zone options nested domain raw).AlikeBy (List.map lowered) (ofText zone options nested domain raw') := by
  have policies : PolicyText.isPolicy raw' = PolicyText.isPolicy raw := by
    rw [← PolicyText.isPolicy_lowered, ← same, PolicyText.isPolicy_lowered]
  have terms : (PolicyText.terms raw).map Text.lowered = (PolicyText.terms raw').map Text.lowered := by
    rw [← PolicyText.terms_lowered, same, PolicyText.terms_lowered]
  unfold ofText
  rw [policies]
  split
  · exact alikeBy_ofTerms zone options nested domain terms
  · exact alikeBy_fail rfl

end Directive

/-- The trail of a directive starts with its own text, and nothing else in it is the directive's. -/
theorem Directive.trail_lowered (directive : Directive) (address : Address) :
    directive.lowered.trail address = (directive.trail address).modifyHead Text.lowered := by
  obtain ⟨qualifier, text, mechanism⟩ := directive
  cases mechanism with
  | host kind domain lengths networks =>
    simp only [lowered, trail]
    split <;> rfl
  | ip network =>
    simp only [lowered, trail]
    split <;> rfl
  | inclusion domain policy =>
    simp only [lowered, trail]
    cases policy.trail address <;> rfl
  | all => rfl

theorem firstTrail_map_lowered (address : Address) (directives : List Directive) :
    firstTrail address (directives.map Directive.lowered) =
      (firstTrail address directives).modifyHead Text.lowered := by
  induction directives with
  | nil => rfl
  | cons directive rest ih =>
    rw [List.map_cons, firstTrail, firstTrail, directive.trail_lowered, ih]
    cases directive.trail address <;> rfl

/-- Directives that are the same in small letters leave trails that are. -/
theorem map_lowered_firstTrail (address : Address) {left right : List Directive}
    (same : left.map Directive.lowered = right.map Directive.lowered) :
    (firstTrail address left).map Text.lowered = (firstTrail address right).map Text.lowered := by
  have head (texts : List String) : (texts.modifyHead Text.lowered).map Text.lowered = texts.map Text.lowered := by
    cases texts <;> simp
  rw [← head, ← firstTrail_map_lowered, same, firstTrail_map_lowered, head]

end SenderPolicy

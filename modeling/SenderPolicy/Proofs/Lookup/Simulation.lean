import SenderPolicy.Proofs.Lookup.Step
import SenderPolicy.Proofs.Policy.Hosts

/-! # Two look-ups side by side

Two look-ups of one domain may ask different name servers, have different options and stand on different
paths, but both are made of the same steps: they search texts, find the networks of hosts, judge terms
and go into includes. A relation between inquiries that holds of every step, and passes from the parts of
a sequence and from the inside of an include to the whole, holds of the two look-ups.
-/

namespace SenderPolicy

namespace Inquiry

def hostNetworks (zone : Zone) (name : String) (kind : HostKind) (lengths : PrefixLengths) :
    Inquiry (List Block) := do
  let addresses ← hostAddresses zone name kind
  ofExcept (networksOf addresses lengths)

/-- A relation between inquiries that passes from the parts of a sequence to the whole. -/
structure Composes (rel : (α : Type) → Inquiry α → Inquiry α → Prop) : Prop where
  value {α : Type} (value : α) : rel α (pure value) (pure value)
  /-- The next step only matters where the first sequence takes it. -/
  bind {α β : Type} {first first' : Inquiry α} {next next' : α → Inquiry β} (here : rel α first first')
    (after : ∀ path value, (first path).outcome = .done value → rel β (next value) (next' value)) :
    rel β (first >>= next) (first' >>= next')

namespace Composes

variable {rel : (α : Type) → Inquiry α → Inquiry α → Prop} {zone zone' : Zone}

theorem map (composes : Composes rel) {α β : Type} (f : α → β) {inquiry inquiry' : Inquiry α}
    (here : rel α inquiry inquiry') : rel β (f <$> inquiry) (f <$> inquiry') := by
  rw [map_eq_pure_bind, map_eq_pure_bind]
  exact composes.bind here fun _ value _ => composes.value (f value)

theorem askHosts (composes : Composes rel)
    (ip : ∀ host, rel (List Address) (askIp zone host) (askIp zone' host)) (exchangers : List Exchanger) :
    rel (List Address) (askHosts zone exchangers) (askHosts zone' exchangers) := by
  induction exchangers with
  | nil => exact composes.value []
  | cons exchanger rest ih =>
    exact composes.bind (ip exchanger.host) fun _ first _ =>
      composes.bind ih fun _ others _ => composes.value (first ++ others)

/-- Hosts are found with queries alone. -/
theorem hostAddresses (composes : Composes rel)
    (ip : ∀ host, rel (List Address) (askIp zone host) (askIp zone' host))
    (mx : ∀ name, rel (List Exchanger) (askMx zone name) (askMx zone' name)) (name : String)
    (kind : HostKind) :
    rel (List Address) (hostAddresses zone name kind) (hostAddresses zone' name kind) := by
  cases kind with
  | a => exact ip name
  | mx => exact composes.bind (mx name) fun _ exchangers _ => composes.askHosts ip exchangers

/-- Where the lengths fit, nothing is left that could fail once the hosts are found. -/
theorem hostNetworks (composes : Composes rel)
    (ip : ∀ host, rel (List Address) (askIp zone host) (askIp zone' host))
    (mx : ∀ name, rel (List Exchanger) (askMx zone name) (askMx zone' name)) (name : String)
    (kind : HostKind) {lengths : PrefixLengths} (fit : lengths.Fit) :
    rel (List Block) (hostNetworks zone name kind lengths) (hostNetworks zone' name kind lengths) := by
  refine composes.bind (composes.hostAddresses ip mx name kind) fun _ addresses _ => ?_
  rw [networksOf_eq fit]
  exact composes.value _

end Composes

end Inquiry

open Inquiry

def Directive.ofUnknown (options : Options) (term : String) : Inquiry (Option Directive) :=
  if options.strict then fail (.unknownTerm term) else pure none

/-- A relation between what two look-ups do that holds of each of their steps and passes from parts to
wholes. -/
structure Simulation (zone zone' : Zone) (options options' : Options)
    (rel : (α : Type) → Inquiry α → Inquiry α → Prop) : Prop extends Composes rel where
  text (name : String) : rel String (policyText zone name) (policyText zone' name)
  networks (name : String) (kind : HostKind) {lengths : PrefixLengths} (fit : lengths.Fit) :
    rel (List Block) (hostNetworks zone name kind lengths) (hostNetworks zone' name kind lengths)
  unknown {term : String} (unknown : Term.keyword? term = none) :
    rel (Option Directive) (Directive.ofUnknown options term) (Directive.ofUnknown options' term)
  malformed {α : Type} (fault : FormatFault) : rel α (fail (.format fault)) (fail (.format fault))
  inside (name : String) {inquiry inquiry' : Inquiry Policy} (within : rel Policy inquiry inquiry') :
    rel Policy (inside options.maxIncludeDepth name inquiry)
      (inside options'.maxIncludeDepth name inquiry')

namespace Directive

variable {term : String}

/-- A term of hosts is built from their networks. -/
theorem ofHost_of_readHost (zone : Zone) (domain : String) {kind : HostKind}
    (found : Term.keyword? term = some (.host kind)) {fields : Term.HostTerm}
    (read : Term.readHost term = .ok fields) :
    ofHost zone kind term domain =
      (fun networks => ⟨fields.qualifier, term, .host fields.kind
          (DomainName.normalize (fields.domain.getD domain)) fields.lengths networks⟩) <$>
        hostNetworks zone (DomainName.normalize (fields.domain.getD domain)) fields.kind
          fields.lengths := by
  rw [ofHost, ofExcept_requireKeyword found, pure_bind, read, ofExcept_mapError_ok, pure_bind,
    hostNetworks, map_eq_pure_bind, bind_assoc]

theorem ofHost_eq_fail (zone : Zone) (domain : String) {kind : HostKind}
    (found : Term.keyword? term = some (.host kind)) {fault : FormatFault}
    (read : Term.readHost term = .error fault) :
    ofHost zone kind term domain = fail (.format fault) := by
  rw [ofHost, ofExcept_requireKeyword found, pure_bind, read, ofExcept_mapError_error, fail_bind]

/-- A literal is built or malformed. -/
theorem ofLiteral_eq_mapError (found : Term.keyword? term = some .ip) :
    ofLiteral term = ((Term.readLiteral term).map fun fields =>
      (⟨fields.qualifier, term, .ip fields.network⟩ : Directive)).mapError .format := by
  rw [ofLiteral, requireKeyword_of_keyword? found]
  cases Term.readLiteral term <;> rfl

theorem ofAll_eq_mapError (found : Term.keyword? term = some .all) :
    ofAll term = ((Term.readAll term).map fun qualifier =>
      (⟨qualifier, term, .all⟩ : Directive)).mapError .format := by
  rw [ofAll, requireKeyword_of_keyword? found]
  cases Term.readAll term <;> rfl

end Directive

namespace Simulation

variable {zone zone' : Zone} {options options' : Options}
  {rel : (α : Type) → Inquiry α → Inquiry α → Prop} {nested nested' : String → Inquiry Policy}

theorem format (simulation : Simulation zone zone' options options' rel) {α : Type}
    (result : Except FormatFault α) :
    rel α (ofExcept (result.mapError .format)) (ofExcept (result.mapError .format)) := by
  cases result with
  | ok value => exact simulation.value value
  | error fault => exact simulation.malformed fault

/-- One term is built side by side, if the policies of includes are found side by side. -/
theorem ofTerm? (simulation : Simulation zone zone' options options' rel)
    (within : ∀ name, rel Policy (nested name) (nested' name)) (domain term : String) :
    rel (Option Directive) (Directive.ofTerm? zone options nested domain term)
      (Directive.ofTerm? zone' options' nested' domain term) := by
  cases found : Term.keyword? term with
  | none =>
    simp only [Directive.ofTerm?, found]
    exact simulation.unknown found
  | some keyword =>
    cases keyword with
    | host kind =>
      simp only [Directive.ofTerm?, found]
      apply simulation.map
      cases read : Term.readHost term with
      | error fault =>
        rw [Directive.ofHost_eq_fail zone domain found read,
          Directive.ofHost_eq_fail zone' domain found read]
        exact simulation.malformed fault
      | ok fields =>
        rw [Directive.ofHost_of_readHost zone domain found read,
          Directive.ofHost_of_readHost zone' domain found read]
        exact simulation.map _ (simulation.networks _ _ (Term.fit_of_readHost read))
    | ip =>
      simp only [Directive.ofTerm?, found, Directive.ofLiteral_eq_mapError found]
      exact simulation.map some (simulation.format _)
    | all =>
      simp only [Directive.ofTerm?, found, Directive.ofAll_eq_mapError found]
      exact simulation.map some (simulation.format _)
    | inclusion =>
      cases read : Term.readInclusion term with
      | error fault =>
        simp only [Directive.ofTerm?, found, Directive.ofInclusion_eq_fail found read]
        exact simulation.map some (simulation.malformed fault)
      | ok fields =>
        rw [Directive.ofTerm?_of_readInclusion read, Directive.ofTerm?_of_readInclusion read]
        exact simulation.map _ (simulation.inside _ (within _))

/-- So are terms, one after the other. -/
theorem ofTerms (simulation : Simulation zone zone' options options' rel)
    (within : ∀ name, rel Policy (nested name) (nested' name)) (domain : String) (terms : List String) :
    rel (List Directive) (Directive.ofTerms zone options nested domain terms)
      (Directive.ofTerms zone' options' nested' domain terms) := by
  induction terms with
  | nil => exact simulation.value []
  | cons term rest ih =>
    have here := simulation.ofTerm? within domain term
    exact simulation.bind here fun _ first _ =>
      simulation.bind ih fun _ others _ => simulation.value _

/-- So is a text that states a policy. -/
theorem ofText (simulation : Simulation zone zone' options options' rel)
    (within : ∀ name, rel Policy (nested name) (nested' name)) (domain : String) {raw : String}
    (policy : PolicyText.isPolicy raw = true) :
    rel (List Directive) (Directive.ofText zone options nested domain raw)
      (Directive.ofText zone' options' nested' domain raw) := by
  rw [Directive.ofText, Directive.ofText, if_pos policy, if_pos policy]
  exact simulation.ofTerms within domain _

/-- With room for as many policies, two policies are looked up side by side. -/
theorem policyWithin (simulation : Simulation zone zone' options options' rel)
    (unending : rel Policy (stop .unending) (stop .unending)) (room : Nat) (domain : String) :
    rel Policy (Lookup.policyWithin zone options room domain)
      (Lookup.policyWithin zone' options' room domain) := by
  induction room generalizing domain with
  | zero => exact unending
  | succ room ih =>
    refine simulation.bind (simulation.text _) fun path raw found => ?_
    have policy := Zone.isPolicy_of_policyText? (policyText_outcome_eq_done_iff.mp found)
    exact simulation.bind (simulation.ofText ih _ policy) fun _ directives _ => simulation.value _

end Simulation

end SenderPolicy

import SenderPolicy.Proofs.Lookup.Errors
import SenderPolicy.Proofs.Policy.FirstMatch
import SenderPolicy.Proofs.Term.Literal
import SenderPolicy.Record

/-! # Where the errors of a look-up come from

A term that is refused stands in a text that was asked for, and is refused for its fields if it has a keyword and
for the lack of one only where the options are strict. A depth that is too deep is the one that the options set. No
look-up hands a term to the constructor of another keyword or leaves a policy unread, so what is found answers for
every address.
-/

namespace SenderPolicy

def FormatFault.term? : FormatFault → Option String
  | .malformed term => some term
  | .notKeyword term _ => some term
  | .badLiteral _ _ term => some term
  | .lengthOutOfRange _ _ term => some term
  | .badBlock _ => none

/-- A term stands in the policy of a domain whose texts are among what was asked for. -/
def Zone.Shows (zone : Zone) (queries : List Query) (term : String) : Prop :=
  ∃ name raw, .about .txt name ∈ queries ∧ zone.policyText? name = some raw ∧ term ∈ PolicyText.terms raw

/-- What an error says about terms is true of terms that were seen, and what it says about the options of these. -/
def PolicyError.BorneOut (options : Options) (seen : String → Prop) : PolicyError → Prop
  | .format fault => ∃ term keyword, fault.term? = some term ∧ seen term ∧ Term.keyword? term = some keyword
  | .wrongKeyword .. => False
  | .dns .. => True
  | .noPolicy _ => True
  | .unknownTerm term => options.strict = true ∧ seen term ∧ Term.keyword? term = none
  | .inclusionLoop _ => True
  | .inclusionTooDeep _ limit => options.maxIncludeDepth = some limit
  | .unparsed _ => False

/-- An error stays borne out when more terms are seen. -/
theorem PolicyError.BorneOut.mono {options : Options} {seen more : String → Prop} {error : PolicyError}
    (borne : error.BorneOut options seen) (also : ∀ term, seen term → more term) : error.BorneOut options more := by
  cases error with
  | format fault =>
    obtain ⟨term, keyword, fails, here, found⟩ := borne
    exact ⟨term, keyword, fails, also term here, found⟩
  | unknownTerm term => exact ⟨borne.1, also term borne.2.1, borne.2.2⟩
  | _ => exact borne

theorem Zone.Shows.mono {zone : Zone} {queries more : List Query} {term : String} (shows : zone.Shows queries term)
    (within : queries ⊆ more) : zone.Shows more term := by
  obtain ⟨name, raw, asked, found, member⟩ := shows
  exact ⟨name, raw, within asked, found, member⟩

namespace Term

variable {term : String} {fault : FormatFault}

theorem term?_of_readLength_error {version : Version} {digits? : Option (List Char)}
    (failed : readLength term version digits? = .error fault) : fault.term? = some term := by
  unfold readLength at failed
  split at failed
  · cases failed
  · dsimp only at failed
    split at failed
    · cases failed
    · cases failed
      rfl

theorem term?_of_readHost_error (failed : readHost term = .error fault) : fault.term? = some term := by
  unfold readHost at failed
  split at failed
  · cases failed
    rfl
  · next head lengths _ =>
    split at failed
    · cases failed
      rfl
    · split at failed
      · cases v4 : readLength term .v4 lengths[0]? with
        | error short =>
          rw [v4] at failed
          cases failed
          exact term?_of_readLength_error v4
        | ok =>
          cases v6 : readLength term .v6 lengths[1]? with
          | error long =>
            rw [v4, v6] at failed
            cases failed
            exact term?_of_readLength_error v6
          | ok =>
            rw [v4, v6] at failed
            cases failed
      · cases failed
        rfl

theorem term?_of_readInclusion_error (failed : readInclusion term = .error fault) : fault.term? = some term := by
  unfold readInclusion at failed
  split at failed
  · split at failed
    · cases failed
      rfl
    · split at failed <;> cases failed
      rfl
  · cases failed
    rfl

/-- A literal is never at fault for the block it makes with its length. -/
theorem term?_of_readLiteral_error (failed : readLiteral term = .error fault) : fault.term? = some term := by
  rcases readLiteral_cases term with
    malformed | ⟨parts, version, literal, -, rfl, ⟨-, bad⟩ | ⟨address, -, gives | ⟨n, outside⟩⟩⟩
  · rw [malformed] at failed
    cases failed
    rfl
  · rw [bad] at failed
    cases failed
    rfl
  · rw [gives.readLiteral_text] at failed
    cases failed
  · rw [outside] at failed
    cases failed
    rfl

theorem term?_of_readAll_error (failed : readAll term = .error fault) : fault.term? = some term := by
  unfold readAll at failed
  split at failed <;> cases failed
  rfl

end Term

open Inquiry

variable {zone : Zone} {options : Options} {nested : String → Inquiry Policy} {domain term : String}

/-- The terms at hand account for an error, and so do those in the texts that were asked for. -/
def Inquiry.Traced {α : Type} (zone : Zone) (options : Options) (terms : List String) (inquiry : Inquiry α) : Prop :=
  inquiry.FailsFor fun queries error =>
    error.BorneOut options fun term => term ∈ terms ∨ zone.Shows queries term

namespace Inquiry

variable {α β : Type} {terms : List String}

theorem FailsOnly.traced {inquiry : Inquiry α}
    (here : inquiry.FailsOnly fun error => error.BorneOut options fun term => term ∈ terms) :
    inquiry.Traced zone options terms :=
  (failsFor_const_iff.mpr here).mono fun _ _ borne => borne.mono fun _ => .inl

theorem Traced.bind {first : Inquiry α} {next : α → Inquiry β} (here : first.Traced zone options terms)
    (after : ∀ path value, (first path).outcome = .done value → (next value).Traced zone options terms) :
    (first >>= next).Traced zone options terms :=
  FailsFor.bind (fun asked _ _ borne => borne.mono fun _ => Or.imp_right fun shows =>
    shows.mono (List.subset_append_right asked _)) here after

theorem Traced.mono {inquiry : Inquiry α} (here : inquiry.Traced zone options terms) {more : List String}
    (within : terms ⊆ more) : inquiry.Traced zone options more :=
  FailsFor.mono here fun _ _ borne => borne.mono fun _ => Or.imp_left fun member => within member

theorem traced_fault {keyword : Keyword} (found : Term.keyword? term = some keyword) {fault : FormatFault}
    (named : fault.term? = some term) : (fail (.format fault) : Inquiry α).Traced zone options [term] :=
  FailsOnly.traced (failsOnly_fail ⟨term, keyword, named, List.mem_cons_self, found⟩)

/-- What is made of fields is refused for the fault of the fields. -/
theorem traced_format {keyword : Keyword} (found : Term.keyword? term = some keyword)
    {result : Except FormatFault α} (named : ∀ fault, result = .error fault → fault.term? = some term) (f : α → β) :
    (ofExcept ((result.map f).mapError .format)).Traced zone options [term] := by
  cases result with
  | ok value => exact FailsOnly.traced (failsOnly_pure (f value))
  | error fault => exact traced_fault found (named fault rfl)

end Inquiry

namespace Directive

/-- A term is refused for itself, or for a term in a text that it asks for. -/
theorem traced_ofTerm? (within : ∀ name, (nested name).Traced zone options []) :
    (ofTerm? zone options nested domain term).Traced zone options [term] := by
  cases found : Term.keyword? term with
  | none =>
    simp only [ofTerm?, found]
    split
    · next strict => exact FailsOnly.traced (failsOnly_fail ⟨strict, List.mem_cons_self, found⟩)
    · exact FailsOnly.traced (failsOnly_pure none)
  | some keyword =>
    cases keyword with
    | host kind =>
      simp only [ofTerm?, found]
      refine FailsFor.map ?_ some
      cases read : Term.readHost term with
      | error fault =>
        rw [ofHost_eq_fail zone domain found read]
        exact traced_fault found (Term.term?_of_readHost_error read)
      | ok fields =>
        rw [ofHost_of_readHost zone domain found read]
        have fit := Term.fit_of_readHost read
        exact FailsFor.map (FailsOnly.traced (failsOnly_hostNetworks (fun _ _ => trivial) zone _ _ fit)) _
    | ip =>
      simp only [ofTerm?, found, ofLiteral_eq_mapError found]
      exact FailsFor.map (traced_format found (fun _ => Term.term?_of_readLiteral_error) _) some
    | all =>
      simp only [ofTerm?, found, ofAll_eq_mapError found]
      exact FailsFor.map (traced_format found (fun _ => Term.term?_of_readAll_error) _) some
    | inclusion =>
      cases read : Term.readInclusion term with
      | error fault =>
        simp only [ofTerm?, found, ofInclusion_eq_fail found read]
        exact FailsFor.map (traced_fault found (Term.term?_of_readInclusion_error read)) some
      | ok fields =>
        rw [ofTerm?_of_readInclusion read]
        refine FailsFor.map (FailsFor.inside ((within _).mono (List.nil_subset _)) ?_) _
        intro path error refused
        rcases IncludePath.error_of_enter refused with rfl | ⟨limit, limited, rfl⟩
        · trivial
        · exact limited

/-- Terms are refused for themselves, or for a term in a text that they ask for. -/
theorem traced_ofTerms (within : ∀ name, (nested name).Traced zone options []) (terms : List String) :
    (ofTerms zone options nested domain terms).Traced zone options terms := by
  induction terms with
  | nil => exact FailsOnly.traced (failsOnly_pure [])
  | cons term rest ih =>
    have here : (ofTerm? zone options nested domain term).Traced zone options [term] := traced_ofTerm? within
    refine (here.mono (by simp)).bind fun _ first _ => ?_
    exact (ih.mono (List.subset_cons_self term rest)).bind fun _ others _ =>
      FailsOnly.traced (failsOnly_pure _)

end Directive

namespace Lookup

/-- A policy is refused for a term in its own text or in a text inside. -/
theorem traced_policyWithin (zone : Zone) (options : Options) (room : Nat) (domain : String) :
    (policyWithin zone options room domain).Traced zone options [] := by
  induction room generalizing domain with
  | zero => exact FailsOnly.traced failsOnly_unending
  | succ room ih =>
    cases found : zone.policyText? (DomainName.normalize domain) with
    | none =>
      have text : (policyText zone (DomainName.normalize domain)).Traced zone options [] :=
        FailsOnly.traced (failsOnly_policyText (fun _ _ => trivial) (fun _ => trivial) zone _)
      refine text.bind fun path raw given => ?_
      rw [policyText_outcome_eq_done_iff, found] at given
      cases given
    | some raw =>
      intro path error failed
      rw [policyWithin_of_text found, Directive.ofText, if_pos (Zone.isPolicy_of_policyText? found)] at failed ⊢
      have refused := Directive.traced_ofTerms ih (PolicyText.terms raw) path error
        (Outcome.map_eq_failed_iff.mp failed)
      refine refused.mono fun term => ?_
      rintro (member | shows)
      · exact .inr ⟨_, raw, List.mem_cons_self, found, member⟩
      · exact .inr (shows.mono (List.subset_cons_self _ _))

/-- A look-up fails with what its steps can fail with: for a term only if this stands in a text that was asked for,
with a keyword if its fields are at fault and without one if the options are strict, and for the depth only under the
limit that is set. Checking an address fails with the errors of the look-up, and a policy that is found has been read
and leaves the address its trail. -/
theorem lookup_errors (zone : Zone) (options : Options) (address : Address) (domain : String) :
    (∀ error, (lookup zone options domain).outcome = .failed error →
      error.BorneOut options (zone.Shows (lookup zone options domain).queries)) ∧
    (∀ error, (checkHost zone options address domain).outcome = .failed error ↔
      (lookup zone options domain).outcome = .failed error) ∧
    (checkHost zone options address domain).queries = (lookup zone options domain).queries ∧
    ∀ policy, (lookup zone options domain).outcome = .done policy →
      (Record.ofPolicy policy).evaluate address = .ok (policy.trail address) ∧
        (checkHost zone options address domain).outcome = .done (policy.trail address) := by
  refine ⟨fun error failed => ?_, fun error => Outcome.map_eq_failed_iff, rfl, fun policy found => ⟨?_, ?_⟩⟩
  · have borne := traced_policyWithin zone options (room options (inclusions zone).length) domain _ error failed
    exact borne.mono fun term seen => seen.resolve_left List.not_mem_nil
  · exact (Record.evaluate_of_policy? (Record.policy?_ofPolicy policy) address).1
  · exact Outcome.map_eq_done_iff.mpr ⟨policy, found, rfl⟩

/-- A policy that includes another, where a length that is out of range stands behind a term without a keyword, and
one that covers every address. -/
def faultyZone : Zone where
  texts := ⟨[("a", ["v=spf1 include:b -all"]), ("b", ["v=spf1 ip5:x ip4:10.0.0.0/99"]), ("c", ["v=spf1 all"])]⟩

/-- A lenient look-up fails for the length and a strict one for the term without a keyword, both of which stand in
the text of the inner policy. -/
theorem lookup_errors_faulty :
    faultyZone.Shows [.about .txt "a", .about .txt "b"] "ip4:10.0.0.0/99" ∧
    (checkHost faultyZone {} (.v4 0x0A000001#32) "a").outcome =
      .failed (.format (.lengthOutOfRange "99" .v4 "ip4:10.0.0.0/99")) ∧
    faultyZone.Shows [.about .txt "a", .about .txt "b"] "ip5:x" ∧
    (checkHost faultyZone ⟨true, none⟩ (.v4 0x0A000001#32) "a").outcome = .failed (.unknownTerm "ip5:x") ∧
    (checkHost faultyZone {} (.v4 0x0A000001#32) "c").outcome = .done ["all"] := by
  have lenient : lookup faultyZone {} "a" =
      ⟨.failed (.format (.lengthOutOfRange "99" .v4 "ip4:10.0.0.0/99")), .ofRoot "a",
        [.about .txt "a", .about .txt "b"]⟩ := by decide +kernel
  have strict : lookup faultyZone ⟨true, none⟩ "a" =
      ⟨.failed (.unknownTerm "ip5:x"), .ofRoot "a", [.about .txt "a", .about .txt "b"]⟩ := by decide +kernel
  have found : (lookup faultyZone {} "c").outcome = .done ⟨"c", "v=spf1 all", [⟨.pass, "all", .all⟩]⟩ := by
    decide +kernel
  obtain ⟨borne, same, -⟩ := lookup_errors faultyZone {} (.v4 0x0A000001#32) "a"
  obtain ⟨strictly, also, -⟩ := lookup_errors faultyZone ⟨true, none⟩ (.v4 0x0A000001#32) "a"
  obtain ⟨-, -, -, answers⟩ := lookup_errors faultyZone {} (.v4 0x0A000001#32) "c"
  rw [lenient] at borne same
  rw [strict] at strictly also
  obtain ⟨term, keyword, named, shows, -⟩ := borne _ rfl
  cases named
  exact ⟨shows, (same _).mpr rfl, (strictly _ rfl).2.1, (also _).mpr rfl, (answers _ found).2⟩

end Lookup

end SenderPolicy

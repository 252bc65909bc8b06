import SenderPolicy.Proofs.Policy.Directive
import SenderPolicy.Staged

/-! # Every record below a record has been read

A look-up that succeeds hands a record up only after it was read, so every record in the tree that it gives
has its directives, and the tree is a policy. An evaluation of such a tree comes to no record without
directives: it always ends with a trail, and this trail is the one that the address leaves in the policy.
-/

namespace SenderPolicy

theorem Report.map_map_value? {α β : Type} (report : Report α) (given : Option α → β) :
    (report.map fun _ => ()).map (fun _ => given report.outcome.value?) =
      report.map fun value => given (some value) := by
  rcases report with ⟨outcome, path, queries⟩
  cases outcome <;> rfl

namespace Staged

mutual

/-- A directive whose records have been read leaves its trail. -/
theorem Directive.trail_ofRead (address : Address) :
    (directive : SenderPolicy.Directive) →
      (Directive.ofRead directive).trail address = .ok (directive.trail address)
  | ⟨_, _, .host ..⟩ => rfl
  | ⟨_, _, .ip _⟩ => rfl
  | ⟨_, text, .inclusion _ policy⟩ => by
      have below := Record.evaluate_ofPolicy address policy
      rw [Directive.ofRead, Mechanism.ofRead, Directive.trail, below, SenderPolicy.Directive.trail]
      cases policy.trail address <;> rfl
  | ⟨_, _, .all⟩ => rfl

theorem Record.evaluate_ofPolicy (address : Address) :
    (policy : Policy) → (Record.ofPolicy policy).evaluate address = .ok (policy.trail address)
  | ⟨_, _, directives⟩ => by
      have first := firstMatch_directivesOfRead address directives
      rw [Record.ofPolicy, Record.evaluate, first, Policy.trail, firstTrail_eq_find?]
      cases directives.find? (·.covers address) <;> rfl

/-- The first match is the first directive that covers the address. -/
theorem firstMatch_directivesOfRead (address : Address) :
    (directives : List SenderPolicy.Directive) →
      firstMatch address (directivesOfRead directives) =
        .ok ((directives.find? (·.covers address)).map fun directive =>
          (Directive.ofRead directive, directive.trail address))
  | [] => rfl
  | directive :: rest => by
      have here := Directive.trail_ofRead address directive
      have others := firstMatch_directivesOfRead address rest
      rw [directivesOfRead, firstMatch, here]
      change (if (directive.trail address).isEmpty then firstMatch address (directivesOfRead rest)
        else .ok (some (Directive.ofRead directive, directive.trail address))) = _
      rw [others, List.find?_cons, SenderPolicy.Directive.covers]
      cases left : directive.trail address with
      | nil => rfl
      | cons text nested => simp [left]

end

/-- The directive that decides is the same, and its records have been read. -/
theorem Record.matched?_ofPolicy (address : Address) (policy : Policy) :
    (Record.ofPolicy policy).matched? address =
      .ok ((policy.matched? address).map Directive.ofRead) := by
  cases policy with
  | mk domain raw directives =>
    have first := firstMatch_directivesOfRead address directives
    rw [Record.ofPolicy, Record.matched?]
    dsimp only
    rw [first, Policy.matched?]
    cases directives.find? (·.covers address) <;> rfl

namespace Directive

theorem ofInclusion_map (options : Options) (nested : String → Inquiry Policy) (term : String) :
    ofInclusion options (fun name => Record.ofPolicy <$> nested name) term =
      ofRead <$> SenderPolicy.Directive.ofInclusion options nested term := by
  simp only [ofInclusion, SenderPolicy.Directive.ofInclusion, Inquiry.inside_map, map_bind, map_pure,
    bind_map_left]
  rfl

/-- One term is built into the same directive, if the records of includes are the policies there. -/
theorem ofTerm?_map (zone : Zone) (options : Options) (nested : String → Inquiry Policy)
    (domain term : String) :
    ofTerm? zone options (fun name => Record.ofPolicy <$> nested name) domain term =
      Option.map ofRead <$> SenderPolicy.Directive.ofTerm? zone options nested domain term := by
  cases found : Term.keyword? term with
  | none =>
    simp only [ofTerm?, SenderPolicy.Directive.ofTerm?, found]
    split
    · rw [Inquiry.map_fail]
    · rw [map_pure]; rfl
  | some keyword =>
    cases keyword with
    | inclusion =>
      simp only [ofTerm?, SenderPolicy.Directive.ofTerm?, found, ofInclusion_map, Functor.map_map]
      rfl
    | _ =>
      simp only [ofTerm?, SenderPolicy.Directive.ofTerm?, found, Functor.map_map]
      rfl

/-- So are terms, one after the other. -/
theorem ofTerms_map (zone : Zone) (options : Options) (nested : String → Inquiry Policy)
    (domain : String) (terms : List String) :
    ofTerms zone options (fun name => Record.ofPolicy <$> nested name) domain terms =
      directivesOfRead <$> SenderPolicy.Directive.ofTerms zone options nested domain terms := by
  induction terms with
  | nil => rw [ofTerms, SenderPolicy.Directive.ofTerms, map_pure]; rfl
  | cons term rest ih =>
    have joined (first : Option SenderPolicy.Directive) (others : List SenderPolicy.Directive) :
        (first.map ofRead).toList ++ directivesOfRead others =
          directivesOfRead (first.toList ++ others) := by
      cases first <;> rfl
    simp only [ofTerms, SenderPolicy.Directive.ofTerms, ofTerm?_map, ih, map_bind, map_pure,
      bind_map_left, joined]

theorem ofText_map (zone : Zone) (options : Options) (nested : String → Inquiry Policy)
    (domain raw : String) :
    ofText zone options (fun name => Record.ofPolicy <$> nested name) domain raw =
      directivesOfRead <$> SenderPolicy.Directive.ofText zone options nested domain raw := by
  rw [ofText, SenderPolicy.Directive.ofText, ofTerms_map]
  split
  · rfl
  · rw [Inquiry.map_fail]

end Directive

/-- A record that is fetched goes on with the text of its domain. -/
theorem carryOn_fetch (zone : Zone) (record : Record) :
    Step.carryOn (record.fetch zone) =
      (fun raw => ⟨record.domain, raw, none⟩) <$> Inquiry.policyText zone record.domain := by
  funext path
  rw [Inquiry.map_apply]
  exact Report.map_map_value? (Inquiry.policyText zone record.domain path)
    fun raw? => (⟨record.domain, raw?.getD "", none⟩ : Record)

/-- Reading a text gives directives in which every record has been read. -/
theorem parseIn_map (zone : Zone) (options : Options) (nested : String → Inquiry Policy)
    (record : Record) (path : IncludePath) :
    record.parseIn zone options (fun name => Record.ofPolicy <$> nested name) path =
      let report := SenderPolicy.Directive.ofText zone options nested record.domain record.raw path
      ⟨⟨record.domain, record.raw, report.outcome.value?.map directivesOfRead⟩,
        report.map fun _ => ()⟩ := by
  rw [Record.parseIn, Directive.ofText_map, Inquiry.map_apply]
  rcases SenderPolicy.Directive.ofText zone options nested record.domain record.raw path with
    ⟨outcome, last, queries⟩
  cases outcome <;> rfl

/-- A record that is read goes on as the policy of its text. -/
theorem carryOn_parseIn (zone : Zone) (options : Options) (nested : String → Inquiry Policy)
    (record : Record) :
    Step.carryOn (record.parseIn zone options fun name => Record.ofPolicy <$> nested name) =
      (fun directives => Record.ofPolicy ⟨record.domain, record.raw, directives⟩) <$>
        SenderPolicy.Directive.ofText zone options nested record.domain record.raw := by
  funext path
  rw [Inquiry.map_apply, Step.carryOn, parseIn_map]
  exact Report.map_map_value?
    (SenderPolicy.Directive.ofText zone options nested record.domain record.raw path)
    fun read? => (⟨record.domain, record.raw, read?.map directivesOfRead⟩ : Record)

/-- A look-up gives the policy, as a record in which every record has been read. It asks the same queries
and ends with the same errors on the same path. -/
theorem lookupWithin_eq (zone : Zone) (options : Options) (room : Nat) :
    lookupWithin zone options room =
      fun domain => Record.ofPolicy <$> Lookup.policyWithin zone options room domain := by
  induction room with
  | zero => rfl
  | succ room ih =>
    funext domain
    rw [lookupWithin, carryOn_fetch, ih, bind_map_left]
    simp only [carryOn_parseIn, Lookup.policyWithin, map_bind, map_pure]
    simp only [map_eq_pure_bind]
    rfl

theorem lookup_eq (zone : Zone) (options : Options) (domain : String) :
    lookup zone options domain = (SenderPolicy.lookup zone options domain).map Record.ofPolicy := by
  rw [lookup, lookupWithin_eq]
  exact Inquiry.map_apply ..

theorem Directive.inclusion_eq (zone : Zone) (options : Options) (term : String) :
    Directive.inclusion zone options term =
      (SenderPolicy.Directive.inclusion zone options term).map Directive.ofRead := by
  rw [Directive.inclusion, lookupWithin_eq, Directive.ofInclusion_map]
  exact Inquiry.map_apply ..

/-- A record that a look-up gives can always be evaluated, and decides about an address as its policy does. -/
theorem Record.evaluate_of_lookup {zone : Zone} {options : Options} {domain : String} {record : Record}
    (found : (lookup zone options domain).outcome = .done record) (address : Address) :
    ∃ policy, (SenderPolicy.lookup zone options domain).outcome = .done policy ∧
      record.evaluate address = .ok (policy.trail address) ∧
      record.matched? address = .ok ((policy.matched? address).map Directive.ofRead) := by
  rw [lookup_eq] at found
  obtain ⟨policy, looked, rfl⟩ := Outcome.map_eq_done_iff.mp found
  exact ⟨policy, looked, evaluate_ofPolicy address policy, matched?_ofPolicy address policy⟩

/-- Checking a sender never comes to a record that has not been read: what could fail there is the
look-up, and the trail is the one that the sender leaves in the policy. -/
theorem checkHost_eq (zone : Zone) (options : Options) (address : Address) (domain : String) :
    checkHost zone options address domain = SenderPolicy.checkHost zone options address domain := by
  have evaluated (policy : Policy) :
      Inquiry.ofExcept ((Record.ofPolicy policy).evaluate address) = pure (policy.trail address) := by
    rw [Record.evaluate_ofPolicy]
    rfl
  simp only [checkHost, lookupWithin_eq, bind_map_left, evaluated, bind_pure_comp]
  exact Inquiry.map_apply ..

namespace Record

variable (record : SenderPolicy.Record)

theorem fetch_ofRecord (zone : Zone) :
    (ofRecord record).fetch zone .outside =
      ⟨ofRecord (record.fetch zone).record, (record.fetch zone).report⟩ := rfl

/-- Reading a record does to the tree what it does to the directives, and asks the same. -/
theorem parse_ofRecord (zone : Zone) (options : Options) :
    (ofRecord record).parse zone options =
      ⟨ofRecord (record.parse zone options).record, (record.parse zone options).report⟩ := by
  simp only [parse, lookupWithin_eq, parseIn_map]
  rfl

/-- A record without directives fails to be evaluated, and any other leaves the trail of its policy. -/
theorem evaluate_ofRecord (address : Address) :
    (ofRecord record).evaluate address = record.evaluate address := by
  rcases record with ⟨domain, raw, _ | directives⟩
  · rfl
  · exact evaluate_ofPolicy address ⟨domain, raw, directives⟩

theorem matched?_ofRecord (address : Address) :
    (ofRecord record).matched? address =
      (record.matched? address).map (Option.map Directive.ofRead) := by
  rcases record with ⟨domain, raw, _ | directives⟩
  · rfl
  · exact matched?_ofPolicy address ⟨domain, raw, directives⟩

end Record

end Staged

end SenderPolicy

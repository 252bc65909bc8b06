import SenderPolicy.Proofs.Lookup.Step
import SenderPolicy.Proofs.Policy.FirstMatch

/-! # The life of a record

A record is fetched and read again and again, and the name servers may answer differently each time. Its
text is that of the last fetch, and no text after one that failed. It has directives only right after it
was read with success, and they are built from the text at hand. So nothing that was known before is used
after a step that failed.
-/

namespace SenderPolicy.Record

open Inquiry

/-- A call that changes a record, with what the name servers answer to it. -/
inductive Call where
  | fetch (zone : Zone)
  | parse (zone : Zone) (options : Options)

def call (record : Record) : Call → Step
  | .fetch zone => record.fetch zone
  | .parse zone options => record.parse zone options

def after (record : Record) (calls : List Call) : Record :=
  calls.foldl (fun record each => (record.call each).record) record

/-- The last of the calls on the record of a domain reads it with success. -/
def ReadLast (domain : String) (calls : List Call) : Prop :=
  ∃ earlier zone options, calls = earlier ++ [.parse zone options] ∧
    (((ofDomain domain).after earlier).parse zone options).report.outcome = .done ()

variable {record : Record} {zone : Zone} {options : Options} {domain : String} {calls : List Call}
  {directives : List Directive}

/-- Fetching leaves the text that states the policy of the domain, or none. -/
theorem fetch_raw (record : Record) (zone : Zone) :
    (record.fetch zone).record.raw = (zone.policyText? record.domain).getD "" := by
  have found : (policyText zone record.domain .outside).outcome.value? =
      zone.policyText? record.domain := by
    apply Option.ext
    intro raw
    rw [Outcome.value?_eq_some_iff, policyText_outcome_eq_done_iff]
  rw [fetch, found]

theorem fetch_outcome_eq_done_iff : (record.fetch zone).report.outcome = .done () ↔
    ∃ raw, zone.policyText? record.domain = some raw := by
  simp only [fetch, Report.map, Outcome.map_eq_done_iff, policyText_outcome_eq_done_iff, and_true]

/-- A record has directives after it was read with success, and only then. -/
theorem parse_outcome_eq_done_iff : (record.parse zone options).report.outcome = .done () ↔
    ∃ directives, (record.parse zone options).record.directives? = some directives := by
  simp only [parse, Report.map, Outcome.map_eq_done_iff, Outcome.value?_eq_some_iff, and_true]

/-- The directives are built from the text at hand, with what the call asks. -/
theorem builtAll_of_parse (read : (record.parse zone options).record.directives? = some directives) :
    PolicyText.isPolicy record.raw = true ∧ ∃ room,
      Directive.BuiltAll zone options (Lookup.policyWithin zone options room) record.domain
        (.ofRoot record.domain) (PolicyText.terms record.raw) directives
        (record.parse zone options).report.queries := by
  have nested := Lookup.balanced_policyWithin zone options (Lookup.room options
    ((Lookup.inclusions zone).length + (PolicyText.inclusions record.raw).length))
  rw [parse, Outcome.value?_eq_some_iff,
    (Directive.balanced_ofText nested record.raw).outcome_eq_done_iff] at read
  obtain ⟨queries, read⟩ := read
  obtain ⟨policy, built, -⟩ := (Directive.ofText_eq_done_iff nested).mp read
  have asked : (record.parse zone options).report.queries = queries := by rw [parse, Report.map, read]
  exact ⟨policy, _, asked ▸ built⟩

/-- Only a record that has been read has answers. -/
theorem evaluate_of_unread (unread : record.directives? = none) (address : Address) :
    record.evaluate address = .error (.unparsed record.domain) ∧
      record.matched? address = .error (.unparsed record.domain) := by
  simp only [evaluate, matched?, requirePolicy, policy?, unread]
  exact ⟨rfl, rfl⟩

theorem exists_policy? (read : record.directives?.isSome) : ∃ policy, record.policy? = some policy := by
  rw [← Option.isSome_iff_exists, policy?, Option.isSome_map]
  exact read

theorem after_append (record : Record) (earlier later : List Call) :
    record.after (earlier ++ later) = (record.after earlier).after later :=
  List.foldl_append

theorem after_cons (record : Record) (first : Call) (rest : List Call) :
    record.after (first :: rest) = (record.call first).record.after rest := rfl

theorem after_concat (record : Record) (earlier : List Call) (last : Call) :
    record.after (earlier ++ [last]) = ((record.after earlier).call last).record :=
  after_append record earlier [last]

theorem call_domain (record : Record) (each : Call) : (record.call each).record.domain = record.domain := by
  cases each <;> rfl

theorem after_domain (record : Record) (calls : List Call) :
    (record.after calls).domain = record.domain := by
  induction calls generalizing record with
  | nil => rfl
  | cons first rest ih => rw [after_cons, ih, call_domain]

/-- Without a fetch the text stays as it is. -/
theorem after_raw_of_unfetched (record : Record) (unfetched : ∀ zone, .fetch zone ∉ calls) :
    (record.after calls).raw = record.raw := by
  induction calls generalizing record with
  | nil => rfl
  | cons first rest ih =>
    have later : ∀ zone, .fetch zone ∉ rest := fun zone member =>
      unfetched zone (List.mem_cons_of_mem _ member)
    rw [after_cons, ih _ later]
    cases first with
    | fetch zone => exact absurd List.mem_cons_self (unfetched zone)
    | parse zone options => rfl

/-- The text is the one of the last fetch. -/
theorem after_raw_of_fetched (record : Record) (earlier : List Call) (zone : Zone) {later : List Call}
    (unfetched : ∀ other, .fetch other ∉ later) :
    (record.after (earlier ++ .fetch zone :: later)).raw =
      (zone.policyText? record.domain).getD "" := by
  rw [after_append, after_cons, after_raw_of_unfetched _ unfetched, ← after_domain record earlier]
  exact fetch_raw _ zone

/-- There are directives when the last call read them. -/
theorem after_directives?_eq_some_iff :
    ((ofDomain domain).after calls).directives? = some directives ↔
      ∃ earlier zone options, calls = earlier ++ [.parse zone options] ∧
        (((ofDomain domain).after earlier).parse zone options).record.directives? =
          some directives := by
  constructor
  · intro read
    rcases calls.eq_nil_or_concat with rfl | ⟨earlier, last, rfl⟩
    · cases read
    · rw [List.concat_eq_append] at read ⊢
      rw [after_concat] at read
      cases last with
      | fetch zone => cases read
      | parse zone options => exact ⟨earlier, zone, options, rfl, read⟩
  · rintro ⟨earlier, zone, options, rfl, read⟩
    rw [after_concat]
    exact read

theorem isSome_directives?_iff :
    ((ofDomain domain).after calls).directives?.isSome ↔ ReadLast domain calls := by
  simp only [Option.isSome_iff_exists, ReadLast, parse_outcome_eq_done_iff,
    after_directives?_eq_some_iff]
  constructor
  · rintro ⟨directives, earlier, zone, options, last, read⟩
    exact ⟨earlier, zone, options, last, directives, read⟩
  · rintro ⟨earlier, zone, options, last, directives, read⟩
    exact ⟨directives, earlier, zone, options, last, read⟩

/-- After any calls, a record of a domain has the text of the last fetch, or none if that failed. It has
directives, and answers for every address, when the last call read it with success; they are built from
its text, with what that call asked. Otherwise it answers for no address. -/
theorem after_calls (domain : String) (calls : List Call) :
    ((ofDomain domain).after calls).domain = DomainName.normalize domain ∧
    ((∀ zone, .fetch zone ∉ calls) → ((ofDomain domain).after calls).raw = "") ∧
    (∀ earlier zone later, calls = earlier ++ .fetch zone :: later → (∀ other, .fetch other ∉ later) →
      ((((ofDomain domain).after earlier).fetch zone).report.outcome = .done () →
        zone.policyText? (DomainName.normalize domain) = some ((ofDomain domain).after calls).raw) ∧
      ((((ofDomain domain).after earlier).fetch zone).report.outcome ≠ .done () →
        ((ofDomain domain).after calls).raw = "")) ∧
    (((ofDomain domain).after calls).directives?.isSome ↔ ReadLast domain calls) ∧
    ((∀ address, ∃ trail, ((ofDomain domain).after calls).evaluate address = .ok trail) ↔
      ReadLast domain calls) ∧
    (¬ReadLast domain calls → ∀ address,
      ((ofDomain domain).after calls).evaluate address =
          .error (.unparsed (DomainName.normalize domain)) ∧
        ((ofDomain domain).after calls).matched? address =
          .error (.unparsed (DomainName.normalize domain))) ∧
    ∀ directives, ((ofDomain domain).after calls).directives? = some directives →
      ∃ earlier zone options room, calls = earlier ++ [.parse zone options] ∧
        PolicyText.isPolicy ((ofDomain domain).after calls).raw = true ∧
        Directive.BuiltAll zone options (Lookup.policyWithin zone options room)
          (DomainName.normalize domain) (.ofRoot (DomainName.normalize domain))
          (PolicyText.terms ((ofDomain domain).after calls).raw) directives
          (((ofDomain domain).after earlier).parse zone options).report.queries := by
  have name_eq (some : List Call) : ((ofDomain domain).after some).domain = DomainName.normalize domain :=
    after_domain _ some
  have silent : ¬ReadLast domain calls → ((ofDomain domain).after calls).directives? = none := by
    intro unread
    rwa [← isSome_directives?_iff, Option.not_isSome_iff_eq_none] at unread
  refine ⟨name_eq calls, fun unfetched => ?_, ?_, isSome_directives?_iff, ⟨?_, ?_⟩, ?_, ?_⟩
  · exact after_raw_of_unfetched _ unfetched
  · rintro earlier zone later rfl unfetched
    have text : ((ofDomain domain).after (earlier ++ .fetch zone :: later)).raw =
        (zone.policyText? (DomainName.normalize domain)).getD "" :=
      after_raw_of_fetched _ earlier zone unfetched
    rw [ne_eq, fetch_outcome_eq_done_iff, name_eq, text]
    cases found : zone.policyText? (DomainName.normalize domain) with
    | some raw => exact ⟨fun _ => rfl, fun failed => absurd ⟨raw, rfl⟩ failed⟩
    | none => exact ⟨fun ⟨raw, same⟩ => absurd same (Option.some_ne_none raw).symm, fun _ => rfl⟩
  · intro answers
    by_contra unread
    obtain ⟨trail, answered⟩ := answers (.v4 0)
    rw [(evaluate_of_unread (silent unread) _).1] at answered
    cases answered
  · intro read address
    obtain ⟨policy, built⟩ := exists_policy? (isSome_directives?_iff.mpr read)
    exact ⟨_, (evaluate_of_policy? built address).1⟩
  · intro unread address
    rw [← name_eq calls]
    exact evaluate_of_unread (silent unread) address
  · intro directives read
    obtain ⟨earlier, zone, options, rfl, parsed⟩ := after_directives?_eq_some_iff.mp read
    obtain ⟨policy, room, built⟩ := builtAll_of_parse parsed
    rw [name_eq] at built
    rw [after_concat]
    exact ⟨earlier, zone, options, room, rfl, policy, built⟩

/-- A record that is read, and then fetched again from name servers that fail. -/
def refetched : List Call :=
  let zone := ({} : Zone).setTxt "a" ["other text", "v=spf1 ip4:10.0.0.0/8", "v=spf1 -all"]
  [.fetch zone, .parse zone {}, .fetch (zone.setError "a" .timeout)]

/-- The policy that was read before is neither used nor read again. -/
theorem after_calls_refetched :
    ReadLast "A." (refetched.take 2) ∧
    ((ofDomain "A.").after refetched).raw = "" ∧
    ((ofDomain "A.").after refetched).evaluate (.v4 0x0A000001#32) = .error (.unparsed "a") := by
  refine ⟨?_, ?_, ?_⟩
  · exact (after_calls "A." (refetched.take 2)).2.2.2.1.mp (by decide +kernel)
  · have failed := (after_calls "A." refetched).2.2.1 (refetched.take 2) _ [] rfl nofun
    exact failed.2 (by decide +kernel)
  · have unread : ¬ReadLast "A." refetched := by
      rw [← isSome_directives?_iff]
      decide +kernel
    exact ((after_calls "A." refetched).2.2.2.2.2.1 unread _).1

example : ((ofDomain "A.").after (refetched.take 2)).evaluate (.v4 0x0A000001#32) =
    .ok ["ip4:10.0.0.0/8"] := by
  decide +kernel

end SenderPolicy.Record

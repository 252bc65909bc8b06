import SenderPolicy.Policy.Basic
import SenderPolicy.Proofs.IncludePath
import SenderPolicy.Proofs.Lookup.Simulation

/-! # What a failing look-up blames

Nothing is asked after a query that fails, or after one that finds no policy among the texts of a domain,
and the error of the whole names that domain. All other errors are about terms and includes, and asking
plays no part in them. So the error and the queries of a look-up explain each other.
-/

namespace SenderPolicy

def PolicyError.IsOfQuery : PolicyError → Prop
  | .dns .. => True
  | .noPolicy _ => True
  | _ => False

/-- No error of a step is one of a query. -/
def Blameless {α : Type} (result : Except PolicyError α) : Prop :=
  ∀ error, result = .error error → ¬error.IsOfQuery

theorem blameless_enter (path : IncludePath) (limit? : Option Nat) (domain : String) :
    Blameless (path.enter limit? domain) := by
  intro error failed
  rcases IncludePath.error_of_enter failed with rfl | ⟨limit, -, rfl⟩ <;> exact id

namespace Zone

def HasPolicy (zone : Zone) (key : String) : Prop :=
  ∃ text ∈ (zone.texts.get? key).getD [], PolicyText.isPolicy text = true

/-- A query does not fail and, if it is for texts, finds a policy among them. -/
structure Serves (zone : Zone) (query : Query) : Prop where
  answers : zone.failures.get? query.key = none
  policy : query.kind = .txt → zone.HasPolicy query.key

/-- The outcome of a report and its queries explain each other. -/
structure Explains {α : Type} (zone : Zone) (report : Report α) : Prop where
  /-- The error of a failing query names its domain and its failure. The query is the last one, and
  those before it are served. -/
  failing : ∀ domain cause, report.outcome = .failed (.dns domain cause) → ∃ earlier kind,
    report.queries = earlier ++ [.about kind domain] ∧
      zone.failures.get? (Text.lowercase domain) = some cause ∧ ∀ query ∈ earlier, zone.Serves query
  /-- The error of a missing policy names the domain whose texts the last query finds without one. All
  queries before it are served. -/
  missing : ∀ domain, report.outcome = .failed (.noPolicy domain) → ∃ earlier,
    report.queries = earlier ++ [.about .txt domain] ∧ zone.Answers domain ∧
      ¬zone.HasPolicy (Text.lowercase domain) ∧ ∀ query ∈ earlier, zone.Serves query
  /-- Every query is served if the outcome is a value or an error of another kind. -/
  served : (∀ error, report.outcome = .failed error → ¬error.IsOfQuery) →
    ∀ query ∈ report.queries, zone.Serves query

namespace Explains

variable {α β : Type} {zone : Zone} {report : Report α}

theorem of_failing {domain : String} {cause : DnsError} {kind : QueryKind}
    (fails : zone.failures.get? (Text.lowercase domain) = some cause) (path : IncludePath) :
    zone.Explains (⟨.failed (.dns domain cause), path, [.about kind domain]⟩ : Report α) where
  failing _ _ failed := by
    cases failed
    exact ⟨[], kind, rfl, fails, nofun⟩
  missing _ failed := by cases failed
  served others := (others _ rfl trivial).elim

theorem of_missing {domain : String} (answers : zone.Answers domain)
    (lacks : ¬zone.HasPolicy (Text.lowercase domain)) (path : IncludePath) :
    zone.Explains (⟨.failed (.noPolicy domain), path, [.about .txt domain]⟩ : Report α) where
  failing _ _ failed := by cases failed
  missing _ failed := by
    cases failed
    exact ⟨[], rfl, answers, lacks, nofun⟩
  served others := (others _ rfl trivial).elim

theorem of_served (others : ∀ error, report.outcome = .failed error → ¬error.IsOfQuery)
    (served : ∀ query ∈ report.queries, zone.Serves query) : zone.Explains report where
  failing _ _ failed := (others _ failed trivial).elim
  missing _ failed := (others _ failed trivial).elim
  served _ := served

theorem served_of_done (explains : zone.Explains report) {value : α}
    (done : report.outcome = .done value) : ∀ query ∈ report.queries, zone.Serves query :=
  explains.served fun error failed => by rw [done] at failed; cases failed

/-- Queries that are served may come first. -/
theorem prepend (explains : zone.Explains report) {asked : List Query}
    (served : ∀ query ∈ asked, zone.Serves query) :
    zone.Explains { report with queries := asked ++ report.queries } where
  failing domain cause failed := by
    obtain ⟨earlier, kind, queries, fails, before⟩ := explains.failing domain cause failed
    refine ⟨asked ++ earlier, kind, ?_, fails, List.forall_mem_append.mpr ⟨served, before⟩⟩
    rw [queries, List.append_assoc]
  missing domain failed := by
    obtain ⟨earlier, queries, answers, lacks, before⟩ := explains.missing domain failed
    refine ⟨asked ++ earlier, ?_, answers, lacks, List.forall_mem_append.mpr ⟨served, before⟩⟩
    rw [queries, List.append_assoc]
  served others := List.forall_mem_append.mpr ⟨served, explains.served others⟩

/-- An outcome without a value has one cause, whatever the value would be. -/
theorem of_cause?_eq (explains : zone.Explains report) {other : Report β}
    (same : other.outcome.cause? = report.outcome.cause?) (queries : other.queries = report.queries) :
    zone.Explains other := by
  have failed_iff (error : PolicyError) :
      other.outcome = .failed error ↔ report.outcome = .failed error := by
    rw [← Outcome.cause?_eq_error_iff, ← Outcome.cause?_eq_error_iff, same]
  constructor
  · intro domain cause failed
    rw [queries]
    exact explains.failing domain cause ((failed_iff _).mp failed)
  · intro domain failed
    rw [queries]
    exact explains.missing domain ((failed_iff _).mp failed)
  · intro others
    rw [queries]
    exact explains.served fun error failed => others error ((failed_iff error).mpr failed)

end Explains

end Zone

namespace Inquiry

variable {α β : Type} {zone : Zone}

def Explained (zone : Zone) (inquiry : Inquiry α) : Prop := ∀ path, zone.Explains (inquiry path)

/-- What asks nothing explains itself unless its error is one of a query. -/
theorem explained_stop {outcome : Outcome α}
    (others : ∀ error, outcome = .failed error → ¬error.IsOfQuery) : (stop outcome).Explained zone :=
  fun _ => .of_served others nofun

theorem explained_pure (value : α) : (pure value : Inquiry α).Explained zone := explained_stop nofun

theorem explained_fail {error : PolicyError} (other : ¬error.IsOfQuery) :
    (fail error : Inquiry α).Explained zone :=
  explained_stop fun _ failed => by cases failed; exact other

theorem Explained.bind {first : Inquiry α} {next : α → Inquiry β} (explained : first.Explained zone)
    (after : ∀ path value, (first path).outcome = .done value → (next value).Explained zone) :
    (first >>= next).Explained zone := by
  intro path
  have here := explained path
  rcases ran : first path with ⟨outcome, middle, asked⟩
  rw [ran] at here
  cases outcome with
  | done value =>
    rw [bind_apply_done ran]
    have there := after path value (by rw [ran]) middle
    exact there.prepend (here.served_of_done rfl)
  | failed error =>
    rw [bind_apply_failed ran]
    exact here.of_cause?_eq rfl rfl
  | unending =>
    rw [bind_apply_unending ran]
    exact here.of_cause?_eq rfl rfl

theorem Explained.inside {inquiry : Inquiry α} (explained : inquiry.Explained zone)
    (limit? : Option Nat) (domain : String) :
    (inside limit? domain inquiry).Explained zone := by
  intro path
  unfold Inquiry.inside
  split
  · next error refused => exact explained_fail (blameless_enter _ _ _ _ refused) path
  · next inner entered => exact (explained inner).of_cause?_eq rfl rfl

theorem ask_apply_of_failing {kind : QueryKind} {table : Table (List α)} {domain : String}
    {cause : DnsError} (fails : zone.failures.get? (Text.lowercase domain) = some cause)
    (path : IncludePath) :
    ask kind domain (zone.answer table (Text.lowercase domain)) path =
      ⟨.failed (.dns domain cause), path, [.about kind domain]⟩ := by
  rw [ask, Zone.answer, fails]
  rfl

theorem ask_apply_of_answers {kind : QueryKind} {table : Table (List α)} {domain : String}
    (answers : zone.Answers domain) (path : IncludePath) :
    ask kind domain (zone.answer table (Text.lowercase domain)) path =
      ⟨.done ((table.get? (Text.lowercase domain)).getD []), path, [.about kind domain]⟩ := by
  rw [ask, Zone.answer_eq_ok_iff.mpr ⟨answers, rfl⟩]
  rfl

/-- A query for anything but texts explains itself. -/
theorem explained_ask {kind : QueryKind} (other : kind ≠ .txt) (table : Table (List α))
    (domain : String) :
    (ask kind domain (zone.answer table (Text.lowercase domain))).Explained zone := by
  intro path
  cases fails : zone.failures.get? (Text.lowercase domain) with
  | some cause =>
    rw [ask_apply_of_failing fails]
    exact .of_failing fails path
  | none =>
    rw [ask_apply_of_answers fails]
    refine .of_served nofun fun query member => ?_
    rw [List.mem_singleton.mp member]
    exact ⟨fails, fun texts => (other texts).elim⟩

/-- The query for a policy explains itself once its texts have been searched. -/
theorem explained_policyText (zone : Zone) (domain : String) :
    (policyText zone domain).Explained zone := by
  intro path
  unfold policyText askTxt Zone.txt
  cases fails : zone.failures.get? (Text.lowercase domain) with
  | some cause =>
    rw [bind_apply_failed (ask_apply_of_failing fails path)]
    exact .of_failing fails path
  | none =>
    rw [bind_apply_done (ask_apply_of_answers fails path)]
    cases first : ((zone.texts.get? (Text.lowercase domain)).getD []).find? PolicyText.isPolicy with
    | some raw =>
      have policy := List.find?_some first
      refine .of_served nofun fun query member => ?_
      rw [List.mem_singleton.mp member]
      exact ⟨fails, fun _ => ⟨raw, List.mem_of_find?_eq_some first, policy⟩⟩
    | none =>
      refine .of_missing fails ?_ path
      rintro ⟨text, member, policy⟩
      exact List.find?_eq_none.mp first text member policy

theorem composes_explained (zone : Zone) : Composes fun _ inquiry _ => inquiry.Explained zone where
  value := explained_pure
  bind := Explained.bind

end Inquiry

open Inquiry

/-- Every step of a look-up explains itself. -/
theorem simulation_explained (zone : Zone) (options : Options) :
    Simulation zone zone options options fun _ inquiry _ => inquiry.Explained zone where
  toComposes := composes_explained zone
  text name := explained_policyText zone name
  networks name kind _ fit :=
    @Composes.hostNetworks _ zone zone (composes_explained zone)
      (fun host => explained_ask (by decide) zone.addresses host)
      (fun name => explained_ask (by decide) zone.exchangers name) name kind _ fit
  unknown _ := by
    unfold Directive.ofUnknown
    split
    · exact explained_fail id
    · exact explained_pure none
  malformed _ := explained_fail id
  inside name _ _ within := within.inside options.maxIncludeDepth name

namespace Lookup

/-- A look-up fails for a query as soon as one fails or finds no policy, and blames the domain of that
query. In every other outcome each of its queries is served. The same holds when a sender's address is
checked. -/
theorem explains_lookup (zone : Zone) (options : Options) (domain : String) (address : Address) :
    zone.Explains (lookup zone options domain) ∧
      zone.Explains (checkHost zone options address domain) := by
  have endless : (stop .unending : Inquiry Policy).Explained zone :=
    explained_stop fun _ failed => by cases failed
  have explains := (simulation_explained zone options).policyWithin endless
    (room options (inclusions zone).length) domain (.ofRoot domain)
  exact ⟨explains, explains.of_cause?_eq (Outcome.cause?_map _ _) rfl⟩

/-- A domain that includes another, whose first mail host fails. -/
def failingZone : Zone :=
  (((({} : Zone).setTxt "a" ["v=spf1 include:B ~all"]).setTxt "b" ["v=spf1 mx"]).setMx "b"
    [⟨10, "Mail.B"⟩, ⟨20, "c"⟩]).setError "mail.b" .timeout

/-- The host that fails is blamed in its own spelling, when the policy is looked up and when a sender is
checked. The second host is not asked for, and the queries before are served. -/
theorem explains_lookup_failing :
    (lookup failingZone {} "a").outcome = .failed (.dns "Mail.B" .timeout) ∧
    (lookup failingZone {} "a").queries = [⟨.txt, "a"⟩, ⟨.txt, "b"⟩, ⟨.mx, "b"⟩, ⟨.ip, "mail.b"⟩] ∧
    (∀ query ∈ [⟨.txt, "a"⟩, ⟨.txt, "b"⟩, ⟨.mx, "b"⟩], failingZone.Serves query) ∧
    ∃ earlier kind, (checkHost failingZone {} (.v4 0) "a").queries = earlier ++ [.about kind "Mail.B"] ∧
      failingZone.failures.get? (Text.lowercase "Mail.B") = some .timeout ∧
      ∀ query ∈ earlier, failingZone.Serves query := by
  have found : (lookup failingZone {} "a").outcome = .failed (.dns "Mail.B" .timeout) := by
    decide +kernel
  have checked : (checkHost failingZone {} (.v4 0) "a").outcome = .failed (.dns "Mail.B" .timeout) := by
    rw [checkHost, Report.map, found, Outcome.map]
  have asked : (lookup failingZone {} "a").queries =
      [⟨.txt, "a"⟩, ⟨.txt, "b"⟩, ⟨.mx, "b"⟩] ++ [⟨.ip, "mail.b"⟩] := by decide +kernel
  obtain ⟨explained, check⟩ := explains_lookup failingZone {} "a" (.v4 0)
  refine ⟨found, asked, ?_, check.failing _ _ checked⟩
  obtain ⟨earlier, kind, queries, -, served⟩ := explained.failing _ _ found
  rw [asked] at queries
  obtain ⟨same, -⟩ := List.append_inj' queries rfl
  rw [same]
  exact served

end Lookup

end SenderPolicy

import SenderPolicy.Dns.Resolver
import SenderPolicy.Policy.Basic
import SenderPolicy.Proofs.Lookup.Step

/-! # What a look-up asks

The queries of a look-up that succeeds are written in the policy that it gives: the texts of each domain
are asked for once at every place where its policy stands, then the hosts of its directives and the
policies inside, in the order of the text. Nothing is asked twice for one place, left out or kept for
later.
-/

namespace SenderPolicy

namespace Zone

def mailHosts (zone : Zone) (domain : String) : List String :=
  match zone.mx domain with
  | .ok exchangers => exchangers.map (·.host)
  | .error _ => []

/-- The queries for the addresses that a kind of host gives to a domain. -/
def hostQueries (zone : Zone) (domain : String) : HostKind → List Query
  | .a => [.about .ip domain]
  | .mx => .about .mx domain :: (zone.mailHosts domain).map (.about .ip)

end Zone

mutual

def Directive.queries (zone : Zone) : Directive → List Query
  | ⟨_, _, mechanism⟩ =>
      match mechanism with
      | .host kind domain _ _ => zone.hostQueries domain kind
      | .ip _ => []
      | .inclusion _ policy => policy.queries zone
      | .all => []

/-- The queries for a policy: for its texts, and then for its directives. -/
def Policy.queries (zone : Zone) : Policy → List Query
  | ⟨domain, _, directives⟩ => .about .txt domain :: queriesOf zone directives

def queriesOf (zone : Zone) : List Directive → List Query
  | [] => []
  | directive :: rest => directive.queries zone ++ queriesOf zone rest

end

theorem queriesOf_append (zone : Zone) (left right : List Directive) :
    queriesOf zone (left ++ right) = queriesOf zone left ++ queriesOf zone right := by
  induction left with
  | nil => rfl
  | cons directive rest ih => rw [List.cons_append, queriesOf, queriesOf, ih, List.append_assoc]

theorem queriesOf_singleton (zone : Zone) (directive : Directive) :
    queriesOf zone [directive] = directive.queries zone :=
  List.append_nil _

variable {zone : Zone} {options : Options} {nested : String → Inquiry Policy} {domain term : String}
  {path last : IncludePath} {queries : List Query}

namespace Inquiry

theorem queries_of_askHosts {exchangers : List Exchanger} {addresses : List Address}
    (done : askHosts zone exchangers path = ⟨.done addresses, last, queries⟩) :
    queries = exchangers.map fun exchanger => .about .ip exchanger.host := by
  induction exchangers generalizing path addresses queries with
  | nil => exact (pure_eq_done_iff.mp done).2.2
  | cons exchanger rest ih =>
    simp only [askHosts, askIp, bind_eq_done_iff, ask_eq_done_iff, pure_eq_done_iff] at done
    obtain ⟨_, _, _, _, ⟨-, -, rfl⟩, ⟨_, _, _, _, others, ⟨rfl, rfl, rfl⟩, rfl⟩, rfl⟩ := done
    rw [ih others]
    simp

theorem queries_of_hostAddresses {kind : HostKind} {addresses : List Address}
    (done : hostAddresses zone domain kind path = ⟨.done addresses, last, queries⟩) :
    queries = zone.hostQueries domain kind := by
  cases kind with
  | a => exact (ask_eq_done_iff.mp done).2.2
  | mx =>
    simp only [hostAddresses, askMx, bind_eq_done_iff, ask_eq_done_iff] at done
    obtain ⟨exchangers, _, _, _, ⟨answered, -, rfl⟩, hosts, rfl⟩ := done
    rw [queries_of_askHosts hosts]
    simp [Zone.hostQueries, Zone.mailHosts, answered]

end Inquiry

namespace Directive

/-- What is asked for the policies of includes is written in them. -/
def QueriesWritten (zone : Zone) (nested : String → Inquiry Policy) : Prop :=
  ∀ name path policy last queries, nested name path = ⟨.done policy, last, queries⟩ →
    queries = policy.queries zone

/-- What is asked for a term is written in its directive. -/
theorem Built.queries_eq (within : QueriesWritten zone nested)
    {first : Option Directive} (built : Built zone options nested domain path term first queries) :
    queries = queriesOf zone first.toList := by
  cases built with
  | skipped _ _ => rfl
  | host _ _ _ answered _ =>
    rw [Option.toList_some, queriesOf_singleton]
    exact Inquiry.queries_of_hostAddresses answered
  | literal _ _ => rfl
  | all _ _ => rfl
  | inclusion _ _ found =>
    rw [Option.toList_some, queriesOf_singleton]
    exact within _ _ _ _ _ found

theorem BuiltAll.queries_eq (within : QueriesWritten zone nested)
    {terms : List String} {directives : List Directive}
    (built : BuiltAll zone options nested domain path terms directives queries) :
    queries = queriesOf zone directives := by
  induction built with
  | nil => rfl
  | cons here after ih => rw [queriesOf_append, ← here.queries_eq within, ← ih]

end Directive

/-- What is asked for a policy is written in it. -/
theorem Lookup.queries_of_policyWithin {room : Nat} {policy : Policy}
    (done : policyWithin zone options room domain path = ⟨.done policy, last, queries⟩) :
    queries = policy.queries zone := by
  induction room generalizing domain path policy last queries with
  | zero => cases done
  | succ room ih =>
    obtain ⟨raw, directives, asked, -, built, rfl, -, rfl⟩ := policyWithin_eq_done_iff.mp done
    have within : Directive.QueriesWritten zone (policyWithin zone options room) :=
      fun _ _ _ _ _ done => ih done
    rw [Policy.queries, built.queries_eq within]

namespace Resolver

variable {resolver after : Resolver} {policy : Policy}

/-- The policy of a domain is the first one among the texts that the resolver is asked for. -/
theorem perform_policyText (resolver : Resolver) (domain : String) (path : IncludePath) :
    resolver.perform (fun zone => Inquiry.policyText zone domain path) =
      match resolver.askTxt domain with
      | (.error cause, after) => (.failed (.dns domain cause), after)
      | (.ok texts, after) =>
          match texts.find? PolicyText.isPolicy with
          | some raw => (.done raw, after)
          | none => (.failed (.noPolicy domain), after) := by
  have asked := resolver.perform_askFor domain .txt path
  refine (resolver.perform_bind (fun zone => Inquiry.askFor zone domain .txt) _ path).trans ?_
  rw [asked, ask]
  rcases resolver.askTxt domain with ⟨cause | texts, after⟩
  · rfl
  · change after.perform (fun _ => (match texts.find? PolicyText.isPolicy with
      | some raw => pure raw
      | none => Inquiry.fail (.noPolicy domain) : Inquiry String) path) = _
    dsimp only
    cases texts.find? PolicyText.isPolicy with
    | some raw => exact after.perform_stop (.done raw) path
    | none => exact after.perform_stop (.failed (.noPolicy domain)) path

/-- Mail hosts are asked for one after the other, until the resolver fails for one of them. -/
theorem perform_askHosts_cons (resolver : Resolver) (exchanger : Exchanger) (rest : List Exchanger)
    (path : IncludePath) :
    resolver.perform (fun zone => Inquiry.askHosts zone (exchanger :: rest) path) =
      match resolver.askIp exchanger.host with
      | (.error cause, after) => (.failed (.dns exchanger.host cause), after)
      | (.ok first, after) =>
          match after.perform fun zone => Inquiry.askHosts zone rest path with
          | (outcome, last) => (outcome.map (first ++ ·), last) := by
  have asked := resolver.perform_askFor exchanger.host .ip path
  refine (resolver.perform_bind (fun zone => Inquiry.askFor zone exchanger.host .ip) _ path).trans ?_
  rw [asked, ask]
  rcases resolver.askIp exchanger.host with ⟨cause | first, after⟩
  · rfl
  · change after.perform (fun zone => (Inquiry.askHosts zone rest >>= fun others =>
      pure (first ++ others)) path) = _
    simp only [← map_eq_pure_bind, Inquiry.map_apply, perform]
    rfl

theorem perform_eq_of_outcome_eq {α : Type} {inquiry : Zone → Report α} {outcome : Outcome α}
    (ended : (inquiry resolver.zone).outcome = outcome) :
    resolver.perform inquiry = (outcome, resolver.note (inquiry resolver.zone).queries) := by
  rw [perform, ended]

/-- A look-up that succeeds adds to the log the queries that are written in its policy, and nothing
else. -/
theorem log_of_lookup
    (done : resolver.perform (fun zone => lookup zone options domain) = (.done policy, after)) :
    after.log = resolver.log ++ policy.queries resolver.zone ∧ after.zone = resolver.zone := by
  obtain ⟨found, rfl⟩ := Prod.mk.inj done
  have report : lookup resolver.zone options domain = ⟨.done policy,
      (lookup resolver.zone options domain).path,
      (lookup resolver.zone options domain).queries⟩ := by rw [← found]
  rw [← Lookup.queries_of_policyWithin report]
  exact ⟨rfl, rfl⟩

/-- A domain with two mail hosts, one of which gives its name to the policy that the domain includes. -/
def mailZone : Zone :=
  ((({} : Zone).setTxt "a" ["v=spf1 mx include:B ~all"]).setTxt "b" ["v=spf1 a:A. ip4:10.0.0.0/8"]).setMx
    "a" [⟨20, "Mail.A"⟩, ⟨10, "b."⟩]

def mailPolicy : Policy :=
  ⟨"a", "v=spf1 mx include:B ~all", [⟨.pass, "mx", .host .mx "a" ⟨32, 128⟩ []⟩,
    ⟨.pass, "include:B", .inclusion "b" ⟨"b", "v=spf1 a:A. ip4:10.0.0.0/8",
      [⟨.pass, "a:A.", .host .a "a" ⟨32, 128⟩ []⟩,
        ⟨.pass, "ip4:10.0.0.0/8", .ip (.v4 0x0A000000#32 8)⟩]⟩⟩,
    ⟨.softFail, "~all", .all⟩]⟩

/-- A resolver that has been asked before. -/
def mailResolver : Resolver := ⟨mailZone, [.about .txt "z"]⟩

theorem log_of_lookup_mail : ∃ after,
    mailResolver.perform (fun zone => lookup zone {} "A") = (.done mailPolicy, after) ∧
    after.log = [⟨.txt, "z"⟩, ⟨.txt, "a"⟩, ⟨.mx, "a"⟩, ⟨.ip, "mail.a"⟩, ⟨.ip, "b."⟩, ⟨.txt, "b"⟩,
      ⟨.ip, "a"⟩] := by
  have found : (lookup mailResolver.zone {} "A").outcome = .done mailPolicy := by decide +kernel
  have done : mailResolver.perform (fun zone => lookup zone {} "A") = (.done mailPolicy, _) :=
    perform_eq_of_outcome_eq found
  refine ⟨_, done, (log_of_lookup done).1.trans ?_⟩
  decide +kernel

end Resolver

end SenderPolicy

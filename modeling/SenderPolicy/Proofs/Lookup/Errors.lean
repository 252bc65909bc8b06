import SenderPolicy.Proofs.IncludePath
import SenderPolicy.Proofs.Lookup.Simulation

/-! # What look-ups fail with

An inquiry fails with the errors of its parts and brings in none of its own. So a look-up, at every depth of its
includes, fails only with what one of its steps can fail with.
-/

namespace SenderPolicy

namespace Inquiry

variable {α β : Type}

/-- Wherever the reader is, the queries of a failing inquiry account for its error. -/
def FailsFor (accounts : List Query → PolicyError → Prop) (inquiry : Inquiry α) : Prop :=
  ∀ path error, (inquiry path).outcome = .failed error → accounts (inquiry path).queries error

section FailsFor

variable {accounts : List Query → PolicyError → Prop}

theorem failsFor_fail {error : PolicyError} (fine : accounts [] error) :
    (fail error : Inquiry α).FailsFor accounts := by
  intro path other failed
  cases failed
  exact fine

/-- A sequence fails in one of its parts, and what the first part asked comes before what the second does. -/
theorem FailsFor.bind {first : Inquiry α} {next : α → Inquiry β}
    (prepend : ∀ asked more error, accounts more error → accounts (asked ++ more) error)
    (here : first.FailsFor accounts)
    (after : ∀ path value, (first path).outcome = .done value → (next value).FailsFor accounts) :
    (first >>= next).FailsFor accounts := by
  intro path error failed
  rcases ran : first path with ⟨outcome, middle, asked⟩
  cases outcome with
  | done value =>
    rw [bind_apply_done ran] at failed ⊢
    exact prepend asked _ error (after path value (by rw [ran]) middle error failed)
  | failed cause =>
    have refused := here path cause (by rw [ran])
    rw [ran] at refused
    rw [bind_apply_failed ran] at failed ⊢
    cases failed
    exact refused
  | unending =>
    rw [bind_apply_unending ran] at failed
    cases failed

theorem FailsFor.map {inquiry : Inquiry α} (here : inquiry.FailsFor accounts) (f : α → β) :
    (f <$> inquiry).FailsFor accounts := by
  intro path error failed
  rw [map_apply, Report.map] at failed ⊢
  exact here path error (Outcome.map_eq_failed_iff.mp failed)

/-- An include fails with what it is refused for, or inside. -/
theorem FailsFor.inside {inquiry : Inquiry α} (here : inquiry.FailsFor accounts) {limit? : Option Nat}
    {domain : String}
    (refused : ∀ path error, IncludePath.enter path limit? domain = .error error → accounts [] error) :
    (inside limit? domain inquiry).FailsFor accounts := by
  intro path error failed
  unfold Inquiry.inside at failed ⊢
  split at failed
  · next outside =>
    cases failed
    exact refused path error outside
  · next inner _ => exact here inner error failed

theorem FailsFor.mono {other : List Query → PolicyError → Prop} {inquiry : Inquiry α}
    (here : inquiry.FailsFor accounts) (fine : ∀ queries error, accounts queries error → other queries error) :
    inquiry.FailsFor other :=
  fun path error failed => fine _ _ (here path error failed)

end FailsFor

variable {allowed : PolicyError → Prop}

/-- Wherever the reader is, an inquiry fails with allowed errors alone. -/
def FailsOnly (allowed : PolicyError → Prop) (inquiry : Inquiry α) : Prop :=
  ∀ path error, (inquiry path).outcome = .failed error → allowed error

/-- Such an error needs no queries to account for it. -/
theorem failsFor_const_iff {inquiry : Inquiry α} :
    inquiry.FailsFor (fun _ => allowed) ↔ inquiry.FailsOnly allowed := Iff.rfl

theorem failsOnly_pure (value : α) : (pure value : Inquiry α).FailsOnly allowed := by
  intro path error failed
  cases failed

theorem failsOnly_fail {error : PolicyError} (fine : allowed error) :
    (fail error : Inquiry α).FailsOnly allowed :=
  failsFor_const_iff.mp (failsFor_fail fine)

theorem failsOnly_unending : (stop .unending : Inquiry α).FailsOnly allowed := by
  intro path error failed
  cases failed

theorem failsOnly_ask (dns : ∀ domain cause, allowed (.dns domain cause)) (kind : QueryKind)
    (domain : String) (answer : Except DnsError α) : (ask kind domain answer).FailsOnly allowed := by
  intro path error failed
  cases answer with
  | ok value => cases failed
  | error cause =>
    cases failed
    exact dns domain cause

theorem FailsOnly.bind {first : Inquiry α} {next : α → Inquiry β} (here : first.FailsOnly allowed)
    (after : ∀ path value, (first path).outcome = .done value → (next value).FailsOnly allowed) :
    (first >>= next).FailsOnly allowed :=
  failsFor_const_iff.mp (.bind (fun _ _ _ => id) here after)

theorem FailsOnly.inside {inquiry : Inquiry α} (here : inquiry.FailsOnly allowed)
    {limit? : Option Nat} {domain : String}
    (refused : ∀ path error, IncludePath.enter path limit? domain = .error error → allowed error) :
    (inside limit? domain inquiry).FailsOnly allowed :=
  failsFor_const_iff.mp ((failsFor_const_iff.mpr here).inside refused)

theorem failsOnly_policyText (dns : ∀ domain cause, allowed (.dns domain cause))
    (missing : ∀ domain, allowed (.noPolicy domain)) (zone : Zone) (domain : String) :
    (policyText zone domain).FailsOnly allowed := by
  refine (failsOnly_ask dns _ _ _).bind fun _ texts _ => ?_
  split
  · exact failsOnly_pure _
  · exact failsOnly_fail (missing domain)

theorem composes_failsOnly (allowed : PolicyError → Prop) :
    Composes fun _ inquiry _ => inquiry.FailsOnly allowed where
  value := failsOnly_pure
  bind := FailsOnly.bind

/-- Hosts are found unless a query fails. -/
theorem failsOnly_hostAddresses (dns : ∀ domain cause, allowed (.dns domain cause)) (zone : Zone) (name : String)
    (kind : HostKind) : (hostAddresses zone name kind).FailsOnly allowed :=
  @Composes.hostAddresses _ zone zone (composes_failsOnly allowed) (fun host => failsOnly_ask dns .ip host _)
    (fun name => failsOnly_ask dns .mx name _) name kind

/-- So are their networks, if the lengths fit. -/
theorem failsOnly_hostNetworks (dns : ∀ domain cause, allowed (.dns domain cause)) (zone : Zone) (name : String)
    (kind : HostKind) {lengths : PrefixLengths} (fit : lengths.Fit) :
    (hostNetworks zone name kind lengths).FailsOnly allowed :=
  @Composes.hostNetworks _ zone zone (composes_failsOnly allowed) (fun host => failsOnly_ask dns .ip host _)
    (fun name => failsOnly_ask dns .mx name _) name kind _ fit

end Inquiry

open Inquiry

/-- The steps of a look-up fail with the errors of queries, of texts and of fields, with terms without a keyword
where these are refused, and with includes that may not be entered. -/
theorem simulation_failsOnly (zone : Zone) (options : Options) {allowed : PolicyError → Prop}
    (dns : ∀ domain cause, allowed (.dns domain cause)) (missing : ∀ domain, allowed (.noPolicy domain))
    (unknown : ∀ term, options.strict = true → Term.keyword? term = none → allowed (.unknownTerm term))
    (format : ∀ fault, allowed (.format fault))
    (refused : ∀ path domain error,
      IncludePath.enter path options.maxIncludeDepth domain = .error error → allowed error) :
    Simulation zone zone options options fun _ inquiry _ => inquiry.FailsOnly allowed where
  toComposes := composes_failsOnly allowed
  text name := failsOnly_policyText dns missing zone name
  networks name kind _ fit := failsOnly_hostNetworks dns zone name kind fit
  unknown {term} none := by
    unfold Directive.ofUnknown
    split
    · next strict => exact failsOnly_fail (unknown term strict none)
    · exact failsOnly_pure _
  malformed fault := failsOnly_fail (format fault)
  inside name _ _ within := within.inside fun path error outside => refused path name error outside

namespace Lookup

/-- No step of a look-up refuses a term for its keyword: each term goes to the constructor of its own. -/
theorem simulation_failsOnly_wrongKeyword (zone : Zone) (options : Options) :
    Simulation zone zone options options fun _ inquiry _ =>
      inquiry.FailsOnly fun error => ∀ wanted found, error ≠ .wrongKeyword wanted found := by
  refine simulation_failsOnly zone options nofun nofun nofun nofun fun path name error outside => ?_
  rcases IncludePath.error_of_enter outside with rfl | ⟨limit, -, rfl⟩
  · exact nofun
  · exact nofun

theorem policyWithin_failsOnly (zone : Zone) (options : Options) (room : Nat) (domain : String) :
    (policyWithin zone options room domain).FailsOnly
      fun error => ∀ wanted found, error ≠ .wrongKeyword wanted found :=
  (simulation_failsOnly_wrongKeyword zone options).policyWithin failsOnly_unending room domain

end Lookup

end SenderPolicy

import SenderPolicy.Proofs.Policy.Grammar

/-! # Terms of hosts and their queries

A term of hosts is read before anything is asked. Once it is read, nothing but a query can fail: the lengths of the
term suit every address that may come back, whatever its version and its form.
-/

namespace SenderPolicy

/-- What is asked first to find the hosts of a domain. -/
def HostKind.query : HostKind → QueryKind
  | .a => .ip
  | .mx => .mx

namespace Inquiry

variable {zone : Zone} {name : String} {kind : HostKind} {path : IncludePath}

/-- The hosts of a domain are found unless a query fails. -/
theorem hostAddresses_cases (zone : Zone) (name : String) (kind : HostKind) (path : IncludePath) :
    (∃ addresses, (hostAddresses zone name kind path).outcome = .done addresses) ∨
      ∃ domain cause, (hostAddresses zone name kind path).outcome = .failed (.dns domain cause) := by
  have ends := (plain_hostAddresses zone name kind).ends path
  have fails : (hostAddresses zone name kind).FailsOnly fun error => ∃ domain cause, error = .dns domain cause :=
    failsOnly_hostAddresses (fun domain cause => ⟨domain, cause, rfl⟩) zone name kind
  cases ended : (hostAddresses zone name kind path).outcome with
  | done addresses => exact .inl ⟨addresses, rfl⟩
  | failed error =>
    obtain ⟨domain, cause, rfl⟩ := fails path error ended
    exact .inr ⟨domain, cause, rfl⟩
  | unending => exact absurd ended ends

/-- The first query is about the domain itself. -/
theorem hostAddresses_asks (zone : Zone) (name : String) (kind : HostKind) (path : IncludePath) :
    [.about kind.query name] <+: (hostAddresses zone name kind path).queries := by
  cases kind with
  | a => exact List.prefix_rfl
  | mx => exact queries_prefix_bind (askMx zone name) _ path

/-- Every address gives its network, so networks are found where hosts are. -/
theorem hostNetworks_eq_map {lengths : PrefixLengths} (fit : lengths.Fit) (zone : Zone) (name : String)
    (kind : HostKind) :
    hostNetworks zone name kind lengths = List.map lengths.network <$> hostAddresses zone name kind := by
  rw [hostNetworks, map_eq_pure_bind]
  simp only [networksOf_eq fit]
  rfl

end Inquiry

namespace Directive

open Inquiry

variable {kind : HostKind} {term domain : String}

/-- The directive of hosts with these addresses, as the parts of a term state it in the text of a domain. -/
def ofAddresses (parts : Term.Parts) (kind : HostKind) (domain : String) (addresses : List Address) : Directive :=
  ⟨parts.qualifier, parts.text, .host kind (hostDomain parts domain) parts.prefixLengths
    (addresses.map parts.prefixLengths.network)⟩

/-- A term of the parts of a directive of hosts asks for their addresses, and is built when they are found. -/
theorem ofHost_text_eq_map {parts : Term.Parts} (names : parts.NamesHosts kind) (zone : Zone) (domain : String) :
    ofHost zone kind parts.text domain =
      ofAddresses parts kind domain <$> hostAddresses zone (hostDomain parts domain) kind := by
  have fit : parts.prefixLengths.Fit := Term.fit_of_readHost names.readHost_text
  rw [ofHost_text names, hostNetworks_eq_map fit, Functor.map_map]
  rfl

/-- A term that is not put together from the parts of a directive of hosts is refused for its form, and nothing is
asked. Every other term asks, the domain that it names first, and is built from the addresses that are found, each
of which has a network, unless a query fails. -/
theorem ofHost_asks (zone : Zone) (kind : HostKind) (term domain : String) (path : IncludePath) :
    ((¬∃ parts : Term.Parts, parts.NamesHosts kind ∧ parts.text = term) →
      ∃ error, ofHost zone kind term domain path = ⟨.failed error, path, []⟩ ∧ error.IsOfForm) ∧
    ∀ parts : Term.Parts, parts.NamesHosts kind → parts.text = term →
      [.about kind.query (hostDomain parts domain)] <+: (ofHost zone kind term domain path).queries ∧
      ((∃ addresses,
          (hostAddresses zone (hostDomain parts domain) kind path).outcome = .done addresses ∧
          (ofHost zone kind term domain path).outcome = .done (ofAddresses parts kind domain addresses)) ∨
        ∃ name cause,
          (hostAddresses zone (hostDomain parts domain) kind path).outcome = .failed (.dns name cause) ∧
          (ofHost zone kind term domain path).outcome = .failed (.dns name cause)) ∧
      ∀ addresses, networksOf addresses parts.prefixLengths =
        .ok (addresses.map parts.prefixLengths.network) := by
  refine ⟨fun other => ?_, ?_⟩
  · rw [← readsAs_host_iff] at other
    obtain ⟨error, refused, form⟩ := ofHost_refused other zone domain
    exact ⟨error, congrFun refused path, form⟩
  · rintro parts names rfl
    have fit : parts.prefixLengths.Fit := Term.fit_of_readHost names.readHost_text
    rw [ofHost_text_eq_map names, map_apply, Report.map]
    refine ⟨hostAddresses_asks .., ?_, networksOf_eq fit⟩
    rcases hostAddresses_cases zone (hostDomain parts domain) kind path with
      ⟨addresses, found⟩ | ⟨name, cause, failed⟩
    · exact .inl ⟨addresses, found, by rw [found]; rfl⟩
    · exact .inr ⟨name, cause, failed, by rw [failed]; rfl⟩

/-- A mail host with an address of each form: a short one, a long one and one that is mapped. -/
def formsZone : Zone where
  exchangers := ⟨[("b", [⟨10, "h"⟩])]⟩
  addresses := ⟨[("h", [.v4 0x0A010203#32, .v6 0x20010DB8000000010000000000000001#128,
    .v6 0xFFFF0A010203#128])]⟩

def formsParts : Term.Parts := ⟨none, "mx".toList, some "B".toList, [24, 32]⟩

/-- The address that is mapped gets the length of the short ones. A length that is out of range keeps the queries
from being asked. -/
theorem ofHost_asks_forms :
    (ofHost formsZone .mx "mx:B/24/32" "a" .outside).outcome =
      .done ⟨.pass, "mx:B/24/32", .host .mx "b" ⟨24, 32⟩
        [.v4 0x0A010200#32 24, .v6 0x20010DB8000000000000000000000000#128 32, .v4 0x0A010200#32 24]⟩ ∧
    [.about .mx "b"] <+: (ofHost formsZone .mx "mx:B/24/32" "a" .outside).queries ∧
    ∃ error, ofHost formsZone .mx "mx:B/33" "a" .outside = ⟨.failed error, .outside, []⟩ ∧ error.IsOfForm := by
  have text : formsParts.text = "mx:B/24/32" := by decide +kernel
  have names : formsParts.NamesHosts .mx := {
    mark := nofun
    word := by decide
    target _ given := by cases given; exact Term.Parts.isName_iff.mp (by decide)
    few := by decide
    v4 := by decide
    v6 := by decide }
  have target : hostDomain formsParts "a" = "b" := by decide +kernel
  have found : (hostAddresses formsZone "b" .mx .outside).outcome = .done
      [.v4 0x0A010203#32, .v6 0x20010DB8000000010000000000000001#128, .v6 0xFFFF0A010203#128] := by
    decide +kernel
  have refused : Term.readHost "mx:B/33" = .error (.lengthOutOfRange "33" .v4 "mx:B/33") := by decide +kernel
  obtain ⟨-, built⟩ := ofHost_asks formsZone .mx "mx:B/24/32" "a" .outside
  obtain ⟨asks, ended, -⟩ := built formsParts names text
  rw [target] at asks ended
  rw [found] at ended
  refine ⟨?_, asks, ?_⟩
  · rcases ended with ⟨addresses, given, made⟩ | ⟨name, cause, given, -⟩
    · cases given
      rw [made]
      decide +kernel
    · cases given
  · refine (ofHost_asks formsZone .mx "mx:B/33" "a" .outside).1 fun shaped => ?_
    obtain ⟨fields, read, -⟩ := readsAs_host_iff.mpr shaped
    rw [refused] at read
    cases read

end Directive

end SenderPolicy

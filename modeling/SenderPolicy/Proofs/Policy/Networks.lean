import SenderPolicy.Policy.Basic
import SenderPolicy.Proofs.Lookup.Trace
import SenderPolicy.Proofs.Policy.Hosts

/-! # What terms of hosts match

A term of hosts matches the senders that are near one of the addresses of its hosts. The addresses are those
of a domain, or those of its mail hosts in the order of the list, and each widens to one network. So the
networks say no more than the addresses and the lengths, which are the ones that the term states.
-/

namespace SenderPolicy

variable {zone : Zone} {domain term : String} {path last : IncludePath} {queries : List Query}

namespace Zone

def givenAddresses (zone : Zone) (domain : String) : List Address :=
  match zone.ip domain with
  | .ok addresses => addresses
  | .error _ => []

/-- The addresses that the answers for the hosts of a domain give, one host after the other. -/
def hostAddresses (zone : Zone) (domain : String) : HostKind → List Address
  | .a => zone.givenAddresses domain
  | .mx => (zone.mailHosts domain).flatMap zone.givenAddresses

end Zone

namespace Inquiry

theorem addresses_of_askIp {addresses : List Address}
    (done : askIp zone domain path = ⟨.done addresses, last, queries⟩) :
    addresses = zone.givenAddresses domain := by
  rw [Zone.givenAddresses, (ask_eq_done_iff.mp done).1]

theorem addresses_of_askHosts {exchangers : List Exchanger} {addresses : List Address}
    (done : askHosts zone exchangers path = ⟨.done addresses, last, queries⟩) :
    addresses = exchangers.flatMap fun exchanger => zone.givenAddresses exchanger.host := by
  induction exchangers generalizing path addresses queries with
  | nil => exact (pure_eq_done_iff.mp done).1
  | cons exchanger rest ih =>
    simp only [askHosts, bind_eq_done_iff, pure_eq_done_iff] at done
    obtain ⟨first, _, _, _, here, ⟨others, _, _, _, after, ⟨rfl, rfl, rfl⟩, rfl⟩, rfl⟩ := done
    rw [List.flatMap_cons, ← addresses_of_askIp here, ← ih after]

/-- The addresses that are found are those that the answers give. -/
theorem addresses_of_hostAddresses {kind : HostKind} {addresses : List Address}
    (done : hostAddresses zone domain kind path = ⟨.done addresses, last, queries⟩) :
    addresses = zone.hostAddresses domain kind := by
  cases kind with
  | a => exact addresses_of_askIp done
  | mx =>
    simp only [hostAddresses, askMx, bind_eq_done_iff, ask_eq_done_iff] at done
    obtain ⟨exchangers, _, _, _, ⟨answered, -, rfl⟩, hosts, rfl⟩ := done
    rw [addresses_of_askHosts hosts]
    simp [Zone.hostAddresses, Zone.mailHosts, answered, List.flatMap_map]

/-- Where no query for the hosts of a domain fails, their addresses are found. -/
theorem hostAddresses_of_hostsAnswer {kind : HostKind} (answers : zone.HostsAnswer domain kind)
    (path : IncludePath) : ∃ queries,
      hostAddresses zone domain kind path =
        ⟨.done (zone.hostAddresses domain kind), path, queries⟩ := by
  have succeeds : (hostAddresses zone domain kind path).outcome.cause? = none :=
    (hostAddresses_cause?_eq_none_iff kind).mpr answers
  obtain ⟨addresses, found⟩ := Outcome.cause?_eq_none_iff.mp succeeds
  obtain ⟨queries, done⟩ :=
    (plain_hostAddresses zone domain kind).balanced.outcome_eq_done_iff.mp found
  exact ⟨queries, by rw [done, addresses_of_hostAddresses done]⟩

end Inquiry

namespace PrefixLengths

/-- Two addresses of one version agree on as many leading bits as count for it. -/
def Near (lengths : PrefixLengths) : Address → Address → Prop
  | .v4 left, .v4 right => AgreeOn lengths.v4 left right
  | .v6 left, .v6 right => AgreeOn lengths.v6 left right
  | _, _ => False

instance (lengths : PrefixLengths) : DecidableRel lengths.Near
  | .v4 left, .v4 right => inferInstanceAs (Decidable (AgreeOn lengths.v4 left right))
  | .v6 left, .v6 right => inferInstanceAs (Decidable (AgreeOn lengths.v6 left right))
  | .v4 _, .v6 _ | .v6 _, .v4 _ => isFalse id

variable {lengths : PrefixLengths}

theorem near_self (lengths : PrefixLengths) (address : Address) : lengths.Near address address := by
  cases address with
  | v4 bits => exact .refl _ bits
  | v6 bits => exact .refl _ bits

/-- The network around an address holds what is near it, once both are canonical. -/
theorem contains_network_iff {address sender : Address} :
    (lengths.network address).contains sender = true ↔
      lengths.Near address.canonical sender.canonical := by
  unfold network
  cases address.canonical with
  | v4 bits =>
    rw [Block.contains_v4_iff]
    cases sender.canonical <;> simp [Near, masked_agreeOn_iff]
  | v6 bits =>
    rw [Block.contains_v6_iff]
    cases sender.canonical <;> simp [Near, masked_agreeOn_iff]

end PrefixLengths

/-- A term of hosts is read with the domain and the lengths that it states. -/
theorem Term.stated_of_readHost {fields : HostTerm} (read : readHost term = .ok fields) :
    fields.domain = ((sections term).head?.bind target?).map String.ofList ∧
      fields.lengths = ⟨statedLength .v4 (sections term)[1]?, statedLength .v6 (sections term)[2]?⟩ := by
  obtain ⟨head, lengths, _, v4, v6, pieces, -, -, v4Read, v6Read, rfl⟩ := readHost_eq_ok_iff.mp read
  rw [pieces, (readLength_eq_ok_iff.mp v4Read).1, (readLength_eq_ok_iff.mp v6Read).1]
  exact ⟨rfl, rfl⟩

namespace Directive

/-- Where no query for its hosts fails, a term of hosts is built from their addresses. -/
theorem ofHost_of_hostsAnswer {fields : Term.HostTerm} (read : Term.readHost term = .ok fields)
    (answers : zone.HostsAnswer (DomainName.normalize (fields.domain.getD domain)) fields.kind)
    (path : IncludePath) :
    let name := DomainName.normalize (fields.domain.getD domain)
    (ofHost zone fields.kind term domain path).outcome = .done ⟨fields.qualifier, term,
      .host fields.kind name fields.lengths
        ((zone.hostAddresses name fields.kind).map fields.lengths.network)⟩ := by
  obtain ⟨queries, found⟩ := Inquiry.hostAddresses_of_hostsAnswer answers path
  have made := networksOf_eq (Term.fit_of_readHost read)
    (zone.hostAddresses (DomainName.normalize (fields.domain.getD domain)) fields.kind)
  have built := (ofHost_eq_done_iff (Term.keyword?_of_readHost read)).mpr
    ⟨fields, _, _, read, found, made, rfl⟩
  dsimp only
  rw [built]

variable {qualifier : Qualifier} {kind : HostKind} {name : String} {lengths : PrefixLengths}
  {addresses : List Address} {sender : Address}

theorem trail_host_of_near {address : Address} (member : address ∈ addresses)
    (near : lengths.Near address.canonical sender.canonical) :
    Directive.trail sender ⟨qualifier, term, .host kind name lengths (addresses.map lengths.network)⟩ =
      [term] := by
  have held : (addresses.map lengths.network).any (·.contains sender) = true := by
    apply List.any_eq_true.mpr
    exact ⟨_, List.mem_map_of_mem member, PrefixLengths.contains_network_iff.mpr near⟩
  rw [trail]
  exact if_pos held

theorem trail_host_of_far
    (far : ¬∃ address ∈ addresses, lengths.Near address.canonical sender.canonical) :
    Directive.trail sender ⟨qualifier, term, .host kind name lengths (addresses.map lengths.network)⟩ =
      [] := by
  have free : ¬(addresses.map lengths.network).any (·.contains sender) = true := by
    intro held
    obtain ⟨network, among, inside⟩ := List.any_eq_true.mp held
    obtain ⟨address, member, rfl⟩ := List.mem_map.mp among
    exact far ⟨address, member, PrefixLengths.contains_network_iff.mp inside⟩
  rw [trail]
  exact if_neg free

/-- What a term of hosts means. Where no query for its hosts fails, its directive is built, with one network
for each of their addresses, in the order of the answers. It matches the senders that are near one of the
addresses, by the lengths that the term states, and so the addresses themselves. -/
theorem ofHost_matches_near (zone : Zone) (domain : String) (path : IncludePath)
    {fields : Term.HostTerm} (read : Term.readHost term = .ok fields)
    (answers : zone.HostsAnswer (DomainName.normalize (fields.domain.getD domain)) fields.kind) :
    let name := DomainName.normalize (fields.domain.getD domain)
    let addresses := zone.hostAddresses name fields.kind
    let directive : Directive := ⟨fields.qualifier, term,
      .host fields.kind name fields.lengths (addresses.map fields.lengths.network)⟩
    (ofHost zone fields.kind term domain path).outcome = .done directive ∧
    fields.domain = ((Term.sections term).head?.bind Term.target?).map String.ofList ∧
    fields.lengths.v4 = Term.statedLength .v4 (Term.sections term)[1]? ∧
    fields.lengths.v6 = Term.statedLength .v6 (Term.sections term)[2]? ∧
    (∀ sender,
      ((∃ address ∈ addresses, fields.lengths.Near address.canonical sender.canonical) →
        directive.trail sender = [term]) ∧
      ((¬∃ address ∈ addresses, fields.lengths.Near address.canonical sender.canonical) →
        directive.trail sender = [])) ∧
    ∀ address ∈ addresses, directive.trail address = [term] := by
  obtain ⟨stated, lengths⟩ := Term.stated_of_readHost read
  refine ⟨ofHost_of_hostsAnswer read answers path, stated, by rw [lengths], by rw [lengths], ?_, ?_⟩
  · intro sender
    constructor
    · rintro ⟨address, member, near⟩
      exact trail_host_of_near member near
    · exact trail_host_of_far
  · intro address member
    exact trail_host_of_near member (fields.lengths.near_self address.canonical)

/-- A domain with two mail hosts. The first has addresses of both forms, of which two are the same. -/
def mixedZone : Zone :=
  ((({} : Zone).setMx "b" [⟨20, "H"⟩, ⟨10, "i."⟩]).setIp "h"
    [.v4 0x0A010203#32, .v6 (Address.embed 0x0A010203#32), .v4 0x0A020304#32]).setIp "i."
    [.v6 0x20010DB8000000010000000000000001#128]

def mixedDirective : Directive :=
  ⟨.fail, "-MX:B./16/48", .host .mx "b" ⟨16, 48⟩ [.v4 0x0A010000#32 16, .v4 0x0A010000#32 16,
    .v4 0x0A020000#32 16, .v6 0x20010DB8000000000000000000000000#128 48]⟩

/-- A long sender beside the long address matches, and a short one away from all of them does not. -/
theorem ofHost_matches_near_mixed :
    mixedZone.HostsAnswer "b" .mx ∧
    (ofHost mixedZone .mx "-MX:B./16/48" "a" .outside).outcome = .done mixedDirective ∧
    mixedDirective.trail (.v6 0x20010DB80000FFFF0000000000000000#128) = ["-MX:B./16/48"] ∧
    mixedDirective.trail (.v4 0x0A030203#32) = [] := by
  have read : Term.readHost "-MX:B./16/48" = .ok ⟨.fail, .mx, some "B.", ⟨16, 48⟩⟩ := by decide +kernel
  have answers : mixedZone.HostsAnswer "b" .mx := ⟨rfl, fun _ _ => rfl⟩
  have addresses : mixedZone.hostAddresses "b" .mx = [.v4 0x0A010203#32,
      .v6 (Address.embed 0x0A010203#32), .v4 0x0A020304#32,
      .v6 0x20010DB8000000010000000000000001#128] := by decide +kernel
  have law := ofHost_matches_near mixedZone "a" .outside read answers
  have same : DomainName.normalize "B." = "b" := by decide +kernel
  simp only [Option.getD_some, same, addresses] at law
  obtain ⟨done, -, -, -, senders, -⟩ := law
  refine ⟨answers, done, ?_, ?_⟩
  · exact (senders (.v6 0x20010DB80000FFFF0000000000000000#128)).1
      ⟨.v6 0x20010DB8000000010000000000000001#128, by decide, by decide⟩
  · exact (senders (.v4 0x0A030203#32)).2 (by decide)

end Directive

end SenderPolicy

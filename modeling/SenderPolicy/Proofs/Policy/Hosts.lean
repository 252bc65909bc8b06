import SenderPolicy.Policy.Directive
import SenderPolicy.Proofs.Block.Membership
import SenderPolicy.Proofs.Policy.Built
import SenderPolicy.Proofs.Policy.Directive

/-! # Terms that can be built

The hosts of a term are found when no query about them fails. The lengths that a term is read with suit
every address, so nothing else keeps the networks from being made. Where terms without a keyword are
skipped, a term that is no include is built exactly when its fields can be read and, if it names hosts, no
query for them fails.
-/

namespace SenderPolicy

/-- Lengths that addresses of each version can have. -/
structure PrefixLengths.Fit (lengths : PrefixLengths) : Prop where
  v4_pos : 1 ≤ lengths.v4
  v4_le : lengths.v4 ≤ Version.v4.width
  v6_pos : 1 ≤ lengths.v6
  v6_le : lengths.v6 ≤ Version.v6.width

namespace Term

/-- A term of hosts is read with lengths that suit every address. -/
theorem fit_of_readHost {term : String} {fields : HostTerm} (read : readHost term = .ok fields) :
    fields.lengths.Fit := by
  obtain ⟨_, _, _, v4, v6, -, -, -, v4Read, v6Read, rfl⟩ := readHost_eq_ok_iff.mp read
  obtain ⟨-, v4_pos, v4_le⟩ := readLength_eq_ok_iff.mp v4Read
  obtain ⟨-, v6_pos, v6_le⟩ := readLength_eq_ok_iff.mp v6Read
  exact ⟨v4_pos, v4_le, v6_pos, v6_le⟩

end Term

/-- The network around an address: its canonical form, with the bits beyond the length of its version
cleared. -/
def PrefixLengths.network (lengths : PrefixLengths) (address : Address) : Block :=
  match address.canonical with
  | .v4 bits => .v4 (bits &&& leadingMask 32 lengths.v4) lengths.v4
  | .v6 bits => .v6 (bits &&& leadingMask 128 lengths.v6) lengths.v6

/-- The block of a long address that is not mapped is one of long addresses, whatever its length. -/
theorem Block.ofLong_of_canonical {bits : BitVec 128} (form : (Address.v6 bits).canonical = .v6 bits)
    (length : Nat) : ofLong bits length = .v6 (bits &&& leadingMask 128 length) length := by
  rw [Address.canonical] at form
  rw [ofLong]
  cases found : Address.mapped? bits with
  | none => rfl
  | some low =>
    rw [found] at form
    cases form

/-- Lengths that fit give an address its network. -/
theorem PrefixLengths.Fit.ofAddress_canonical {lengths : PrefixLengths} (fit : lengths.Fit)
    (address : Address) :
    Block.ofAddress address.canonical (match address.canonical with
      | .v4 _ => lengths.v4
      | .v6 _ => lengths.v6) = .ok (lengths.network address) := by
  have settled := address.canonical_canonical
  rw [PrefixLengths.network]
  cases form : address.canonical with
  | v4 bits => exact Block.ofAddress_eq_ok_iff.mpr ⟨⟨fit.v4_pos, fit.v4_le⟩, rfl⟩
  | v6 bits =>
    rw [form] at settled
    exact Block.ofAddress_eq_ok_iff.mpr
      ⟨⟨fit.v6_pos, fit.v6_le⟩, (Block.ofLong_of_canonical settled lengths.v6).symm⟩

/-- Lengths that fit give every address its network, one after the other. -/
theorem networksOf_eq {lengths : PrefixLengths} (fit : lengths.Fit) (addresses : List Address) :
    networksOf addresses lengths = .ok (addresses.map lengths.network) := by
  refine Eq.trans (congrArg (fun made => List.mapM made addresses) (funext fun address => ?_))
    List.mapM_pure
  exact congrArg (Except.mapError fun error => PolicyError.format (.badBlock error))
    (fit.ofAddress_canonical address)

namespace Zone

/-- No query about the domain fails. -/
def Answers (zone : Zone) (domain : String) : Prop :=
  zone.failures.get? (Text.lowercase domain) = none

/-- No query for the hosts of the domain fails, nor any about the mail hosts among them. -/
def HostsAnswer (zone : Zone) (domain : String) : HostKind → Prop
  | .a => zone.Answers domain
  | .mx => zone.Answers domain ∧
      ∀ exchanger ∈ (zone.exchangers.get? (Text.lowercase domain)).getD [],
        zone.Answers exchanger.host

/-- A domain has an answer of each kind unless its queries fail. -/
theorem answer_eq_ok_iff {α : Type} {zone : Zone} {table : Table (List α)} {domain : String}
    {values : List α} :
    zone.answer table (Text.lowercase domain) = .ok values ↔
      zone.Answers domain ∧ values = (table.get? (Text.lowercase domain)).getD [] := by
  unfold answer Answers
  cases zone.failures.get? (Text.lowercase domain) <;> simp [eq_comm]

end Zone

namespace Inquiry

variable {zone : Zone} {domain : String} {path : IncludePath}

theorem ask_outcome_eq_done_iff {α : Type} {kind : QueryKind} {answer : Except DnsError α} {value : α} :
    (ask kind domain answer path).outcome = .done value ↔ answer = .ok value := by
  cases answer <;> simp [ask, Except.mapError, Outcome.ofExcept]

theorem askIp_cause?_eq_none_iff :
    (askIp zone domain path).outcome.cause? = none ↔ zone.Answers domain := by
  simp [Outcome.cause?_eq_none_iff, askIp, ask_outcome_eq_done_iff, Zone.ip, Zone.answer_eq_ok_iff]

theorem askHosts_cause?_eq_none_iff (exchangers : List Exchanger) :
    (askHosts zone exchangers path).outcome.cause? = none ↔
      ∀ exchanger ∈ exchangers, zone.Answers exchanger.host := by
  induction exchangers with
  | nil => simp [askHosts, pure_apply, Outcome.cause?]
  | cons exchanger rest ih =>
    have first : (askIp zone exchanger.host).Balanced := (plain_ask ..).balanced
    have found : (askIp zone exchanger.host path).outcome.cause? = none ↔
        zone.Answers exchanger.host := askIp_cause?_eq_none_iff
    rw [List.forall_mem_cons, askHosts, bind_cause?_eq_none_iff first, ← ih, ← found,
      Outcome.cause?_eq_none_iff]
    simp only [← map_eq_pure_bind, map_apply, Report.map, Outcome.cause?_map, exists_and_right]

/-- The addresses of a domain are found when no query for them fails. -/
theorem hostAddresses_cause?_eq_none_iff (kind : HostKind) :
    (hostAddresses zone domain kind path).outcome.cause? = none ↔ zone.HostsAnswer domain kind := by
  cases kind with
  | a => exact askIp_cause?_eq_none_iff
  | mx =>
    have first : (askMx zone domain).Balanced := (plain_ask ..).balanced
    rw [hostAddresses, bind_cause?_eq_none_iff first]
    simp only [askHosts_cause?_eq_none_iff, askMx, ask_outcome_eq_done_iff, Zone.mx,
      Zone.answer_eq_ok_iff, Zone.HostsAnswer]
    constructor
    · rintro ⟨exchangers, ⟨answers, rfl⟩, each⟩
      exact ⟨answers, each⟩
    · rintro ⟨answers, each⟩
      exact ⟨_, ⟨answers, rfl⟩, each⟩

end Inquiry

/-- The fields of the term can be read, and its hosts can be found, in the text of a domain. Nothing is
asked of a term without a keyword. -/
def Zone.Accepts (zone : Zone) (domain term : String) : Prop :=
  match Term.keyword? term with
  | none => True
  | some .all => ∃ qualifier, Term.readAll term = .ok qualifier
  | some .ip => ∃ fields, Term.readLiteral term = .ok fields
  | some .inclusion => ∃ fields, Term.readInclusion term = .ok fields
  | some (.host _) => ∃ fields, Term.readHost term = .ok fields ∧
      zone.HostsAnswer (DomainName.normalize (fields.domain.getD domain)) fields.kind

/-- A term that reads as an include is accepted. -/
theorem Zone.accepts_of_readInclusion (zone : Zone) (domain : String) {term : String}
    {fields : Term.InclusionTerm} (read : Term.readInclusion term = .ok fields) :
    zone.Accepts domain term := by
  simp only [Accepts, Term.keyword?_of_readInclusion read]
  exact ⟨fields, read⟩

namespace Directive

open Inquiry

variable {zone : Zone} {options : Options} {nested : String → Inquiry Policy} {domain term : String}
  {path : IncludePath}

/-- A directive of hosts is built when its fields are read and its hosts are found. -/
theorem ofHost_cause?_eq_none_iff {kind : HostKind} (found : Term.keyword? term = some (.host kind)) :
    (ofHost zone kind term domain path).outcome.cause? = none ↔
      ∃ fields, Term.readHost term = .ok fields ∧
        zone.HostsAnswer (DomainName.normalize (fields.domain.getD domain)) fields.kind := by
  rw [ofHost, ofExcept_requireKeyword found, pure_bind]
  cases read : Term.readHost term with
  | error fault =>
    rw [ofExcept_mapError_error, fail_bind]
    simp [fail, stop, Outcome.cause?]
  | ok fields =>
    have balanced := (plain_hostAddresses zone
      (DomainName.normalize (fields.domain.getD domain)) fields.kind).balanced
    rw [ofExcept_mapError_ok, pure_bind, bind_cause?_eq_none_iff balanced]
    have made (addresses : List Address) : ((Inquiry.ofExcept (networksOf addresses fields.lengths)
        >>= fun networks => pure (⟨fields.qualifier, term, .host fields.kind
          (DomainName.normalize (fields.domain.getD domain)) fields.lengths networks⟩ :
            Directive)) path).outcome.cause? = none := by
      rw [networksOf_eq (Term.fit_of_readHost read)]
      rfl
    simp only [made, and_true, ← Outcome.cause?_eq_none_iff, hostAddresses_cause?_eq_none_iff,
      Except.ok.injEq, exists_eq_left']

theorem ofLiteral_cause?_eq_none_iff :
    (Outcome.ofExcept (ofLiteral term)).cause? = none ↔
      ∃ fields, Term.readLiteral term = .ok fields := by
  simp only [Outcome.cause?_ofExcept_eq_none_iff, ofLiteral_eq_ok_iff]
  rw [exists_comm]
  simp

theorem ofAll_cause?_eq_none_iff (found : Term.keyword? term = some .all) :
    (Outcome.ofExcept (ofAll term)).cause? = none ↔
      ∃ qualifier, Term.readAll term = .ok qualifier := by
  simp only [Outcome.cause?_ofExcept_eq_none_iff, ofAll_eq_ok_iff found]
  rw [exists_comm]
  simp

/-- A term that does not read as an include is built when it is accepted. -/
theorem ofTerm?_cause?_eq_none_iff (lenient : options.strict = false) {fault : FormatFault}
    (read : Term.readInclusion term = .error fault) :
    (ofTerm? zone options nested domain term path).outcome.cause? = none ↔
      zone.Accepts domain term := by
  unfold Zone.Accepts ofTerm?
  cases found : Term.keyword? term with
  | none => simp [lenient, pure_apply, Outcome.cause?]
  | some keyword =>
    cases keyword with
    | host kind =>
      simp only [map_apply, Report.map, Outcome.cause?_map]
      exact ofHost_cause?_eq_none_iff found
    | ip =>
      simp only [map_apply, Report.map, Outcome.cause?_map]
      exact ofLiteral_cause?_eq_none_iff
    | all =>
      simp only [map_apply, Report.map, Outcome.cause?_map]
      exact ofAll_cause?_eq_none_iff found
    | inclusion =>
      simp only [ofInclusion_eq_fail found read, map_apply, Report.map, Outcome.cause?_map]
      simp [read, fail, stop, Outcome.cause?]

end Directive

end SenderPolicy

import SenderPolicy.Proofs.Lookup.Room
import SenderPolicy.Proofs.Lookup.Simulation

/-! # Mapped addresses in answers

The networks of hosts are made from their canonical addresses. So it does not matter in which form the
name servers give an address: a look-up comes to the same policy, and asks the same on the way.
-/

namespace SenderPolicy

/-- Two zones give the same answers, up to the form in which they give addresses. -/
structure Zone.SameUpToMapping (left right : Zone) : Prop where
  txt (domain : String) : right.txt domain = left.txt domain
  mx (domain : String) : right.mx domain = left.mx domain
  ip (domain : String) : (right.ip domain).map (List.map Address.canonical) =
    (left.ip domain).map (List.map Address.canonical)

variable {left right : Zone} {options : Options} {domain : String}

theorem Zone.SameUpToMapping.symm (same : left.SameUpToMapping right) : right.SameUpToMapping left where
  txt domain := (same.txt domain).symm
  mx domain := (same.mx domain).symm
  ip domain := (same.ip domain).symm

/-- Addresses may be set in either form. -/
theorem Zone.sameUpToMapping_setIp (zone : Zone) (domain : String) {addresses others : List Address}
    (same : others.map Address.canonical = addresses.map Address.canonical) :
    (zone.setIp domain addresses).SameUpToMapping (zone.setIp domain others) where
  txt _ := rfl
  mx _ := rfl
  ip name := by
    simp only [ip, setIp, answer, Table.get?_insert]
    cases zone.failures.get? (Text.lowercase name) with
    | some error => rfl
    | none =>
      by_cases key : Text.lowercase name = Text.lowercase domain
      · simp only [key, if_true]
        exact congrArg Except.ok same
      · simp only [key, if_false]

/-- Networks are made from canonical addresses. -/
theorem networksOf_map_canonical (addresses : List Address) (lengths : PrefixLengths) :
    networksOf (addresses.map Address.canonical) lengths = networksOf addresses lengths := by
  simp only [networksOf, List.mapM_map, Function.comp_def, Address.canonical_canonical]

namespace Inquiry

variable {α β : Type}

/-- A query may be answered by what its answer is turned into. -/
theorem map_ask (f : α → β) (kind : QueryKind) (domain : String) (answer : Except DnsError α) :
    f <$> ask kind domain answer = ask kind domain (answer.map f) := by
  funext path
  rw [map_apply]
  cases answer <;> rfl

/-- The next step only matters where the first has a value. -/
theorem bind_congr_done {first : Inquiry α} {next next' : α → Inquiry β}
    (after : ∀ path value, (first path).outcome = .done value → next value = next' value) :
    first >>= next = first >>= next' := by
  funext path
  refine bind_apply_congr rfl fun value middle queries ran => ?_
  rw [after path value (by rw [ran])]

theorem map_canonical_askIp (same : left.SameUpToMapping right) (domain : String) :
    List.map Address.canonical <$> askIp right domain =
      List.map Address.canonical <$> askIp left domain := by
  rw [askIp, askIp, map_ask, map_ask, same.ip]

theorem map_canonical_askHosts (same : left.SameUpToMapping right) (exchangers : List Exchanger) :
    List.map Address.canonical <$> askHosts right exchangers =
      List.map Address.canonical <$> askHosts left exchangers := by
  induction exchangers with
  | nil => rfl
  | cons exchanger rest ih =>
    have apart (zone : Zone) : List.map Address.canonical <$> askHosts zone (exchanger :: rest) = (do
        let first ← List.map Address.canonical <$> askIp zone exchanger.host
        let others ← List.map Address.canonical <$> askHosts zone rest
        return first ++ others) := by
      simp only [askHosts, map_bind, map_pure, List.map_append, bind_map_left]
    rw [apart, apart, ih, map_canonical_askIp same]

theorem map_canonical_hostAddresses (same : left.SameUpToMapping right) (domain : String)
    (kind : HostKind) :
    List.map Address.canonical <$> hostAddresses right domain kind =
      List.map Address.canonical <$> hostAddresses left domain kind := by
  cases kind with
  | a => exact map_canonical_askIp same domain
  | mx =>
    simp only [hostAddresses, askMx, same.mx, map_bind, map_canonical_askHosts same]

/-- Hosts give the same networks in both zones. -/
theorem hostNetworks_eq (same : left.SameUpToMapping right) (domain : String) (kind : HostKind)
    (lengths : PrefixLengths) :
    hostNetworks right domain kind lengths = hostNetworks left domain kind lengths := by
  have canonical (zone : Zone) : hostNetworks zone domain kind lengths = (do
      let addresses ← List.map Address.canonical <$> hostAddresses zone domain kind
      ofExcept (networksOf addresses lengths)) := by
    simp only [hostNetworks, bind_map_left, networksOf_map_canonical]
  rw [canonical, canonical, map_canonical_hostAddresses same]

end Inquiry

open Inquiry

theorem simulation_sameUpToMapping (same : left.SameUpToMapping right) (options : Options) :
    Simulation left right options options fun _ inquiry inquiry' => inquiry' = inquiry where
  value _ := rfl
  bind here after := by
    rw [here]
    exact (bind_congr_done fun path value done => (after path value done).symm).symm
  text name := by rw [policyText, policyText, askTxt, askTxt, same.txt]
  networks name kind lengths _ := hostNetworks_eq same name kind lengths
  unknown _ := rfl
  malformed _ := rfl
  inside _ _ _ within := by rw [within]

namespace Lookup

/-- Zones that are the same up to the form of addresses have the same policies. -/
theorem policyWithin_eq_of_sameUpToMapping (same : left.SameUpToMapping right) (options : Options)
    (room : Nat) (domain : String) :
    policyWithin right options room domain = policyWithin left options room domain :=
  (simulation_sameUpToMapping same options).policyWithin rfl room domain

theorem lookup_eq_of_sameUpToMapping (same : left.SameUpToMapping right)
    (ends : (lookup left options domain).outcome ≠ .unending) :
    lookup right options domain = lookup left options domain := by
  have found := congrFun (policyWithin_eq_of_sameUpToMapping same options
    (room options (inclusions left).length) domain) (.ofRoot domain)
  exact lookup_eq_of_policyWithin found ends

/-- A look-up comes to the same in both zones, also if that is no end. -/
theorem lookup_outcome_eq_of_sameUpToMapping (same : left.SameUpToMapping right) (options : Options)
    (domain : String) :
    (lookup right options domain).outcome = (lookup left options domain).outcome := by
  by_cases ends : (lookup left options domain).outcome = .unending
  · by_contra differs
    rw [ends] at differs
    rw [lookup_eq_of_sameUpToMapping same.symm differs] at ends
    exact differs ends
  · rw [lookup_eq_of_sameUpToMapping same ends]

end Lookup

end SenderPolicy

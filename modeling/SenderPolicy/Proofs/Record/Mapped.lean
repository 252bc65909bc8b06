import SenderPolicy.Proofs.Lookup.Mapped
import SenderPolicy.Proofs.Policy.FirstMatch
import SenderPolicy.Proofs.Policy.Literal

/-! # Mapped addresses from end to end

A mapped address is taken for the short address that it stands for wherever one comes in: in the answers of
name servers, in the literals of terms, and as the sender that is asked about.
-/

namespace SenderPolicy

variable {left right : Address}

/-- A block takes an address for its canonical form. -/
theorem Block.contains_congr (same : right.canonical = left.canonical) (block : Block) :
    block.contains right = block.contains left := by
  unfold contains
  rw [same]

theorem Mechanism.reaches_congr (same : right.canonical = left.canonical) (mechanism : Mechanism) :
    mechanism.reaches right = mechanism.reaches left := by
  cases mechanism with
  | host kind domain lengths networks => simp only [reaches, Block.contains_congr same]
  | ip network => exact network.contains_congr same
  | inclusion domain policy => rfl
  | all => rfl

/-- A directive leaves the same trail for all addresses of one canonical form. -/
theorem Directive.trail_congr (same : right.canonical = left.canonical) (directive : Directive) :
    directive.trail right = directive.trail left := by
  have covers (entry : Entry) : entry.covers right = entry.covers left :=
    entry.directive.mechanism.reaches_congr same
  simp only [directive.trail_eq_find?_entries, covers]

theorem Policy.matched?_congr (same : right.canonical = left.canonical) (policy : Policy) :
    policy.matched? right = policy.matched? left := by
  simp only [matched?, Directive.covers, Directive.trail_congr same]

theorem Policy.trail_congr (same : right.canonical = left.canonical) (policy : Policy) :
    policy.trail right = policy.trail left := by
  simp only [policy.trail_eq_matched?, Policy.matched?_congr same, Directive.trail_congr same]

theorem Record.answers_congr (same : right.canonical = left.canonical) (record : Record) :
    record.evaluate right = record.evaluate left ∧ record.matched? right = record.matched? left := by
  simp only [evaluate, matched?, Policy.trail_congr same, Policy.matched?_congr same, and_self]

/-- The block of a mapped address with a length beyond the first 96 bits is that of its short part. -/
theorem Block.ofAddress_embed (bits : BitVec 32) {length : Nat} (positive : 1 ≤ length)
    (le : length ≤ 32) :
    ofAddress (.v6 (Address.embed bits)) (length + 96) = .ok (ofShort bits length) := by
  have inRange : 1 ≤ length + 96 ∧ length + 96 ≤ Version.v6.width :=
    ⟨by omega, Nat.add_le_add_right le 96⟩
  have beyond : 96 < length + 96 := Nat.lt_add_of_pos_left positive
  refine ofAddress_eq_ok_iff.mpr ⟨inRange, ?_⟩
  simp only [around, ofLong, Address.mapped?_embed, if_pos beyond, Nat.add_sub_cancel]

theorem Block.ofAddress_short (bits : BitVec 32) {length : Nat} (positive : 1 ≤ length)
    (le : length ≤ 32) : ofAddress (.v4 bits) length = .ok (ofShort bits length) :=
  ofAddress_eq_ok_iff.mpr ⟨⟨positive, le⟩, rfl⟩

theorem Directive.ofLiteral_short (bits : BitVec 32) {length : Nat} (positive : 1 ≤ length)
    (le : length ≤ 32) :
    let term := "ip4:" ++ (Address.v4 bits).text ++ "/" ++ toString length
    ofLiteral term = .ok ⟨.pass, term, .ip (.ofShort bits length)⟩ := by
  have built := @ofLiteral_printing none _ _ _ (by simp) (Block.ofAddress_short bits positive le)
  rw [Term.Parts.text_printing] at built
  exact built

theorem Directive.ofLiteral_mapped (bits : BitVec 32) {length : Nat} (positive : 1 ≤ length)
    (le : length ≤ 32) :
    let term := "ip6:::ffff:" ++ (Address.v4 bits).text ++ "/" ++ toString (length + 96)
    ofLiteral term = .ok ⟨.pass, term, .ip (.ofShort bits length)⟩ := by
  have mapped : (Address.v6 (Address.embed bits)).text = "::ffff:" ++ (Address.v4 bits).text := by
    apply String.toList_inj.mp
    simp [Address.text, Address.longText, Address.mapped?_embed]
  have built := @ofLiteral_printing none _ _ _ (by simp) (Block.ofAddress_embed bits positive le)
  rw [Term.Parts.text_printing, mapped, ← String.append_assoc] at built
  exact built

/-- Whether an address is given as a short one or as the mapped one that stands for it makes no difference:
not to what a look-up comes to and asks, when it is an answer; not to what a record says about it, when it
is a sender; and not to the network of a literal whose length counts from the first bit of each form. -/
theorem mapped_transparent (options : Options) :
    (∀ left right : Zone, left.SameUpToMapping right → ∀ domain,
      (lookup right options domain).outcome = (lookup left options domain).outcome ∧
        ((lookup left options domain).outcome ≠ .unending →
          (lookup right options domain).queries = (lookup left options domain).queries)) ∧
    (∀ left right : Address, right.canonical = left.canonical → ∀ record : Record,
      record.evaluate right = record.evaluate left ∧ record.matched? right = record.matched? left) ∧
    ∀ (bits : BitVec 32) (length : Nat), 1 ≤ length → length ≤ 32 →
      let short := "ip4:" ++ (Address.v4 bits).text ++ "/" ++ toString length
      let long := "ip6:::ffff:" ++ (Address.v4 bits).text ++ "/" ++ toString (length + 96)
      ∃ network, Directive.ofLiteral short = .ok ⟨.pass, short, .ip network⟩ ∧
        Directive.ofLiteral long = .ok ⟨.pass, long, .ip network⟩ := by
  refine ⟨fun left right same domain => ⟨?_, fun ends => ?_⟩, fun left right same record => ?_, ?_⟩
  · exact Lookup.lookup_outcome_eq_of_sameUpToMapping same options domain
  · rw [Lookup.lookup_eq_of_sameUpToMapping same ends]
  · exact record.answers_congr same
  · intro bits length positive le
    exact ⟨_, Directive.ofLiteral_short bits positive le, Directive.ofLiteral_mapped bits positive le⟩

def hostedZone (addresses : List Address) : Zone :=
  ((({} : Zone).setTxt "a" ["v=spf1 mx/24 -all"]).setMx "a" [⟨10, "m"⟩]).setIp "m" addresses

/-- A mail host that is given by a mapped address lets the same senders through. -/
theorem mapped_transparent_hosted :
    let short : Address := .v4 0x0A010203#32
    let mapped : Address := .v6 (Address.embed 0x0A010203#32)
    let record := Record.ofPolicy
      ⟨"a", "v=spf1 mx/24 -all", [⟨.pass, "mx/24", .host .mx "a" ⟨24, 128⟩ [.v4 0x0A010200#32 24]⟩,
        ⟨.fail, "-all", .all⟩]⟩
    (hostedZone [short]).SameUpToMapping (hostedZone [mapped]) ∧
    (lookup (hostedZone [mapped]) {} "a").outcome.map Record.ofPolicy = .done record ∧
    (lookup (hostedZone [mapped]) {} "a").queries = [⟨.txt, "a"⟩, ⟨.mx, "a"⟩, ⟨.ip, "m"⟩] ∧
    record.evaluate mapped = .ok ["mx/24"] ∧
    ∃ network, Directive.ofLiteral "ip4:10.1.2.3/9" = .ok ⟨.pass, "ip4:10.1.2.3/9", .ip network⟩ ∧
      Directive.ofLiteral "ip6:::ffff:10.1.2.3/105" =
        .ok ⟨.pass, "ip6:::ffff:10.1.2.3/105", .ip network⟩ := by
  intro short mapped record
  have forms : mapped.canonical = short.canonical := Address.canonical_embed _
  have same : (hostedZone [short]).SameUpToMapping (hostedZone [mapped]) :=
    Zone.sameUpToMapping_setIp _ "m" (congrArg (· :: []) forms)
  have found : (lookup (hostedZone [short]) {} "a").outcome.map Record.ofPolicy = .done record := by
    decide +kernel
  obtain ⟨answers, senders, literals⟩ := mapped_transparent {}
  obtain ⟨outcome, queries⟩ := answers _ _ same "a"
  refine ⟨same, by rw [outcome, found], ?_, ?_, ?_⟩
  · rw [queries (by decide +kernel)]
    decide +kernel
  · rw [(senders short mapped forms record).1]
    decide +kernel
  · have law := literals 0x0A010203#32 9 (by decide) (by decide)
    have shortText : "ip4:" ++ (Address.v4 0x0A010203#32).text ++ "/" ++ toString 9 = "ip4:10.1.2.3/9" := by
      decide +kernel
    have longText : "ip6:::ffff:" ++ (Address.v4 0x0A010203#32).text ++ "/" ++ toString (9 + 96) =
        "ip6:::ffff:10.1.2.3/105" := by
      decide +kernel
    rw [shortText, longText] at law
    exact law

end SenderPolicy

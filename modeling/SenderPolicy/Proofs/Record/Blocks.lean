import SenderPolicy.Proofs.Block.Arithmetic
import SenderPolicy.Proofs.Policy.Hosts
import SenderPolicy.Proofs.Policy.Keywords
import SenderPolicy.Proofs.Record.Reachable

/-! # The blocks of directives

A directive gets its blocks when it is built: a literal states one, and hosts get one for each address, with
the length that the term gives to its version. So all blocks of a directive are sound, in a record that was
read, by itself, and at any depth inside of an include.
-/

namespace SenderPolicy

namespace Block

/-- What holds of a block that was made. -/
structure Sound (block : Block) : Prop where
  wellFormed : block.WellFormed
  /-- It is made again from its own network and length. -/
  remade : ofAddress block.network block.length = .ok block
  /-- No address makes it take away too much or shift too far. -/
  asked : ∀ candidate, block.contains? candidate = some (block.contains candidate)

variable {block : Block}

theorem WellFormed.sound (formed : block.WellFormed) : block.Sound :=
  ⟨formed, wellFormed_iff.mp formed, formed.contains?_eq⟩

theorem sound_of_ofAddress {address : Address} {length : Nat}
    (made : ofAddress address length = .ok block) : block.Sound :=
  (wellFormed_of_ofAddress made).sound

end Block

/-- The blocks that a mechanism keeps by itself; an include leaves them to its policy. -/
def Mechanism.blocks : Mechanism → List Block
  | .host _ _ _ networks => networks
  | .ip network => [network]
  | .inclusion _ _ => []
  | .all => []

/-- The length that is given to addresses of a version. -/
def PrefixLengths.forVersion (lengths : PrefixLengths) : Version → Nat
  | .v4 => lengths.v4
  | .v6 => lengths.v6

/-- The network around an address has the length of its version. -/
theorem PrefixLengths.length_network (lengths : PrefixLengths) (address : Address) :
    (lengths.network address).length = lengths.forVersion (lengths.network address).network.version := by
  unfold PrefixLengths.network
  cases address.canonical with
  | v4 bits => rfl
  | v6 bits => rfl

namespace Directive

variable {directive : Directive}

/-- The blocks of a directive are sound, and those of hosts have the lengths of their versions. -/
structure Ranged (directive : Directive) : Prop where
  sound : ∀ block ∈ directive.mechanism.blocks, block.Sound
  lengths : ∀ kind name lengths networks, directive.mechanism = .host kind name lengths networks →
    ∀ block ∈ networks, block.length = lengths.forVersion block.network.version

theorem IsBuilt.ranged (built : directive.IsBuilt) : directive.Ranged := by
  obtain ⟨zone, options, room, domain, path, term, queries, built⟩ := built
  cases built with
  | host found read name_eq answered made =>
    have fit := Term.fit_of_readHost read
    rw [networksOf_eq fit] at made
    cases made
    constructor
    · intro block member
      obtain ⟨address, -, rfl⟩ := List.mem_map.mp member
      exact Block.sound_of_ofAddress (fit.ofAddress_canonical address)
    · intro kind name lengths networks same
      cases same
      intro block member
      obtain ⟨address, -, rfl⟩ := List.mem_map.mp member
      exact PrefixLengths.length_network _ address
  | literal found read =>
    obtain ⟨_, _, _, _, _, _, network, -, -, -, -, -, made, rfl⟩ := Term.readLiteral_eq_ok_iff.mp read
    refine ⟨fun block member => ?_, nofun⟩
    rw [List.mem_singleton.mp member]
    exact Block.sound_of_ofAddress made
  | all found read => exact ⟨nofun, nofun⟩
  | inclusion read entered within => exact ⟨nofun, nofun⟩

/-- The directives that can be had: those of a record that was read, those that a constructor builds by
themselves, and those of the policy that one of them includes. -/
inductive Available : Directive → Prop where
  | read {record : Record} {policy : Policy} {directive : Directive} (reachable : record.Reachable)
      (read : record.policy? = some policy) (member : directive ∈ policy.directives) :
      Available directive
  | alone {zone : Zone} {options : Options} {room : Nat} {domain term : String} {keyword : Keyword}
      {directive : Directive}
      (done : (ofKeyword zone options (Lookup.policyWithin zone options room) domain term keyword
        .outside).outcome = .done directive) : Available directive
  | inside {qualifier : Qualifier} {text domain : String} {policy : Policy} {directive : Directive}
      (outer : Available ⟨qualifier, text, .inclusion domain policy⟩)
      (member : directive ∈ policy.directives) : Available directive

theorem Available.isBuilt (available : directive.Available) : directive.IsBuilt := by
  induction available with
  | read reachable read member => exact (reachable.isBuilt read).directive member
  | @alone zone options room domain term keyword directive done =>
    obtain ⟨-, queries, built⟩ :=
      built_of_ofKeyword (Lookup.balanced_policyWithin zone options room) done
    exact ⟨zone, options, room, domain, _, term, queries, built⟩
  | inside outer member ih => exact ih.inner.directive member

end Directive

namespace Block

/-- The blocks that are made keep within the range of their version. A block fails to be made exactly when the
length is not one that the written version has, and making it never takes away too much or shifts too far.
Whatever is made is sound: its length is one of its version, its network has no bits after it and is mapped
only with a length up to 96, it is made again from both, and every address can be asked for. The same goes for
the blocks of every directive that can be had, and those of hosts have the lengths that their term gives. -/
theorem sound_throughout :
    (∀ bits length, (∃ error, ofAddress (.v4 bits) length = .error error) ↔ length < 1 ∨ 32 < length) ∧
    (∀ bits length, (∃ error, ofAddress (.v6 bits) length = .error error) ↔ length < 1 ∨ 128 < length) ∧
    (∀ address length, ofAddress? address length = some (ofAddress address length)) ∧
    (∀ address length block, ofAddress address length = .ok block → block.Sound) ∧
    ∀ directive, Directive.Available directive →
      (∀ block ∈ directive.mechanism.blocks, block.Sound) ∧
      ∀ kind name lengths networks, directive.mechanism = .host kind name lengths networks →
        ∀ block ∈ networks, block.length = lengths.forVersion block.network.version := by
  refine ⟨fun bits length => ?_, fun bits length => ?_, ofAddress?_eq,
    fun _ _ _ => sound_of_ofAddress, fun directive available => ?_⟩
  · simp only [ofAddress_eq_error_iff, exists_and_left, exists_eq, and_true, Address.version, Version.width]
    omega
  · simp only [ofAddress_eq_error_iff, exists_and_left, exists_eq, and_true, Address.version, Version.width]
    omega
  · exact ⟨available.isBuilt.ranged.sound, available.isBuilt.ranged.lengths⟩

/-- A domain with hosts of both versions, which includes one with a literal that is mapped. -/
def rangedZone : Zone :=
  ((({} : Zone).setTxt "a" ["v=spf1 a/24/64 include:b"]).setTxt "b"
    ["v=spf1 ip6:::ffff:10.1.2.3/100"]).setIp "a"
      [.v4 0x0A010203#32, .v6 0x20010DB8000000000000000000000001#128, .v6 (Address.embed 0x0A090909#32)]

def rangedHosts : List Block :=
  [.v4 0x0A010200#32 24, .v6 0x20010DB8000000000000000000000000#128 64, .v4 0x0A090900#32 24]

def rangedPolicy : Policy :=
  ⟨"a", "v=spf1 a/24/64 include:b", [⟨.pass, "a/24/64", .host .a "a" ⟨24, 64⟩ rangedHosts⟩,
    ⟨.pass, "include:b", .inclusion "b" ⟨"b", "v=spf1 ip6:::ffff:10.1.2.3/100",
      [⟨.pass, "ip6:::ffff:10.1.2.3/100", .ip (.v4 0x00000000#32 4)⟩]⟩⟩]⟩

/-- Each host has the length of its canonical form, and the included literal is a sound block of short
addresses. With 95 bits the same network makes a sound block of long ones. -/
theorem sound_throughout_ranged :
    (lookup rangedZone {} "a").outcome = .done rangedPolicy ∧
    (∃ error, ofAddress (.v4 0x0A010203#32) 33 = .error error) ∧
    (Block.v6 0xFFFE00000000#128 95).Sound ∧
    (∀ block ∈ rangedHosts, block.Sound) ∧
    (∀ block ∈ rangedHosts, block.length = PrefixLengths.forVersion ⟨24, 64⟩ block.network.version) ∧
    (Block.v4 0x00000000#32 4).Sound := by
  have done : (lookup rangedZone {} "a").outcome = .done rangedPolicy := by decide +kernel
  have read : (Record.ofPolicy rangedPolicy).policy? = some rangedPolicy := rfl
  have reachable : Record.Reachable (.ofPolicy rangedPolicy) := .found done
  have hosts : Directive.Available ⟨.pass, "a/24/64", .host .a "a" ⟨24, 64⟩ rangedHosts⟩ :=
    .read reachable read List.mem_cons_self
  have literal : Directive.Available ⟨.pass, "ip6:::ffff:10.1.2.3/100", .ip (.v4 0x00000000#32 4)⟩ :=
    .inside (.read reachable read (List.mem_cons_of_mem _ List.mem_cons_self)) List.mem_cons_self
  have wide : ofAddress (.v6 (Address.embed 0x0A010203#32)) 95 = .ok (.v6 0xFFFE00000000#128 95) := rfl
  obtain ⟨refused, -, -, made, kept⟩ := sound_throughout
  obtain ⟨sound, lengths⟩ := kept _ hosts
  exact ⟨done, (refused _ 33).mpr (.inr (by decide)), made _ _ _ wide, sound, lengths _ _ _ _ rfl,
    (kept _ literal).1 _ List.mem_cons_self⟩

end Block

end SenderPolicy

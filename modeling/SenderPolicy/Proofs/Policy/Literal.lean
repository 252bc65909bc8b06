import SenderPolicy.Policy.Basic
import SenderPolicy.Proofs.Block.Invariant
import SenderPolicy.Proofs.Block.Membership
import SenderPolicy.Proofs.Policy.Built
import SenderPolicy.Proofs.Term.Literal

/-! # Literals, the addresses they are written with and the blocks they print

A term writes an address out, and is built into the block around it. The block holds the address itself,
unless that is a mapped one with no more bits than all mapped addresses share: such a block is kept as one
of long addresses, and a mapped sender counts as a short one. A term may print an address and a length, in
the text of the one and the decimal of the other. Since a block is made again from its own network and
length, a term that prints a block is built into this block.
-/

namespace SenderPolicy

/-- The address that a term writes out, and the length that it states for it. -/
def Term.written? (term : String) : Option (Address × Nat) :=
  match sections term with
  | [] => none
  | head :: lengths => do
      let (version, literal) ← literalHead? head
      let address ← Address.ofVersion? version literal
      return (address, statedLength version lengths[0]?)

namespace Directive

variable {term : String} {directive : Directive}

/-- A literal is built into the block of the address and the length that it writes. -/
theorem exists_written_of_ofLiteral (built : ofLiteral term = .ok directive) :
    ∃ address length, Term.written? term = some (address, length) ∧ 1 ≤ length ∧
      directive = ⟨Term.qualifier term, term, .ip (.around address length)⟩ := by
  obtain ⟨fields, read, rfl⟩ := ofLiteral_eq_ok_iff.mp built
  obtain ⟨head, lengths, version, literal, address, length, network, pieces, named, -, given, lengthRead,
    made, rfl⟩ := Term.readLiteral_eq_ok_iff.mp read
  obtain ⟨rfl, positive, -⟩ := Term.readLength_eq_ok_iff.mp lengthRead
  obtain ⟨-, rfl⟩ := Block.ofAddress_eq_ok_iff.mp made
  refine ⟨address, _, ?_, positive, rfl⟩
  rw [Term.written?, pieces]
  simp [named, given]

/-- A literal covers the address that it writes, whatever its qualifier and its length are, unless the address
is a mapped one and the length is 96 or less. Then it does not. -/
theorem covers_written_iff (built : ofLiteral term = .ok directive) :
    ∃ address length, Term.written? term = some (address, length) ∧
      (directive.trail address ≠ [] ↔ ∀ low, address = .v6 (Address.embed low) → 96 < length) := by
  obtain ⟨address, length, written, positive, rfl⟩ := exists_written_of_ofLiteral built
  refine ⟨address, length, written, ?_⟩
  rw [← Block.contains_around_self_iff positive, trail]
  simp

/-- With one bit more than all mapped addresses share, a mapped address is covered. -/
theorem covers_written_mapped :
    ∃ directive, ofLiteral "?IP6:::ffff:10.0.0.1/97" = .ok directive ∧
      directive.trail (.v6 (Address.embed 0x0A000001#32)) ≠ [] := by
  have built : ofLiteral "?IP6:::ffff:10.0.0.1/97" =
      .ok ⟨.neutral, "?IP6:::ffff:10.0.0.1/97", .ip (.v4 0x00000000#32 1)⟩ := by decide +kernel
  have stated : Term.written? "?IP6:::ffff:10.0.0.1/97" =
      some (.v6 (Address.embed 0x0A000001#32), 97) := by decide +kernel
  obtain ⟨address, length, written, covers⟩ := covers_written_iff built
  rw [stated] at written
  cases written
  exact ⟨_, built, covers.mpr fun _ _ => by decide⟩

/-- Not every literal covers the address that it writes. -/
theorem written_uncovered :
    ∃ directive, ofLiteral "ip6:::ffff:10.0.0.1/96" = .ok directive ∧
      Term.written? "ip6:::ffff:10.0.0.1/96" = some (.v6 (Address.embed 0x0A000001#32), 96) ∧
      directive.trail (.v6 (Address.embed 0x0A000001#32)) = [] := by
  refine ⟨⟨.pass, "ip6:::ffff:10.0.0.1/96", .ip (.v6 (Address.embed 0x00000000#32) 96)⟩, ?_, ?_, ?_⟩
  · decide +kernel
  · decide +kernel
  · decide +kernel

end Directive

namespace Term.Parts

/-- The parts of a term that prints an address and a length. -/
def printing (mark : Option Char) (address : Address) (length : Nat) : Parts :=
  ⟨mark, literalWord address.version, some address.text.toList, [length]⟩

theorem givesLiteral_printing {mark : Option Char} {address : Address} {length : Nat}
    (known : ∀ c ∈ mark, c ∈ ['+', '-', '~', '?']) (positive : 1 ≤ length)
    (le : length ≤ address.version.width) :
    (printing mark address length).GivesLiteral address.version address where
  mark := known
  word := by cases address <;> rfl
  target := ⟨_, rfl, address.ofVersion?_text⟩
  few := le_rfl
  range _ member := by
    rw [List.mem_singleton.mp member]
    exact ⟨positive, le⟩

theorem text_printing (mark : Option Char) (address : Address) (length : Nat) :
    (printing mark address length).text =
      String.ofList (mark.toList ++ literalWord address.version) ++ ":" ++ address.text ++ "/" ++
        toString length := by
  apply String.toList_inj.mp
  simp [printing, text, head, withTarget, tail]

end Term.Parts

namespace Directive

/-- A term whose parts give a literal is built into the block that they state. -/
theorem ofLiteral_text {parts : Term.Parts} {version : Version} {address : Address}
    (gives : parts.GivesLiteral version address) :
    ofLiteral parts.text =
      .ok ⟨parts.qualifier, parts.text, .ip (.around address (parts.statedLength version))⟩ :=
  ofLiteral_eq_ok_iff.mpr ⟨_, gives.readLiteral_text, rfl⟩

/-- A term that prints an address and a length is built into their block. -/
theorem ofLiteral_printing {mark : Option Char} {address : Address} {length : Nat} {block : Block}
    (known : ∀ c ∈ mark, c ∈ ['+', '-', '~', '?'])
    (made : Block.ofAddress address length = .ok block) :
    let term := (Term.Parts.printing mark address length).text
    ofLiteral term = .ok ⟨(mark.bind Qualifier.ofChar?).getD .pass, term, .ip block⟩ := by
  obtain ⟨⟨positive, le⟩, rfl⟩ := Block.ofAddress_eq_ok_iff.mp made
  exact ofLiteral_text (Term.Parts.givesLiteral_printing known positive le)

/-- A term that prints a block, behind a mark or not, is built into this block, and its qualifier is that of the
mark. -/
theorem ofLiteral_printed {mark : Option Char} (known : ∀ c ∈ mark, c ∈ ['+', '-', '~', '?'])
    {address : Address} {length : Nat} {block : Block}
    (made : Block.ofAddress address length = .ok block) :
    let word := String.ofList (mark.toList ++ Term.literalWord block.network.version)
    let term := word ++ ":" ++ block.text
    ofLiteral term = .ok ⟨(mark.bind Qualifier.ofChar?).getD .pass, term, .ip block⟩ := by
  intro word term
  have same : (Term.Parts.printing mark block.network block.length).text = term := by
    rw [Term.Parts.text_printing]
    simp only [term, word, Block.text, String.append_assoc]
  have built := ofLiteral_printing known (Block.ofAddress_network_length made)
  rw [same] at built
  exact built

/-- Of two runs of zeros the first is left out, and the last bit of the address is cleared. -/
theorem ofLiteral_printed_runs :
    let block : Block := .v6 0x20010DB8000000000001000000000002#128 127
    Block.ofAddress (.v6 0x20010DB8000000000001000000000003#128) 127 = .ok block ∧
      ofLiteral "~ip6:2001:db8::1:0:0:2/127" =
        .ok ⟨.softFail, "~ip6:2001:db8::1:0:0:2/127", .ip block⟩ := by
  intro block
  have made : Block.ofAddress (.v6 0x20010DB8000000000001000000000003#128) 127 = .ok block := by decide
  have printed : block.text = "2001:db8::1:0:0:2/127" := by decide +kernel
  have known : ∀ c ∈ some '~', c ∈ ['+', '-', '~', '?'] := fun _ given => by cases given; decide
  have built := @ofLiteral_printed (some '~') known _ _ _ made
  rw [printed] at built
  exact ⟨made, built⟩

end Directive

end SenderPolicy

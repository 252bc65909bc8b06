import SenderPolicy.Proofs.Lookup.Placement

/-! # No policy inside of itself

The check for loops compares names, and may overlook one that comes back. What keeps a policy from being
inside of itself is that the look-up has an end. Names with one key have one text, and policies with one
text include the same policies, wherever they are. If one of them were inside of the other, then what it
includes would be inside of itself, and the tree of policies would have no end.
-/

namespace SenderPolicy

namespace Policy

variable {policy inner outer : Policy}

theorem Includes.sizeOf_lt (includes : outer.Includes inner) : sizeOf inner < sizeOf outer := by
  obtain ⟨qualifier, text, domain, member⟩ := includes
  have among := List.sizeOf_lt_of_mem member
  obtain ⟨name, raw, directives⟩ := outer
  simp only [Directive.mk.sizeOf_spec, Mechanism.inclusion.sizeOf_spec] at among
  simp only [Policy.mk.sizeOf_spec]
  omega

/-- A policy is larger than every policy inside of it. -/
theorem sizeOf_lt_of_transGen (inside : Relation.TransGen Includes outer inner) :
    sizeOf inner < sizeOf outer := by
  induction inside with
  | single includes => exact includes.sizeOf_lt
  | tail _ includes ih => exact includes.sizeOf_lt.trans ih

theorem not_transGen_includes_self (policy : Policy) : ¬Relation.TransGen Includes policy policy :=
  fun inside => lt_irrefl _ (sizeOf_lt_of_transGen inside)

end Policy

/-- The text of a name hangs on its key alone. -/
theorem Zone.policyText?_congr (zone : Zone) {left right : String}
    (same : Text.lowercase left = Text.lowercase right) :
    zone.policyText? left = zone.policyText? right := by
  rw [policyText?, policyText?, txt, txt, same]

namespace Lookup

variable {zone : Zone} {options : Options} {domain : String} {policy inner other : Policy}

/-- Policies with one text include the same policies. -/
theorem Found.includes_of_raw_eq (found : Found zone options policy) (again : Found zone options other)
    (same : policy.raw = other.raw) (includes : policy.Includes inner) : other.Includes inner := by
  obtain ⟨qualifier, text, target, member⟩ := includes
  obtain ⟨stated, ⟨fields, read, rfl⟩, -, lookedUp⟩ := found.inclusion member
  rw [same] at stated
  obtain ⟨twin, included⟩ := again.exists_inclusion stated read
  have twinLookedUp := (again.inclusion included).2.2.2
  rw [lookedUp] at twinLookedUp
  cases twinLookedUp
  exact ⟨_, _, _, included⟩

/-- A policy inside of another has a key of its own. -/
theorem Found.key_ne (found : Found zone options policy)
    (inside : Relation.TransGen Policy.Includes policy inner) :
    Text.lowercase policy.domain ≠ Text.lowercase inner.domain := by
  intro same
  have again := found.of_reflTransGen inside.to_reflTransGen
  have raw_eq : policy.raw = inner.raw := by
    have text := found.text
    rw [zone.policyText?_congr same, again.text] at text
    exact (Option.some.inj text).symm
  obtain ⟨next, includes, reaches⟩ := Relation.TransGen.head'_iff.mp inside
  have back := found.includes_of_raw_eq again raw_eq includes
  exact next.not_transGen_includes_self (.tail' reaches back)

/-- Along every way into the policy of a look-up, the keys of the names differ, and so do the names. -/
theorem nodup_of_isChain_includes (done : (lookup zone options domain).outcome = .done policy)
    {inside : List Policy} (chain : List.IsChain Policy.Includes (policy :: inside)) :
    ((policy :: inside).map fun each => Text.lowercase each.domain).Nodup ∧
      ((policy :: inside).map fun each => each.domain).Nodup := by
  have ways : (policy :: inside).Pairwise (Relation.TransGen Policy.Includes) :=
    List.isChain_iff_pairwise.mp (chain.imp fun _ _ => .single)
  have foundAll : ∀ each ∈ policy :: inside, Found zone options each := by
    intro each member
    apply (found_of_lookup done).of_reflTransGen
    rcases List.mem_cons.mp member with rfl | member
    · exact .refl
    · exact (List.rel_of_pairwise_cons ways member).to_reflTransGen
  have keys : (policy :: inside).Pairwise fun left right =>
      Text.lowercase left.domain ≠ Text.lowercase right.domain :=
    ways.imp_of_mem fun member _ way => (foundAll _ member).key_ne way
  constructor
  · exact List.pairwise_map.mpr keys
  · exact List.pairwise_map.mpr (keys.imp fun differ same => differ (congrArg _ same))

theorem nodup_of_isChain_includes_shortcut :
    (lookup shortcutZone ⟨false, some 2⟩ "A").outcome = .done shortcutPolicy ∧
    List.IsChain Policy.Includes [shortcutPolicy, middlePolicy, lastPolicy] ∧
    ([shortcutPolicy, middlePolicy, lastPolicy].map fun each => Text.lowercase each.domain).Nodup := by
  have longer : shortcutPolicy.Includes middlePolicy := ⟨_, _, _, List.mem_cons_self⟩
  have last : middlePolicy.Includes lastPolicy :=
    ⟨_, _, _, List.mem_cons_of_mem _ List.mem_cons_self⟩
  have chain : List.IsChain Policy.Includes [shortcutPolicy, middlePolicy, lastPolicy] :=
    .cons_cons longer (.cons_cons last (.singleton _))
  exact ⟨lookup_shortcut, chain, (nodup_of_isChain_includes lookup_shortcut chain).1⟩

end Lookup

end SenderPolicy

import Mathlib.Data.ENat.Basic
import Mathlib.Data.Finset.Card
import SenderPolicy.IncludePath

/-! # What the path holds

The path decides about an include by the normal forms of its names and by its depth, and by nothing
else. A name that is on the path is looked for before the limit, whatever the limit is. So what one path
lets in is let in by every path that holds no other names and has as many includes left.
-/

namespace SenderPolicy.IncludePath

variable {path inner : IncludePath} {limit? : Option Nat} {domain : String}

theorem holds_iff : path.holds domain = true ↔
    ∃ name ∈ path.names, DomainName.normalize name = DomainName.normalize domain := by
  simp only [holds, List.any_eq_true, DomainName.same_iff]

theorem holds_extend (path : IncludePath) (domain other : String) :
    (path.extend domain).holds other =
      (DomainName.same (DomainName.normalize domain) other || path.holds other) := rfl

/-- A path holds what it held before it was extended. -/
theorem holds_extend_of_holds {other : String} (held : path.holds other = true) :
    (path.extend domain).holds other = true := by
  rw [holds_extend, held, Bool.or_true]

/-- A domain whose normal form has settled is held once it is entered. -/
theorem holds_extend_self (path : IncludePath)
    (settled : DomainName.normalize (DomainName.normalize domain) = DomainName.normalize domain) :
    (path.extend domain).holds domain = true := by
  rw [holds_extend, DomainName.same_iff.mpr settled, Bool.true_or]

theorem holds_normalize (path : IncludePath)
    (settled : DomainName.normalize (DomainName.normalize domain) = DomainName.normalize domain) :
    path.holds (DomainName.normalize domain) = path.holds domain := by
  unfold holds DomainName.same
  rw [settled]

/-- The domains among these that the path does not hold. -/
def free (path : IncludePath) (domains : Finset String) : Finset String :=
  domains.filter fun domain => path.holds domain = false

theorem card_free_le (path : IncludePath) (domains : Finset String) :
    (path.free domains).card ≤ domains.card :=
  Finset.card_filter_le _ _

theorem free_extend_subset (path : IncludePath) (domain : String) (domains : Finset String) :
    (path.extend domain).free domains ⊆ path.free domains := by
  intro name member
  obtain ⟨known, free⟩ := Finset.mem_filter.mp member
  refine Finset.mem_filter.mpr ⟨known, Bool.eq_false_iff.mpr fun held => ?_⟩
  rw [holds_extend_of_holds held] at free
  contradiction

/-- A path that comes to hold one of these domains leaves fewer of them. -/
theorem card_free_extend_lt {domains : Finset String} {name : String} (known : name ∈ domains)
    (unheld : path.holds name = false) (held : (path.extend domain).holds name = true) :
    ((path.extend domain).free domains).card < (path.free domains).card := by
  apply Finset.card_lt_card
  refine (free_extend_subset path domain domains).ssubset_of_mem_notMem
    (Finset.mem_filter.mpr ⟨known, unheld⟩) fun member => ?_
  rw [(Finset.mem_filter.mp member).2] at held
  contradiction

/-- A domain is refused as a loop, or for the depth that a limit sets. -/
theorem error_of_enter {error : PolicyError} (refused : path.enter limit? domain = .error error) :
    error = .inclusionLoop domain ∨
      ∃ limit, limit? = some limit ∧ error = .inclusionTooDeep domain limit := by
  unfold enter at refused
  split at refused
  · cases refused
    exact .inl rfl
  · split at refused
    · cases refused
    · next limit =>
      split at refused <;> cases refused
      exact .inr ⟨limit, rfl, rfl⟩

/-- A domain is refused as a loop when the path holds it, under any limit. -/
theorem enter_eq_loop_iff :
    path.enter limit? domain = .error (.inclusionLoop domain) ↔ path.holds domain = true := by
  unfold enter
  constructor
  · intro refused
    split at refused
    · assumption
    · split at refused
      · cases refused
      · split at refused <;> cases refused
  · intro held
    rw [if_pos held]

/-- Without a limit only loops are refused. -/
theorem enter_none_eq_error_iff {error : PolicyError} :
    path.enter none domain = .error error ↔
      path.holds domain = true ∧ error = .inclusionLoop domain := by
  unfold enter
  split
  · next held => simp [held, eq_comm]
  · next free => simp [free]

theorem enter_none_eq_ok_iff :
    path.enter none domain = .ok inner ↔ path.holds domain = false ∧ inner = path.extend domain := by
  rw [enter_eq_ok_iff]
  simp

/-- A domain that is not held is refused for the depth when the limit is used up. -/
theorem enter_eq_tooDeep_iff {limit : Nat} :
    path.enter (some limit) domain = .error (.inclusionTooDeep domain limit) ↔
      path.holds domain = false ∧ limit ≤ path.depth := by
  unfold enter
  split
  · next held => simp [held]
  · next free => simp [free, exhausted]

/-- A domain that is not held is let in until the limit is used up. -/
theorem enter_some_eq_ok_iff {limit : Nat} :
    path.enter (some limit) domain = .ok inner ↔
      path.holds domain = false ∧ path.depth < limit ∧ inner = path.extend domain := by
  rw [enter_eq_ok_iff]
  simp [exhausted]

/-- Under a limit the depth stays within it. -/
theorem depth_le_of_enter {limit : Nat} (entered : path.enter (some limit) domain = .ok inner) :
    inner.depth ≤ limit := by
  obtain ⟨_, unspent, rfl⟩ := enter_eq_ok_iff.mp entered
  have room := unspent limit rfl
  simp only [exhausted, decide_eq_false_iff_not] at room
  simp only [extend]
  omega

/-- How many more includes may be entered inside each other; without a limit, any number. -/
def budget (path : IncludePath) : Option Nat → ℕ∞
  | none => ⊤
  | some limit => (limit - path.depth : Nat)

theorem budget_pos_iff :
    0 < path.budget limit? ↔ ∀ limit, limit? = some limit → path.exhausted limit = false := by
  cases limit? with
  | none => simp [budget]
  | some limit => simp [budget, exhausted]

/-- Each include that is entered costs one. -/
theorem budget_extend (path : IncludePath) (limit? : Option Nat) (domain : String) :
    (path.extend domain).budget limit? = path.budget limit? - 1 := by
  cases limit? with
  | none => rfl
  | some limit =>
    change ((limit - (path.depth + 1) : Nat) : ℕ∞) = _
    rw [Nat.sub_add_eq]
    exact ENat.natCast_sub _ 1

/-- One path, under its limit, holds no other names than a second one and has as many includes left. -/
structure Freer (freer : IncludePath) (freerLimit? : Option Nat) (path : IncludePath)
    (limit? : Option Nat) : Prop where
  names : freer.names ⊆ path.names
  budget : path.budget limit? ≤ freer.budget freerLimit?

variable {freer : IncludePath} {freerLimit? : Option Nat}

theorem Freer.extend (free : freer.Freer freerLimit? path limit?) (domain : String) :
    (freer.extend domain).Freer freerLimit? (path.extend domain) limit? where
  names := List.cons_subset_cons _ free.names
  budget := by
    rw [budget_extend, budget_extend]
    exact tsub_le_tsub_right free.budget 1

/-- What a path lets in is let in by every freer one, which stays freer inside. -/
theorem Freer.enter (free : freer.Freer freerLimit? path limit?)
    (entered : path.enter limit? domain = .ok inner) :
    ∃ freerInner, freer.enter freerLimit? domain = .ok freerInner ∧
      freerInner.Freer freerLimit? inner limit? := by
  obtain ⟨unheld, unspent, rfl⟩ := enter_eq_ok_iff.mp entered
  refine ⟨freer.extend domain, enter_eq_ok_iff.mpr ⟨?_, ?_, rfl⟩, free.extend domain⟩
  · apply Bool.eq_false_iff.mpr
    intro held
    obtain ⟨name, member, same⟩ := holds_iff.mp held
    rw [holds_iff.mpr ⟨name, free.names member, same⟩] at unheld
    contradiction
  · rw [← budget_pos_iff] at unspent ⊢
    exact unspent.trans_le free.budget

/-- The path of a look-up that starts with a domain is freer than any path inside an include of it. -/
theorem freer_ofRoot (entered : path.enter limit? domain = .ok inner) :
    (ofRoot domain).Freer limit? inner limit? := by
  obtain ⟨-, -, rfl⟩ := enter_eq_ok_iff.mp entered
  constructor
  · intro name member
    rw [List.mem_singleton.mp member]
    exact List.mem_cons_self
  · cases limit? with
    | none => exact le_rfl
    | some limit => exact Nat.cast_le.mpr (Nat.sub_le_sub_left (Nat.zero_le _) limit)

/-- Two paths that cannot be told apart: they hold the same domains and are equally deep. -/
structure Alike (left right : IncludePath) : Prop where
  holds : ∀ domain, right.holds domain = left.holds domain
  depth : right.depth = left.depth

variable {left right : IncludePath}

theorem Alike.extend (alike : left.Alike right) (domain : String) :
    (left.extend domain).Alike (right.extend domain) where
  holds other := by rw [holds_extend, holds_extend, alike.holds]
  depth := congrArg (· + 1) alike.depth

/-- Paths that cannot be told apart refuse the same domains, for the same reason. -/
theorem Alike.enter (alike : left.Alike right) (limit? : Option Nat) (domain : String) :
    right.enter limit? domain = (left.enter limit? domain).map fun _ => right.extend domain := by
  have same (limit : Nat) : right.exhausted limit = left.exhausted limit := by
    rw [exhausted, exhausted, alike.depth]
  unfold IncludePath.enter
  rw [alike.holds]
  cases left.holds domain with
  | true => rfl
  | false =>
    cases limit? with
    | none => rfl
    | some limit =>
      dsimp only
      rw [same]
      cases left.exhausted limit <;> rfl

/-- A domain with at most two dots at its end and its normal form start paths that cannot be told apart. -/
theorem alike_ofRoot (few : DomainName.trailingDots domain ≤ 2) :
    (ofRoot domain).Alike (ofRoot (DomainName.normalize domain)) where
  holds other := by
    have dots : DomainName.trailingDots (DomainName.normalize domain) ≤ 1 := by
      rw [DomainName.trailingDots_normalize]
      omega
    have settled := DomainName.normalize_normalize dots
    simp only [IncludePath.holds, ofRoot, List.any_cons, DomainName.same, settled]
  depth := rfl

end SenderPolicy.IncludePath

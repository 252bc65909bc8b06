import SenderPolicy.DomainName
import SenderPolicy.Error

/-! # The path of includes being read

While a policy is read, the path holds the domains from the first policy down to the one whose terms
are being read. A domain that is on the path already may not be entered again, and a limit may bound
how many includes are nested. Loops are looked for before the limit is judged.
-/

namespace SenderPolicy

/-- The names being read, the innermost first, and how many of them were entered by an include. -/
structure IncludePath where
  names : List String
  depth : Nat
deriving DecidableEq, Repr

namespace IncludePath

/-- The path outside of every policy. -/
def outside : IncludePath := ⟨[], 0⟩

/-- The path of a policy that no other includes. -/
def ofRoot (domain : String) : IncludePath := ⟨[DomainName.normalize domain], 0⟩

/-- Whether a domain is being read. -/
def holds (path : IncludePath) (domain : String) : Bool :=
  path.names.any fun name => DomainName.same name domain

/-- Whether includes are nested as deep as the limit allows. -/
def exhausted (path : IncludePath) (limit : Nat) : Bool := decide (limit ≤ path.depth)

/-- The path inside an include of a domain. -/
def extend (path : IncludePath) (domain : String) : IncludePath :=
  ⟨DomainName.normalize domain :: path.names, path.depth + 1⟩

def enter (path : IncludePath) (limit? : Option Nat) (domain : String) :
    Except PolicyError IncludePath :=
  if path.holds domain then .error (.inclusionLoop domain)
  else
    match limit? with
    | none => .ok (path.extend domain)
    | some limit =>
        if path.exhausted limit then .error (.inclusionTooDeep domain limit)
        else .ok (path.extend domain)

def leave (path : IncludePath) : IncludePath := ⟨path.names.tail, path.depth - 1⟩

@[simp] theorem leave_extend (path : IncludePath) (domain : String) :
    (path.extend domain).leave = path := rfl

theorem enter_eq_ok_iff {path inner : IncludePath} {limit? : Option Nat} {domain : String} :
    path.enter limit? domain = .ok inner ↔
      path.holds domain = false ∧ (∀ limit, limit? = some limit → path.exhausted limit = false) ∧
        inner = path.extend domain := by
  unfold enter
  constructor
  · intro entered
    split at entered
    · contradiction
    · next free =>
      refine ⟨Bool.eq_false_iff.mpr free, ?_⟩
      split at entered
      · cases entered
        exact ⟨fun limit given => by contradiction, rfl⟩
      · next limit =>
        split at entered
        · contradiction
        · next unspent =>
          cases entered
          refine ⟨fun other given => ?_, rfl⟩
          cases given
          exact Bool.eq_false_iff.mpr unspent
  · rintro ⟨free, unspent, rfl⟩
    rw [if_neg (by simp [free])]
    cases limit? with
    | none => rfl
    | some limit => simp [unspent limit rfl]

/-- Whoever enters an include finds the path as it was after leaving it. -/
theorem leave_of_enter {path inner : IncludePath} {limit? : Option Nat} {domain : String}
    (entered : path.enter limit? domain = .ok inner) : inner.leave = path := by
  obtain ⟨_, _, rfl⟩ := enter_eq_ok_iff.mp entered
  exact leave_extend path domain

end IncludePath

end SenderPolicy

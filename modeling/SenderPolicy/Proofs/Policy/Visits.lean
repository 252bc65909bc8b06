import Mathlib.Order.MinMax
import SenderPolicy.Proofs.Lookup.Trace

/-! # The walk through a policy

A look-up goes through the tree of a policy depth first, in the order of the texts. On its way it asks
queries, and it reaches includes. How deep an include stands is the number of includes around it, and the
height of a policy is the number of includes on the longest way down.
-/

namespace SenderPolicy

/-- What a look-up comes to on its way. -/
inductive Visit where
  | question (query : Query)
  /-- An include of a domain, inside of so many others. -/
  | inclusion (depth : Nat) (domain : String)
deriving DecidableEq, Repr

def Visit.query? : Visit → Option Query
  | .question query => some query
  | .inclusion .. => none

def asked (visits : List Visit) : List Query := visits.filterMap Visit.query?

@[simp] theorem asked_map_question (queries : List Query) : asked (queries.map .question) = queries := by
  induction queries with
  | nil => rfl
  | cons query rest ih =>
    change query :: asked (rest.map .question) = query :: rest
    rw [ih]

mutual

def Directive.visits (zone : Zone) (depth : Nat) : Directive → List Visit
  | ⟨_, _, mechanism⟩ =>
      match mechanism with
      | .host kind domain _ _ => (zone.hostQueries domain kind).map .question
      | .ip _ => []
      | .inclusion domain policy => .inclusion depth domain :: policy.visits zone (depth + 1)
      | .all => []

/-- The visits of a policy: the query for its texts, and then its directives. -/
def Policy.visits (zone : Zone) (depth : Nat) : Policy → List Visit
  | ⟨domain, _, directives⟩ => .question (.about .txt domain) :: visitsOf zone depth directives

def visitsOf (zone : Zone) (depth : Nat) : List Directive → List Visit
  | [] => []
  | directive :: rest => directive.visits zone depth ++ visitsOf zone depth rest

end

mutual

def Directive.height : Directive → Nat
  | ⟨_, _, mechanism⟩ =>
      match mechanism with
      | .host .. => 0
      | .ip _ => 0
      | .inclusion _ policy => policy.height + 1
      | .all => 0

/-- How many includes are inside each other in a policy, at most. -/
def Policy.height : Policy → Nat
  | ⟨_, _, directives⟩ => heightOf directives

def heightOf : List Directive → Nat
  | [] => 0
  | directive :: rest => max directive.height (heightOf rest)

end

theorem visitsOf_append (zone : Zone) (depth : Nat) (left right : List Directive) :
    visitsOf zone depth (left ++ right) = visitsOf zone depth left ++ visitsOf zone depth right := by
  induction left with
  | nil => rfl
  | cons directive rest ih => rw [List.cons_append, visitsOf, visitsOf, ih, List.append_assoc]

theorem visitsOf_singleton (zone : Zone) (depth : Nat) (directive : Directive) :
    visitsOf zone depth [directive] = directive.visits zone depth :=
  List.append_nil _

/-- An include is reached so many includes further down. -/
def Reaches (visits : List Visit) (depth : Nat) : Prop := ∃ domain, .inclusion depth domain ∈ visits

theorem reaches_append {left right : List Visit} {depth : Nat} :
    Reaches (left ++ right) depth ↔ Reaches left depth ∨ Reaches right depth := by
  simp only [Reaches, List.mem_append, exists_or]

theorem not_reaches_map_question (queries : List Query) (depth : Nat) :
    ¬Reaches (queries.map .question) depth := by
  simp [Reaches]

/-- What is reached at a depth is reached there for a first time. -/
theorem exists_first_reached {visits : List Visit} {depth : Nat} (reaches : Reaches visits depth) :
    ∃ before domain after, visits = before ++ .inclusion depth domain :: after ∧
      ¬Reaches before depth := by
  induction visits with
  | nil => obtain ⟨_, member⟩ := reaches; cases member
  | cons first rest ih =>
    by_cases here : Reaches [first] depth
    · obtain ⟨domain, member⟩ := here
      obtain rfl := List.mem_singleton.mp member
      exact ⟨[], domain, rest, rfl, nofun⟩
    · have later : Reaches ([first] ++ rest) depth → Reaches rest depth :=
        fun reaches => (reaches_append.mp reaches).resolve_left here
      obtain ⟨before, domain, after, rfl, shallow⟩ := ih (later reaches)
      have shallower : ¬Reaches ([first] ++ before) depth :=
        fun reaches => (reaches_append.mp reaches).elim here shallow
      exact ⟨first :: before, domain, after, rfl, shallower⟩

mutual

/-- Includes are reached at every depth below the height, and at none from there on. -/
theorem Directive.reaches_visits_iff (zone : Zone) (depth further : Nat) :
    (directive : Directive) →
      (Reaches (directive.visits zone depth) (depth + further) ↔ further < directive.height)
  | ⟨_, _, .host ..⟩ => iff_of_false (not_reaches_map_question _ _) (Nat.not_lt_zero _)
  | ⟨_, _, .ip _⟩ => iff_of_false nofun (Nat.not_lt_zero _)
  | ⟨_, _, .all⟩ => iff_of_false nofun (Nat.not_lt_zero _)
  | ⟨_, _, .inclusion domain policy⟩ => by
      cases further with
      | zero => exact iff_of_true ⟨domain, List.mem_cons_self⟩ (Nat.succ_pos _)
      | succ further =>
        have below := policy.reaches_visits_iff zone (depth + 1) further
        rw [Nat.add_right_comm] at below
        rw [Directive.height, Nat.add_lt_add_iff_right, ← below]
        simp [Reaches, Directive.visits, Nat.add_assoc]

theorem Policy.reaches_visits_iff (zone : Zone) (depth further : Nat) :
    (policy : Policy) →
      (Reaches (policy.visits zone depth) (depth + further) ↔ further < policy.height)
  | ⟨_, _, directives⟩ => by
      have within := reaches_visitsOf_iff zone depth further directives
      rw [Policy.height, ← within]
      simp [Reaches, Policy.visits]

theorem reaches_visitsOf_iff (zone : Zone) (depth further : Nat) :
    (directives : List Directive) →
      (Reaches (visitsOf zone depth directives) (depth + further) ↔ further < heightOf directives)
  | [] => iff_of_false nofun (Nat.not_lt_zero _)
  | directive :: rest => by
      rw [visitsOf, heightOf, reaches_append, lt_max_iff, directive.reaches_visits_iff,
        reaches_visitsOf_iff zone depth further rest]

end

end SenderPolicy

import SenderPolicy.Proofs.IncludePath
import SenderPolicy.Proofs.Lookup.Step

/-! # Room for a look-up

The room that `lookup` is given suffices: if a look-up ends in any room, then it ends in that one, in
the same way. So a report without an end stands for includes that nest for ever.

Under a limit the depth bounds the nesting. Without one, a policy goes on as its domain and the held
domains say, so the least room for it is a function of the two. The least room falls by one with each
include that is entered, hence a domain cannot come back while the same domains are held, and the held
domains only grow.
-/

namespace SenderPolicy.Lookup

variable {zone : Zone} {options : Options} {domain : String} {path : IncludePath}

/-- Under a limit a look-up ends once its room passes the includes that are left. -/
theorem policyWithin_ends_of_limit {limit room : Nat} (limited : options.maxIncludeDepth = some limit)
    (positive : 0 < room) (bound : limit < path.depth + room) :
    (policyWithin zone options room domain path).outcome ≠ .unending := by
  induction room generalizing domain path with
  | zero => omega
  | succ room ih =>
    intro unending
    obtain ⟨raw, before, term, after, fields, inner, -, -, -, -, entered, nested⟩ :=
      policyWithin_unending_cases unending
    rw [limited] at entered
    have deep := IncludePath.depth_le_of_enter entered
    have deeper : inner.depth = path.depth + 1 := by
      obtain ⟨_, _, rfl⟩ := IncludePath.enter_eq_ok_iff.mp entered
      rfl
    exact ih (by omega) (by omega) nested

/-- The domains that a look-up can enter: those that a text of the zone includes. -/
def inclusionDomains (zone : Zone) : Finset String :=
  ((inclusions zone).map DomainName.normalize).toFinset

theorem card_inclusionDomains_le (zone : Zone) :
    (inclusionDomains zone).card ≤ (inclusions zone).length := by
  simpa [inclusionDomains] using List.toFinset_card_le ((inclusions zone).map DomainName.normalize)

theorem mem_inclusionDomains {target : String} (included : target ∈ inclusions zone) :
    DomainName.normalize target ∈ inclusionDomains zone :=
  List.mem_toFinset.mpr (List.mem_map_of_mem included)

/-- Two paths hold the same of the domains that can be entered. -/
def Agree (zone : Zone) (left right : IncludePath) : Prop :=
  ∀ name ∈ inclusionDomains zone, left.holds name = right.holds name

theorem Agree.extend {left right : IncludePath} (agree : Agree zone left right) (domain : String) :
    Agree zone (left.extend domain) (right.extend domain) := by
  intro name member
  rw [IncludePath.holds_extend, IncludePath.holds_extend, agree name member]

/-- Without a limit, a term stops for the same cause on two paths if both hold the domain that it
includes, or neither does and the policy inside stops for the same cause. -/
theorem ofTerm?_cause?_congr (unlimited : options.maxIncludeDepth = none)
    {nested : String → Inquiry Policy} {term : String} {other : IncludePath}
    (alike : ∀ fields, Term.readInclusion term = .ok fields →
      path.holds (DomainName.normalize fields.target) =
          other.holds (DomainName.normalize fields.target) ∧
        (nested (DomainName.normalize fields.target)
            (path.extend (DomainName.normalize fields.target))).outcome.cause? =
          (nested (DomainName.normalize fields.target)
            (other.extend (DomainName.normalize fields.target))).outcome.cause?) :
    (Directive.ofTerm? zone options nested domain term path).outcome.cause? =
      (Directive.ofTerm? zone options nested domain term other).outcome.cause? := by
  cases read : Term.readInclusion term with
  | error fault =>
    obtain ⟨inquiry, ⟨outcome, queries, _, runs⟩, same⟩ :=
      Directive.ofTerm?_of_readInclusion_error zone options domain read
    rw [same options nested rfl, runs, runs]
  | ok fields =>
    obtain ⟨held, within⟩ := alike fields read
    cases entered : path.enter none (DomainName.normalize fields.target) with
    | error error =>
      obtain ⟨holds, rfl⟩ := IncludePath.enter_none_eq_error_iff.mp entered
      have refused := IncludePath.enter_none_eq_error_iff.mpr ⟨held ▸ holds, rfl⟩
      rw [← unlimited] at entered refused
      rw [Directive.ofTerm?_cause?_of_refused read entered,
        Directive.ofTerm?_cause?_of_refused read refused]
    | ok inner =>
      obtain ⟨free, rfl⟩ := IncludePath.enter_none_eq_ok_iff.mp entered
      have otherEntered := IncludePath.enter_none_eq_ok_iff.mpr ⟨held ▸ free, rfl⟩
      rw [← unlimited] at entered otherEntered
      rw [Directive.ofTerm?_cause?_of_entered read entered,
        Directive.ofTerm?_cause?_of_entered read otherEntered]
      exact within

/-- Without a limit, paths that hold the same domains make a policy stop for the same cause. -/
theorem policyWithin_cause?_congr (unlimited : options.maxIncludeDepth = none) {room : Nat}
    {other : IncludePath} (agree : Agree zone path other) :
    (policyWithin zone options room domain path).outcome.cause? =
      (policyWithin zone options room domain other).outcome.cause? := by
  induction room generalizing domain path other with
  | zero => rfl
  | succ room ih =>
    cases found : zone.policyText? (DomainName.normalize domain) with
    | none =>
      obtain ⟨error, stopped⟩ := policyWithin_cause?_of_no_text zone options found
      rw [stopped, stopped]
    | some raw =>
      rw [policyWithin_cause?_of_text found, policyWithin_cause?_of_text found]
      rw [← List.head?_filterMap, ← List.head?_filterMap]
      apply congrArg
      apply List.filterMap_congr
      intro term member
      apply ofTerm?_cause?_congr unlimited
      intro fields read
      have known := mem_inclusionDomains (Zone.target_mem_inclusions found member read)
      exact ⟨agree _ known, ih (agree.extend _)⟩

/-- So much room is too little for a policy, and one more is enough. -/
def LacksOne (zone : Zone) (options : Options) (room : Nat) (domain : String) (path : IncludePath) :
    Prop :=
  (policyWithin zone options room domain path).outcome = .unending ∧
    (policyWithin zone options (room + 1) domain path).outcome ≠ .unending

/-- A policy that lacks room has an include inside that lacks as much, with one room less. -/
theorem LacksOne.inner (unlimited : options.maxIncludeDepth = none) {room : Nat}
    (lacks : LacksOne zone options (room + 1) domain path) :
    ∃ target ∈ inclusionDomains zone, LacksOne zone options room target (path.extend target) := by
  obtain ⟨unending, ends⟩ := lacks
  obtain ⟨raw, before, term, after, fields, inner, found, terms, built, read, entered, nested⟩ :=
    policyWithin_unending_cases unending
  have member : term ∈ PolicyText.terms raw := by rw [terms]; simp
  refine ⟨_, mem_inclusionDomains (Zone.target_mem_inclusions found member read), ?_⟩
  rw [unlimited] at entered
  obtain ⟨_, rfl⟩ := IncludePath.enter_none_eq_ok_iff.mp entered
  refine ⟨nested, fun still => ends ?_⟩
  rw [← unlimited] at entered
  rw [← Outcome.cause?_eq_endless_iff, policyWithin_cause?_of_text found, List.findSome?_eq_some_iff]
  refine ⟨before, term, after, terms, ?_, fun earlier member => ?_⟩
  · rw [Directive.ofTerm?_cause?_of_entered read entered, Outcome.cause?_eq_endless_iff]
    exact still
  · have done := built earlier member
    have extension := Directive.extends_ofTerm? zone options (DomainName.normalize domain) earlier
      (extends_policyWithin_succ zone options room)
    rw [extension path ?_]
    · exact done
    · intro unending
      rw [unending] at done
      cases done

/-- Paths between which nothing is newly held agree. -/
theorem agree_of_free_eq (same : (path.extend domain).free (inclusionDomains zone) =
    path.free (inclusionDomains zone)) :
    Agree zone path (path.extend domain) := by
  intro name known
  cases held : path.holds name with
  | true => rw [IncludePath.holds_extend_of_holds held]
  | false =>
    have member : name ∈ path.free (inclusionDomains zone) := Finset.mem_filter.mpr ⟨known, held⟩
    rw [← same] at member
    exact (Finset.mem_filter.mp member).2.symm

/-- Less room does not bring an end. -/
theorem unending_of_le {less more : Nat} (le : less ≤ more)
    (unending : (policyWithin zone options more domain path).outcome = .unending) :
    (policyWithin zone options less domain path).outcome = .unending := by
  by_contra ends
  rw [extends_policyWithin le domain path ends] at unending
  exact ends unending

theorem LacksOne.not_mem {room : Nat} (lacks : LacksOne zone options room domain path)
    {visited : Finset String} (longer : ∀ name ∈ visited,
      (policyWithin zone options (room + 1) name path).outcome = .unending) : domain ∉ visited :=
  fun member => lacks.2 (longer domain member)

theorem LacksOne.card_visited {room : Nat} (lacks : LacksOne zone options room domain path)
    (known : domain ∈ inclusionDomains zone) (visited : Finset String)
    (visitedKnown : visited ⊆ inclusionDomains zone)
    (longer : ∀ name ∈ visited,
      (policyWithin zone options (room + 1) name path).outcome = .unending) :
    visited.card + 1 ≤ (inclusionDomains zone).card := by
  rw [← Finset.card_insert_of_notMem (lacks.not_mem longer)]
  exact Finset.card_le_card (Finset.insert_subset known visitedKnown)

/-- Each domain lacks room in its own way while the same domains are held, and whatever is newly held
leaves fewer to enter. -/
theorem LacksOne.bound (unlimited : options.maxIncludeDepth = none) {room : Nat}
    (lacks : LacksOne zone options room domain path) (known : domain ∈ inclusionDomains zone)
    (visited : Finset String) (visitedKnown : visited ⊆ inclusionDomains zone)
    (longer : ∀ name ∈ visited,
      (policyWithin zone options (room + 1) name path).outcome = .unending) :
    room + 1 + visited.card ≤
      (inclusionDomains zone).card * ((path.free (inclusionDomains zone)).card + 1) := by
  induction room generalizing domain path visited with
  | zero =>
    have counted := lacks.card_visited known visited visitedKnown longer
    rw [Nat.mul_add_one]
    omega
  | succ room ih =>
    have counted := lacks.card_visited known visited visitedKnown longer
    obtain ⟨target, targetKnown, inner⟩ := lacks.inner unlimited
    by_cases same : (path.extend target).free (inclusionDomains zone) =
        path.free (inclusionDomains zone)
    · have congr : ∀ less name, (policyWithin zone options less name path).outcome.cause? =
          (policyWithin zone options less name (path.extend target)).outcome.cause? :=
        fun less name => policyWithin_cause?_congr unlimited (agree_of_free_eq same)
      have bound := ih inner targetKnown (insert domain visited)
        (Finset.insert_subset known visitedKnown) fun name member => by
          rw [← Outcome.cause?_eq_endless_iff, ← congr, Outcome.cause?_eq_endless_iff]
          rcases Finset.mem_insert.mp member with rfl | member
          · exact lacks.1
          · exact unending_of_le (Nat.le_succ (room + 1)) (longer name member)
      rw [Finset.card_insert_of_notMem (lacks.not_mem longer), same] at bound
      omega
    · have fewer : ((path.extend target).free (inclusionDomains zone)).card <
          (path.free (inclusionDomains zone)).card :=
        Finset.card_lt_card ((path.free_extend_subset target _).ssubset_of_ne same)
      have bound := ih inner targetKnown ∅ (Finset.empty_subset _) fun name member => by
        exact absurd member (Finset.notMem_empty name)
      have grows : (inclusionDomains zone).card *
          (((path.extend target).free (inclusionDomains zone)).card + 1) ≤
          (inclusionDomains zone).card * (path.free (inclusionDomains zone)).card :=
        Nat.mul_le_mul_left _ fewer
      rw [Finset.card_empty] at bound
      rw [Nat.mul_add_one]
      omega

/-- A policy that lacks room here lacks less than `Lookup.room`. -/
theorem LacksOne.lt_room (unlimited : options.maxIncludeDepth = none) {room : Nat}
    (lacks : LacksOne zone options room domain path) :
    room < Lookup.room options (inclusions zone).length := by
  cases room with
  | zero => simp [Lookup.room, unlimited]
  | succ room =>
    obtain ⟨target, known, inner⟩ := lacks.inner unlimited
    have bound := inner.bound unlimited known ∅ (Finset.empty_subset _) fun name member => by
      exact absurd member (Finset.notMem_empty name)
    have few := card_inclusionDomains_le zone
    have fewer : ((path.extend target).free (inclusionDomains zone)).card ≤
        (inclusionDomains zone).card :=
      IncludePath.card_free_le _ _
    have whole : (inclusionDomains zone).card *
        (((path.extend target).free (inclusionDomains zone)).card + 1) ≤
        ((inclusions zone).length + 1) * ((inclusions zone).length + 1) :=
      Nat.mul_le_mul (by omega) (by omega)
    simp only [Lookup.room, unlimited]
    rw [Finset.card_empty] at bound
    omega

theorem exists_lacksOne {less more : Nat} (le : less ≤ more)
    (unending : (policyWithin zone options less domain path).outcome = .unending)
    (ends : (policyWithin zone options more domain path).outcome ≠ .unending) :
    ∃ room, less ≤ room ∧ LacksOne zone options room domain path := by
  induction more, le using Nat.le_induction with
  | base => exact (ends unending).elim
  | succ more le ih =>
    by_cases still : (policyWithin zone options more domain path).outcome = .unending
    · exact ⟨more, le, still, ends⟩
    · exact ih still

/-- What ends in some room ends in `Lookup.room`. -/
theorem policyWithin_room_ends {room : Nat}
    (ends : (policyWithin zone options room domain path).outcome ≠ .unending) :
    (policyWithin zone options (Lookup.room options (inclusions zone).length) domain path).outcome ≠
      .unending := by
  cases given : options.maxIncludeDepth with
  | some limit =>
    apply policyWithin_ends_of_limit given <;> simp only [Lookup.room, given] <;> omega
  | none =>
    intro unending
    rcases Nat.le_total (Lookup.room options (inclusions zone).length) room with le | le
    · obtain ⟨least, enough, lacks⟩ := exists_lacksOne le unending ends
      have short := lacks.lt_room given
      omega
    · exact ends (unending_of_le le unending)

theorem room_le_room (options : Options) {few many : Nat} (le : few ≤ many) :
    Lookup.room options few ≤ Lookup.room options many := by
  unfold Lookup.room
  split
  · exact le_rfl
  · exact Nat.succ_le_succ (Nat.mul_le_mul (Nat.succ_le_succ le) (Nat.succ_le_succ le))

/-- In as much room as `Lookup.room` gives, a policy ends as it does in any other room where it has an
end. -/
theorem extends_policyWithin_of_room_le {enough : Nat}
    (le : Lookup.room options (inclusions zone).length ≤ enough) (room : Nat) (domain : String) :
    (policyWithin zone options enough domain).Extends (policyWithin zone options room domain) := by
  intro path ends
  rcases Nat.le_total room enough with less | more
  · exact extends_policyWithin less domain path ends
  · have enoughEnds : (policyWithin zone options enough domain path).outcome ≠ .unending := by
      rw [extends_policyWithin le domain path (policyWithin_room_ends ends)]
      exact policyWithin_room_ends ends
    exact (extends_policyWithin more domain path enoughEnds).symm

/-- A look-up reports what its policy reports in any room where that has an end. -/
theorem policyWithin_eq_lookup {room : Nat}
    (ends : (policyWithin zone options room domain (.ofRoot domain)).outcome ≠ .unending) :
    policyWithin zone options room domain (.ofRoot domain) = lookup zone options domain := by
  exact (extends_policyWithin_of_room_le le_rfl room domain _ ends).symm

/-- A look-up succeeds with a policy that is found in some room. -/
theorem exists_policyWithin_of_lookup {policy : Policy}
    (done : (lookup zone options domain).outcome = .done policy) : ∃ room queries,
      policyWithin zone options room domain (.ofRoot domain) =
        ⟨.done policy, .ofRoot domain, queries⟩ := by
  have balanced := balanced_policyWithin zone options (room options (inclusions zone).length) domain
  obtain ⟨queries, found⟩ := balanced.outcome_eq_done_iff.mp done
  exact ⟨_, queries, found⟩

/-- A look-up reports any end that its policy has in some room. -/
theorem lookup_eq_of_policyWithin {room : Nat} {report : Report Policy}
    (ran : policyWithin zone options room domain (.ofRoot domain) = report)
    (ends : report.outcome ≠ .unending) : lookup zone options domain = report := by
  subst ran
  exact (policyWithin_eq_lookup ends).symm

end SenderPolicy.Lookup

import SenderPolicy.Proofs.IncludePath
import SenderPolicy.Proofs.Lookup.Simulation

/-! # Look-ups on parallel paths

A look-up uses its path only to enter includes, and leaves every include as it was entered. So on two
paths that let the same domains in, here and further inside, it asks the same and comes to the same. The
two paths may be of different depth, if one limit is as much higher as its path is deeper: then the
reports differ in the limit that an error about the depth names, and in nothing else.
-/

namespace SenderPolicy

/-- The same error, with another limit where it is about the depth. -/
def PolicyError.mapLimit (f : Nat → Nat) : PolicyError → PolicyError
  | .inclusionTooDeep domain limit => .inclusionTooDeep domain (f limit)
  | error => error

theorem PolicyError.mapLimit_id : mapLimit id = id := by
  funext error
  cases error <;> rfl

def Outcome.mapError {α : Type} (f : PolicyError → PolicyError) : Outcome α → Outcome α
  | .failed error => .failed (f error)
  | outcome => outcome

theorem Outcome.mapError_id {α : Type} (outcome : Outcome α) : outcome.mapError id = outcome := by
  cases outcome <;> rfl

namespace IncludePath

variable {limit? : Option Nat}

/-- Related paths, each under its limit, let the same domains in and are related inside. They refuse the
other domains for the same reason, but for the limit that it names. -/
structure Parallel (related : IncludePath → IncludePath → Prop) (limit? limit?' : Option Nat)
    (f : Nat → Nat) : Prop where
  enter {left right : IncludePath} (here : related left right) (domain : String) :
    right.enter limit?' domain =
      ((left.enter limit? domain).mapError (.mapLimit f)).map fun _ => right.extend domain
  extend {left right : IncludePath} (here : related left right) (domain : String) :
    related (left.extend domain) (right.extend domain)

theorem parallel_alike (limit? : Option Nat) : Parallel Alike limit? limit? id where
  enter {left right} alike domain := by
    rw [alike.enter limit? domain, PolicyError.mapLimit_id]
    cases left.enter limit? domain <;> rfl
  extend alike domain := alike.extend domain

/-- The path inside of so many more includes, none of whose domains it holds. -/
def deeper (path : IncludePath) (offset : Nat) : IncludePath := ⟨path.names, path.depth + offset⟩

theorem deeper_extend (path : IncludePath) (offset : Nat) (domain : String) :
    (path.deeper offset).extend domain = (path.extend domain).deeper offset := by
  simp only [deeper, extend, mk.injEq, true_and]
  omega

theorem exhausted_deeper (path : IncludePath) (offset limit : Nat) :
    (path.deeper offset).exhausted (limit + offset) = path.exhausted limit := by
  simp only [exhausted, deeper, Nat.add_le_add_iff_right]

/-- A deeper path is parallel under a limit that is as much higher. -/
theorem parallel_deeper (offset : Nat) {f : Nat → Nat}
    (higher : ∀ limit, limit? = some limit → f limit = limit + offset) :
    Parallel (fun left right => right = left.deeper offset) limit? (limit?.map (· + offset)) f where
  enter {left right} here domain := by
    subst here
    have holds : (left.deeper offset).holds domain = left.holds domain := rfl
    unfold enter
    rw [holds]
    cases left.holds domain with
    | true => rfl
    | false =>
      cases limit? with
      | none => rfl
      | some limit =>
        have named : PolicyError.mapLimit f (.inclusionTooDeep domain limit) =
            .inclusionTooDeep domain (limit + offset) := by
          rw [PolicyError.mapLimit, higher limit rfl]
        dsimp only [Option.map_some]
        rw [exhausted_deeper]
        cases left.exhausted limit with
        | true => exact congrArg Except.error named.symm
        | false => rfl
  extend {left right} here domain := by
    subst here
    exact deeper_extend left offset domain

end IncludePath

namespace Inquiry

variable {α β : Type} {related : IncludePath → IncludePath → Prop} {f : Nat → Nat}

/-- On related paths, the second inquiry reports what the first does, but for the limit that an error
names, and both leave the paths as they found them. -/
def Carried (related : IncludePath → IncludePath → Prop) (f : Nat → Nat) (α : Type)
    (inquiry inquiry' : Inquiry α) : Prop :=
  ∀ left right, related left right → (inquiry left).path = left ∧
    inquiry' right = ⟨(inquiry left).outcome.mapError (.mapLimit f), right, (inquiry left).queries⟩

theorem carried_stop (outcome : Outcome α) :
    Carried related f α (stop outcome) (stop (outcome.mapError (.mapLimit f))) :=
  fun _ _ _ => ⟨rfl, rfl⟩

theorem carried_ask (kind : QueryKind) (domain : String) (answer : Except DnsError α) :
    Carried related f α (ask kind domain answer) (ask kind domain answer) := by
  intro left right _
  cases answer <;> exact ⟨rfl, rfl⟩

theorem Carried.bind {first first' : Inquiry α} {next next' : α → Inquiry β}
    (here : Carried related f α first first')
    (after : ∀ path value, (first path).outcome = .done value →
      Carried related f β (next value) (next' value)) :
    Carried related f β (first >>= next) (first' >>= next') := by
  intro left right parallel
  obtain ⟨stays, went⟩ := here left right parallel
  rcases ran : first left with ⟨outcome, middle, asked⟩
  rw [ran] at stays went
  obtain rfl : middle = left := stays
  cases outcome with
  | failed error =>
    rw [bind_apply_failed ran, bind_apply_failed went]
    exact ⟨rfl, rfl⟩
  | unending =>
    rw [bind_apply_unending ran, bind_apply_unending went]
    exact ⟨rfl, rfl⟩
  | done value =>
    obtain ⟨leaves, goes⟩ := after middle value (by rw [ran]) middle right parallel
    rw [bind_apply_done ran, bind_apply_done went, goes]
    exact ⟨leaves, rfl⟩

theorem composes_carried : Composes (Carried related f) where
  value value := carried_stop (.done value)
  bind := Carried.bind

theorem carried_policyText (zone : Zone) (name : String) :
    Carried related f String (policyText zone name) (policyText zone name) := by
  refine (carried_ask .txt name _).bind fun _ texts _ => ?_
  split
  · exact carried_stop (.done _)
  · exact carried_stop (.failed (.noPolicy name))

theorem Carried.inside {limit? limit?' : Option Nat}
    (parallel : IncludePath.Parallel related limit? limit?' f) {inquiry inquiry' : Inquiry α}
    (within : Carried related f α inquiry inquiry') (domain : String) :
    Carried related f α (inside limit? domain inquiry) (inside limit?' domain inquiry') := by
  intro left right here
  unfold Inquiry.inside
  rw [parallel.enter here domain]
  cases entered : left.enter limit? domain with
  | error error => exact ⟨rfl, rfl⟩
  | ok inner =>
    obtain ⟨-, -, rfl⟩ := IncludePath.enter_eq_ok_iff.mp entered
    obtain ⟨leaves, goes⟩ := within _ _ (parallel.extend here domain)
    simp only [Except.mapError, Except.map, goes, leaves, IncludePath.leave_extend, true_and]

/-- On two paths that cannot be told apart, the inquiries report the same, and leave each path as they
found it. -/
def Indifferent {α : Type} (inquiry inquiry' : Inquiry α) : Prop :=
  ∀ left right, left.Alike right →
    (inquiry left).path = left ∧ inquiry' right = { inquiry left with path := right }

theorem indifferent_stop (outcome : Outcome α) : Indifferent (stop outcome) (stop outcome) :=
  fun _ _ _ => ⟨rfl, rfl⟩

/-- On paths that cannot be told apart, the limit is the same as well. -/
theorem indifferent_eq_carried : @Indifferent = Carried IncludePath.Alike id := by
  funext α inquiry inquiry'
  simp only [Indifferent, Carried, PolicyError.mapLimit_id, Outcome.mapError_id]

end Inquiry

open Inquiry

/-- On parallel paths a look-up goes the same way under each limit. -/
theorem simulation_carried {related : IncludePath → IncludePath → Prop} {limit? limit?' : Option Nat}
    {f : Nat → Nat} (parallel : IncludePath.Parallel related limit? limit?' f) (zone : Zone)
    (strict : Bool) :
    Simulation zone zone ⟨strict, limit?⟩ ⟨strict, limit?'⟩ (Carried related f) where
  toComposes := composes_carried
  text := carried_policyText zone
  networks name kind _ fit :=
    composes_carried.hostNetworks (fun host => carried_ask .ip host _)
      (fun host => carried_ask .mx host _) name kind fit
  unknown {term} _ := by
    unfold Directive.ofUnknown
    split
    · exact carried_stop (.failed (.unknownTerm term))
    · exact carried_stop (.done none)
  malformed fault := carried_stop (.failed (.format fault))
  inside name _ _ within := within.inside parallel name

theorem simulation_indifferent (zone : Zone) (options : Options) :
    Simulation zone zone options options @Indifferent := by
  rw [indifferent_eq_carried]
  exact simulation_carried (IncludePath.parallel_alike options.maxIncludeDepth) zone options.strict

end SenderPolicy

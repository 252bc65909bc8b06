import SenderPolicy.Record

/-! # How inquiries compose

An inquiry without a value has a cause, and the first cause in a sequence is the cause of the whole.
Three properties pass from the parts to the whole: a balanced inquiry leaves the reader on the path
where it started, a plain one neither looks at the path nor goes on without an end, and an inquiry
extends another if it ends as the other does wherever that one ends. A sequence that succeeds has been
through its parts one after the other, and their queries stand in that order.
-/

namespace SenderPolicy

/-- Why an inquiry has no value. -/
inductive Cause where
  | error (error : PolicyError)
  /-- The includes are nested without an end. -/
  | endless
deriving DecidableEq, Repr

namespace Outcome

variable {α β : Type}

def cause? : Outcome α → Option Cause
  | .done _ => none
  | .failed error => some (.error error)
  | .unending => some .endless

theorem cause?_eq_none_iff {outcome : Outcome α} :
    outcome.cause? = none ↔ ∃ value, outcome = .done value := by
  cases outcome <;> simp [cause?]

theorem cause?_eq_error_iff {outcome : Outcome α} {error : PolicyError} :
    outcome.cause? = some (.error error) ↔ outcome = .failed error := by
  cases outcome <;> simp [cause?]

theorem cause?_eq_endless_iff {outcome : Outcome α} :
    outcome.cause? = some .endless ↔ outcome = .unending := by
  cases outcome <;> simp [cause?]

@[simp] theorem cause?_map (f : α → β) (outcome : Outcome α) :
    (outcome.map f).cause? = outcome.cause? := by
  cases outcome <;> rfl

theorem cause?_ofExcept_eq_none_iff {result : Except PolicyError α} :
    (ofExcept result).cause? = none ↔ ∃ value, result = .ok value := by
  cases result <;> simp [ofExcept, cause?]

theorem value?_eq_some_iff {outcome : Outcome α} {value : α} :
    outcome.value? = some value ↔ outcome = .done value := by
  cases outcome <;> simp [value?]

theorem map_eq_done_iff {f : α → β} {outcome : Outcome α} {value : β} :
    outcome.map f = .done value ↔ ∃ given, outcome = .done given ∧ f given = value := by
  cases outcome <;> simp [map]

theorem map_eq_failed_iff {f : α → β} {outcome : Outcome α} {error : PolicyError} :
    outcome.map f = .failed error ↔ outcome = .failed error := by
  cases outcome <;> simp [map]

theorem map_eq_unending_iff {f : α → β} {outcome : Outcome α} :
    outcome.map f = .unending ↔ outcome = .unending := by
  cases outcome <;> simp [map]

theorem ofExcept_ne_unending (result : Except PolicyError α) : ofExcept result ≠ .unending := by
  cases result <;> simp [ofExcept]

end Outcome

namespace Inquiry

variable {α β : Type}

/-- The first cause in a sequence ends it. -/
theorem bind_cause?_of_eq_some {first : Inquiry α} {next : α → Inquiry β} {path : IncludePath}
    {cause : Cause} (stopped : (first path).outcome.cause? = some cause) :
    ((first >>= next) path).outcome.cause? = some cause := by
  rcases ran : first path with ⟨outcome, last, queries⟩
  rw [ran] at stopped
  cases outcome with
  | done value => simp [Outcome.cause?] at stopped
  | failed error => rw [bind_apply_failed ran]; exact stopped
  | unending => rw [bind_apply_unending ran]; exact stopped

/-- Leaves the reader on the path where it started. -/
def Balanced (inquiry : Inquiry α) : Prop := ∀ path, (inquiry path).path = path

/-- After a balanced inquiry with a value, the sequence goes on where it started. -/
theorem bind_cause?_of_done {first : Inquiry α} {next : α → Inquiry β} {path : IncludePath}
    {value : α} (balanced : first.Balanced) (ended : (first path).outcome = .done value) :
    ((first >>= next) path).outcome.cause? = (next value path).outcome.cause? := by
  have stays := balanced path
  rcases ran : first path with ⟨outcome, last, queries⟩
  rw [ran] at ended stays
  dsimp only at ended stays
  subst ended stays
  rw [bind_apply_done ran]

/-- A sequence has a value when both of its parts do. -/
theorem bind_cause?_eq_none_iff {first : Inquiry α} {next : α → Inquiry β} {path : IncludePath}
    (balanced : first.Balanced) :
    ((first >>= next) path).outcome.cause? = none ↔
      ∃ value, (first path).outcome = .done value ∧ (next value path).outcome.cause? = none := by
  constructor
  · intro ended
    cases stopped : (first path).outcome.cause? with
    | some cause => rw [bind_cause?_of_eq_some stopped] at ended; contradiction
    | none =>
      obtain ⟨value, found⟩ := Outcome.cause?_eq_none_iff.mp stopped
      rw [bind_cause?_of_done balanced found] at ended
      exact ⟨value, found, ended⟩
  · rintro ⟨value, found, ended⟩
    rw [bind_cause?_of_done balanced found, ended]

/-- A sequence comes to the same as another if both start alike, and go on alike from where the first part has
a value. -/
theorem bind_apply_congr {first first' : Inquiry α} {next next' : α → Inquiry β} {path : IncludePath}
    (same : first' path = first path)
    (after : ∀ value middle queries, first path = ⟨.done value, middle, queries⟩ →
      next' value middle = next value middle) :
    (first' >>= next') path = (first >>= next) path := by
  rcases ran : first path with ⟨outcome, middle, queries⟩
  rw [ran] at same
  cases outcome with
  | failed error => rw [bind_apply_failed ran, bind_apply_failed same]
  | unending => rw [bind_apply_unending ran, bind_apply_unending same]
  | done value => rw [bind_apply_done ran, bind_apply_done same, after value middle queries ran]

theorem ofExcept_mapError_ok {ε : Type} (f : ε → PolicyError) (value : α) :
    ofExcept ((Except.ok value : Except ε α).mapError f) = pure value := rfl

theorem ofExcept_mapError_error {ε : Type} (f : ε → PolicyError) (error : ε) :
    ofExcept ((Except.error error : Except ε α).mapError f) = fail (f error) := rfl

theorem fail_bind (error : PolicyError) (next : α → Inquiry β) :
    (fail error >>= next) = fail error := by
  funext path
  exact bind_apply_failed rfl

theorem map_fail (f : α → β) (error : PolicyError) : f <$> (fail error : Inquiry α) = fail error := by
  rw [map_eq_pure_bind, fail_bind]

theorem map_apply (f : α → β) (inquiry : Inquiry α) (path : IncludePath) :
    (f <$> inquiry) path = (inquiry path).map f := by
  rw [map_eq_pure_bind]
  rcases ran : inquiry path with ⟨outcome, last, queries⟩
  cases outcome with
  | done value => rw [bind_apply_done ran, pure_apply, List.append_nil]; rfl
  | failed error => rw [bind_apply_failed ran]; rfl
  | unending => rw [bind_apply_unending ran]; rfl

/-- What a sequence asks starts with what its first part asks. -/
theorem queries_prefix_bind (first : Inquiry α) (next : α → Inquiry β) (path : IncludePath) :
    (first path).queries <+: ((first >>= next) path).queries := by
  rcases ran : first path with ⟨outcome, last, queries⟩
  cases outcome with
  | done value => exact ⟨_, by rw [bind_apply_done ran]⟩
  | failed error => exact ⟨[], by rw [bind_apply_failed ran, List.append_nil]⟩
  | unending => exact ⟨[], by rw [bind_apply_unending ran, List.append_nil]⟩

theorem balanced_stop (outcome : Outcome α) : (stop outcome).Balanced := fun _ => rfl

theorem Balanced.bind {first : Inquiry α} {next : α → Inquiry β} (balanced : first.Balanced)
    (after : ∀ value, (next value).Balanced) : (first >>= next).Balanced := by
  intro path
  have stays := balanced path
  rcases ran : first path with ⟨outcome, last, queries⟩
  rw [ran] at stays
  dsimp only at stays
  subst stays
  cases outcome with
  | done value => rw [bind_apply_done ran]; exact after value last
  | failed error => rw [bind_apply_failed ran]
  | unending => rw [bind_apply_unending ran]

theorem Balanced.map {inquiry : Inquiry α} (balanced : inquiry.Balanced) (f : α → β) :
    (f <$> inquiry).Balanced := by
  rw [map_eq_pure_bind]
  exact balanced.bind fun value => balanced_stop (.done (f value))

/-- Whoever leaves an include stands where the include was entered. -/
theorem Balanced.inside {inquiry : Inquiry α} (balanced : inquiry.Balanced) (limit? : Option Nat)
    (domain : String) : (inside limit? domain inquiry).Balanced := by
  intro path
  unfold Inquiry.inside
  split
  · rfl
  · next inner entered =>
    dsimp only
    rw [balanced inner]
    exact IncludePath.leave_of_enter entered

/-- Ends, in one way wherever the reader is, and leaves the reader there. -/
def Plain (inquiry : Inquiry α) : Prop :=
  ∃ outcome queries, outcome ≠ .unending ∧ ∀ path, inquiry path = ⟨outcome, path, queries⟩

theorem Plain.balanced {inquiry : Inquiry α} (plain : inquiry.Plain) : inquiry.Balanced := by
  obtain ⟨outcome, queries, _, runs⟩ := plain
  intro path
  rw [runs]

theorem Plain.ends {inquiry : Inquiry α} (plain : inquiry.Plain) (path : IncludePath) :
    (inquiry path).outcome ≠ .unending := by
  obtain ⟨outcome, queries, ends, runs⟩ := plain
  rw [runs]
  exact ends

theorem plain_stop {outcome : Outcome α} (ends : outcome ≠ .unending) : (stop outcome).Plain :=
  ⟨outcome, [], ends, fun _ => rfl⟩

theorem plain_pure (value : α) : (pure value : Inquiry α).Plain := plain_stop (by simp)

theorem plain_fail (error : PolicyError) : (fail error : Inquiry α).Plain := plain_stop (by simp)

theorem plain_ofExcept (result : Except PolicyError α) : (ofExcept result).Plain :=
  plain_stop (Outcome.ofExcept_ne_unending result)

theorem plain_ask (kind : QueryKind) (domain : String) (answer : Except DnsError α) :
    (ask kind domain answer).Plain :=
  ⟨_, _, Outcome.ofExcept_ne_unending _, fun _ => rfl⟩

theorem Plain.bind {first : Inquiry α} {next : α → Inquiry β} (plain : first.Plain)
    (after : ∀ value, (next value).Plain) : (first >>= next).Plain := by
  obtain ⟨outcome, queries, ends, runs⟩ := plain
  cases outcome with
  | unending => exact (ends rfl).elim
  | failed error => exact ⟨.failed error, queries, by simp, fun path => bind_apply_failed (runs path)⟩
  | done value =>
    obtain ⟨final, more, finalEnds, goes⟩ := after value
    refine ⟨final, queries ++ more, finalEnds, fun path => ?_⟩
    rw [bind_apply_done (runs path), goes path]

theorem Plain.map {inquiry : Inquiry α} (plain : inquiry.Plain) (f : α → β) :
    (f <$> inquiry).Plain := by
  rw [map_eq_pure_bind]
  exact plain.bind fun value => plain_pure (f value)

/-- Ends as `less` does wherever `less` has an end. -/
def Extends (more less : Inquiry α) : Prop :=
  ∀ path, (less path).outcome ≠ .unending → more path = less path

theorem Extends.refl (inquiry : Inquiry α) : inquiry.Extends inquiry := fun _ _ => rfl

theorem Extends.trans {more middle less : Inquiry α} (left : more.Extends middle)
    (right : middle.Extends less) : more.Extends less := by
  intro path ends
  have same := right path ends
  rw [← same] at ends ⊢
  exact left path ends

theorem extends_unending (inquiry : Inquiry α) : inquiry.Extends (stop .unending) :=
  fun _ ends => (ends rfl).elim

theorem Extends.bind {first first' : Inquiry α} {next next' : α → Inquiry β}
    (extension : first'.Extends first) (after : ∀ value, (next' value).Extends (next value)) :
    (first' >>= next').Extends (first >>= next) := by
  intro path ends
  rcases ran : first path with ⟨outcome, last, queries⟩
  have same : outcome ≠ .unending → first' path = ⟨outcome, last, queries⟩ := by
    intro firstEnds
    rw [← ran]
    exact extension path (by rw [ran]; exact firstEnds)
  cases outcome with
  | unending => rw [bind_apply_unending ran] at ends; exact (ends rfl).elim
  | failed error => rw [bind_apply_failed ran, bind_apply_failed (same (by simp))]
  | done value =>
    rw [bind_apply_done ran] at ends ⊢
    rw [bind_apply_done (same (by simp)), after value last ends]

theorem Extends.map {inquiry inquiry' : Inquiry α} (extension : inquiry'.Extends inquiry)
    (f : α → β) : (f <$> inquiry').Extends (f <$> inquiry) := by
  rw [map_eq_pure_bind, map_eq_pure_bind]
  exact extension.bind fun value => .refl _

theorem Extends.inside {inquiry inquiry' : Inquiry α} (extension : inquiry'.Extends inquiry)
    (limit? : Option Nat) (domain : String) :
    (inside limit? domain inquiry').Extends (inside limit? domain inquiry) := by
  intro path ends
  unfold Inquiry.inside at ends ⊢
  split at ends
  · rfl
  · next inner entered => rw [extension inner ends]

/-- It only matters what an inquiry does inside of the include, and only if that is entered. -/
theorem inside_apply_congr {limit? : Option Nat} {domain : String} {path : IncludePath}
    {inquiry inquiry' : Inquiry α}
    (same : ∀ inner, path.enter limit? domain = .ok inner → inquiry' inner = inquiry inner) :
    inside limit? domain inquiry' path = inside limit? domain inquiry path := by
  unfold inside
  cases entered : path.enter limit? domain with
  | error error => rfl
  | ok inner =>
    dsimp only
    rw [same inner entered]

/-- What is made of a value is made of it inside of an include as well. -/
theorem inside_map (f : α → β) (limit? : Option Nat) (domain : String) (inquiry : Inquiry α) :
    inside limit? domain (f <$> inquiry) = f <$> inside limit? domain inquiry := by
  funext path
  rw [map_apply]
  cases entered : path.enter limit? domain with
  | error error => simp only [inside, entered, Report.map, Outcome.map]
  | ok inner => simp only [inside, entered, map_apply, Report.map]

/-- What ends in an include that is entered ends the same way around it. -/
theorem inside_outcome {limit? : Option Nat} {domain : String} {path inner : IncludePath}
    (inquiry : Inquiry α) (entered : path.enter limit? domain = .ok inner) :
    (inside limit? domain inquiry path).outcome = (inquiry inner).outcome := by
  unfold inside
  rw [entered]

theorem inside_outcome_of_refused {limit? : Option Nat} {domain : String} {path : IncludePath}
    (inquiry : Inquiry α) {error : PolicyError} (refused : path.enter limit? domain = .error error) :
    (inside limit? domain inquiry path).outcome = .failed error := by
  unfold inside
  rw [refused]

section Success

variable {path last : IncludePath} {queries : List Query}

theorem pure_eq_done_iff {given value : α} :
    (pure given : Inquiry α) path = ⟨.done value, last, queries⟩ ↔
      value = given ∧ last = path ∧ queries = [] := by
  rw [pure_apply]
  simp only [Report.mk.injEq, Outcome.done.injEq]
  exact ⟨fun ⟨v, p, q⟩ => ⟨v.symm, p.symm, q.symm⟩, fun ⟨v, p, q⟩ => ⟨v.symm, p.symm, q.symm⟩⟩

theorem ofExcept_eq_done_iff {result : Except PolicyError α} {value : α} :
    ofExcept result path = ⟨.done value, last, queries⟩ ↔
      result = .ok value ∧ last = path ∧ queries = [] := by
  cases result with
  | ok given =>
    rw [Except.ok.injEq, eq_comm (a := given)]
    exact pure_eq_done_iff
  | error error => simp [ofExcept, stop, Outcome.ofExcept]

theorem fail_ne_done {error : PolicyError} {value : α} :
    (fail error : Inquiry α) path ≠ ⟨.done value, last, queries⟩ := by
  simp [fail, stop]

/-- A query succeeds with its answer, and is all that is asked. -/
theorem ask_eq_done_iff {kind : QueryKind} {domain : String} {answer : Except DnsError α} {value : α} :
    ask kind domain answer path = ⟨.done value, last, queries⟩ ↔
      answer = .ok value ∧ last = path ∧ queries = [.about kind domain] := by
  cases answer with
  | ok given =>
    change (⟨.done given, path, [.about kind domain]⟩ : Report α) = _ ↔ _
    simp [eq_comm]
  | error cause =>
    change (⟨.failed (.dns domain cause), path, [.about kind domain]⟩ : Report α) = _ ↔ _
    simp

/-- A sequence succeeds when both of its parts do, one after the other. -/
theorem bind_eq_done_iff {first : Inquiry α} {next : α → Inquiry β} {value : β} :
    (first >>= next) path = ⟨.done value, last, queries⟩ ↔
      ∃ given middle asked more, first path = ⟨.done given, middle, asked⟩ ∧
        next given middle = ⟨.done value, last, more⟩ ∧ queries = asked ++ more := by
  rcases ran : first path with ⟨outcome, middle, asked⟩
  cases outcome with
  | failed error => simp [bind_apply_failed ran]
  | unending => simp [bind_apply_unending ran]
  | done given =>
    rw [bind_apply_done ran]
    rcases went : next given middle with ⟨outcome, last, more⟩
    constructor
    · rintro same
      cases same
      exact ⟨given, middle, asked, more, rfl, went, rfl⟩
    · rintro ⟨_, _, _, _, same, goes, rfl⟩
      cases same
      rw [went] at goes
      cases goes
      rfl

theorem map_eq_done_iff {f : α → β} {inquiry : Inquiry α} {value : β} :
    (f <$> inquiry) path = ⟨.done value, last, queries⟩ ↔
      ∃ given, inquiry path = ⟨.done given, last, queries⟩ ∧ value = f given := by
  rw [map_eq_pure_bind]
  simp only [bind_eq_done_iff, pure_eq_done_iff]
  constructor
  · rintro ⟨given, _, asked, _, ran, ⟨rfl, rfl, rfl⟩, rfl⟩
    exact ⟨given, by rw [List.append_nil]; exact ran, rfl⟩
  · rintro ⟨given, ran, rfl⟩
    exact ⟨given, last, queries, [], ran, ⟨rfl, rfl, rfl⟩, (List.append_nil queries).symm⟩

/-- An include that is entered reports what the inquiry inside of it does, from where it was entered. -/
theorem Balanced.inside_apply {inquiry : Inquiry α} (balanced : inquiry.Balanced)
    {limit? : Option Nat} {domain : String} {inner : IncludePath}
    (entered : path.enter limit? domain = .ok inner) :
    Inquiry.inside limit? domain inquiry path = { inquiry inner with path := path } := by
  unfold Inquiry.inside
  rw [entered]
  dsimp only
  rw [balanced inner, IncludePath.leave_of_enter entered]

/-- An include succeeds when it is entered and the inquiry inside of it succeeds. -/
theorem Balanced.inside_eq_done_iff {inquiry : Inquiry α} (balanced : inquiry.Balanced)
    {limit? : Option Nat} {domain : String} {value : α} :
    Inquiry.inside limit? domain inquiry path = ⟨.done value, last, queries⟩ ↔
      ∃ inner, path.enter limit? domain = .ok inner ∧
        inquiry inner = ⟨.done value, inner, queries⟩ ∧ last = path := by
  cases entered : path.enter limit? domain with
  | error error =>
    have stopped := inside_outcome_of_refused inquiry entered
    constructor
    · intro done
      rw [done] at stopped
      cases stopped
    · rintro ⟨inner, same, -⟩
      cases same
  | ok inner =>
    have stays := balanced inner
    rw [balanced.inside_apply entered]
    rcases ran : inquiry inner with ⟨outcome, deepest, asked⟩
    obtain rfl : deepest = inner := by rw [← stays, ran]
    constructor
    · intro done
      cases done
      exact ⟨deepest, rfl, ran, rfl⟩
    · rintro ⟨_, same, goes, rfl⟩
      cases same
      rw [ran] at goes
      cases goes
      rfl

/-- A balanced inquiry has a value when it reports one on the path where it started. -/
theorem Balanced.outcome_eq_done_iff {inquiry : Inquiry α} (balanced : inquiry.Balanced) {value : α} :
    (inquiry path).outcome = .done value ↔
      ∃ queries, inquiry path = ⟨.done value, path, queries⟩ := by
  have stays := balanced path
  rcases ran : inquiry path with ⟨outcome, last, asked⟩
  rw [ran] at stays
  dsimp only at stays
  subst stays
  simp

/-- A plain inquiry that succeeds somewhere succeeds everywhere. -/
theorem Plain.eq_done_of_eq_done {inquiry : Inquiry α} (plain : inquiry.Plain) {value : α}
    (done : inquiry path = ⟨.done value, last, queries⟩) (other : IncludePath) :
    inquiry other = ⟨.done value, other, queries⟩ := by
  obtain ⟨outcome, asked, _, runs⟩ := plain
  rw [runs] at done ⊢
  cases done
  rfl

end Success

end Inquiry

end SenderPolicy

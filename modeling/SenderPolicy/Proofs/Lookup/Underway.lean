import SenderPolicy.Proofs.Lookup.Room

/-! # The policies that are being read

At each moment of a look-up some policies are being read: the one it started with, and inside of each
the one of the include that it has reached and entered. The path holds their names, and whatever stops
the innermost of them stops the look-up.
-/

namespace SenderPolicy.Lookup

/-- A policy that is being read: its name, the names of the policies around it from the inside out, its
text, and the path where its terms are read. -/
structure Reading where
  name : String
  outer : List String
  raw : String
  path : IncludePath

namespace Reading

/-- The names of the policies being read, the innermost first. -/
def names (reading : Reading) : List String := reading.name :: reading.outer

def ofRoot (domain raw : String) : Reading := ⟨DomainName.normalize domain, [], raw, .ofRoot domain⟩

def inside (reading : Reading) (target raw : String) (path : IncludePath) : Reading :=
  ⟨DomainName.normalize (DomainName.normalize target), reading.names, raw, path⟩

/-- The terms before this one are built, and leave the reader on a path. -/
def Reached (zone : Zone) (options : Options) (reading : Reading) (term : String)
    (path : IncludePath) : Prop :=
  ∃ before after room directives queries,
    PolicyText.terms reading.raw = before ++ term :: after ∧
    Directive.ofTerms zone options (policyWithin zone options room) reading.name before reading.path =
      ⟨.done directives, path, queries⟩

/-- The terms stop with an error. -/
def Stops (zone : Zone) (options : Options) (reading : Reading) (error : PolicyError) : Prop :=
  ∃ room, (Directive.ofTerms zone options (policyWithin zone options room) reading.name
    (PolicyText.terms reading.raw) reading.path).outcome.cause? = some (.error error)

end Reading

/-- The policies that are being read at some moment of a look-up. -/
inductive Underway (zone : Zone) (options : Options) (domain : String) : Reading → Prop where
  | root {raw : String} (found : zone.policyText? (DomainName.normalize domain) = some raw) :
      Underway zone options domain (.ofRoot domain raw)
  | inside {reading : Reading} {term raw : String} {path inner : IncludePath}
      {fields : Term.InclusionTerm} (outer : Underway zone options domain reading)
      (reached : reading.Reached zone options term path)
      (read : Term.readInclusion term = .ok fields)
      (entered : path.enter options.maxIncludeDepth (DomainName.normalize fields.target) = .ok inner)
      (found : zone.policyText? (DomainName.normalize (DomainName.normalize fields.target)) =
        some raw) :
      Underway zone options domain (reading.inside fields.target raw inner)

variable {zone : Zone} {options : Options} {domain term : String} {reading : Reading}
  {path inner : IncludePath} {fields : Term.InclusionTerm}

namespace Reading

/-- Whatever was read before, a term is reached on the path of its policy. -/
theorem Reached.path_eq (reached : reading.Reached zone options term path) : path = reading.path := by
  obtain ⟨before, after, room, directives, queries, -, built⟩ := reached
  have balanced := Directive.balanced_ofTerms zone options reading.name
    (balanced_policyWithin zone options room) before reading.path
  rw [built] at balanced
  exact balanced

theorem Reached.mem (reached : reading.Reached zone options term path) :
    term ∈ PolicyText.terms reading.raw := by
  obtain ⟨before, after, room, directives, queries, terms, -⟩ := reached
  rw [terms]
  exact List.mem_append_right before List.mem_cons_self

theorem Reached.first (after : List String) (terms : PolicyText.terms reading.raw = term :: after) :
    reading.Reached zone options term reading.path :=
  ⟨[], after, 0, [], [], terms, rfl⟩

/-- The policy stops with the error of a term that is reached. -/
theorem Reached.stops (reached : reading.Reached zone options term path) (room : Nat)
    {error : PolicyError}
    (stopped : (Directive.ofTerm? zone options (policyWithin zone options room) reading.name term
      path).outcome.cause? = some (.error error)) :
    reading.Stops zone options error := by
  have here := reached.path_eq
  obtain ⟨before, after, enough, directives, queries, terms, built⟩ := reached
  subst here
  refine ⟨max enough room, ?_⟩
  have outerExtends (name : String) : (policyWithin zone options (max enough room) name).Extends
      (policyWithin zone options enough name) := extends_policyWithin (le_max_left _ _) name
  have innerExtends (name : String) : (policyWithin zone options (max enough room) name).Extends
      (policyWithin zone options room name) := extends_policyWithin (le_max_right _ _) name
  have earlier := Directive.extends_ofTerms zone options reading.name outerExtends before reading.path
    (by rw [built]; simp)
  have term_eq := Directive.extends_ofTerm? zone options reading.name term innerExtends reading.path
    (by rw [Outcome.cause?_eq_error_iff.mp stopped]; simp)
  have balanced := balanced_policyWithin zone options (max enough room)
  rw [Directive.ofTerms_cause? balanced, terms, List.findSome?_append, List.findSome?_cons, term_eq,
    stopped, ← Directive.ofTerms_cause? balanced, earlier, built]
  rfl

end Reading

/-- The look-up stops with the error of any policy that is being read. -/
theorem Underway.lookup_failed (underway : Underway zone options domain reading) {error : PolicyError}
    (stops : reading.Stops zone options error) :
    (lookup zone options domain).outcome = .failed error := by
  induction underway with
  | root found =>
    obtain ⟨room, stopped⟩ := stops
    have failed : (policyWithin zone options (room + 1) domain (.ofRoot domain)).outcome =
        .failed error := by
      rw [← Outcome.cause?_eq_error_iff, policyWithin_cause?_of_text found,
        ← Directive.ofTerms_cause? (balanced_policyWithin zone options room)]
      exact stopped
    have ends : (policyWithin zone options (room + 1) domain (.ofRoot domain)).outcome ≠ .unending := by
      rw [failed]
      simp
    rw [← policyWithin_eq_lookup ends]
    exact failed
  | inside outer reached read entered found ih =>
    obtain ⟨room, stopped⟩ := stops
    refine ih (reached.stops (room + 1) ?_)
    rw [Directive.ofTerm?_cause?_of_entered read entered, policyWithin_cause?_of_text found,
      ← Directive.ofTerms_cause? (balanced_policyWithin zone options room)]
    exact stopped

/-- What holds of every policy that is being read. -/
structure Reading.Sound (zone : Zone) (domain : String) (reading : Reading) : Prop where
  /-- The text is the policy of the name. -/
  text : zone.policyText? reading.name = some reading.raw
  /-- The path holds the names being read, and nothing else. -/
  held : reading.path.names = reading.names
  depth : reading.path.depth = reading.outer.length
  /-- Names come from the start or from an include, normalised once or twice. -/
  source : ∀ name ∈ reading.names, name = DomainName.normalize domain ∨
    ∃ target ∈ inclusions zone, name = DomainName.normalize (DomainName.normalize target)

/-- What a policy being read includes is included by a text of the zone. -/
theorem Reading.Sound.target_mem (sound : reading.Sound zone domain)
    (reached : reading.Reached zone options term path) (read : Term.readInclusion term = .ok fields) :
    fields.target ∈ inclusions zone :=
  Zone.target_mem_inclusions sound.text reached.mem read

theorem Underway.sound (underway : Underway zone options domain reading) :
    reading.Sound zone domain := by
  induction underway with
  | root found =>
    constructor
    · exact found
    · rfl
    · rfl
    · intro name member
      exact .inl (List.mem_singleton.mp member)
  | inside outer reached read entered found ih =>
    have target := ih.target_mem reached read
    obtain ⟨-, -, rfl⟩ := IncludePath.enter_eq_ok_iff.mp entered
    rw [reached.path_eq]
    constructor
    · exact found
    · exact congrArg _ ih.held
    · exact congrArg (· + 1) ih.depth
    · intro name member
      rcases List.mem_cons.mp member with rfl | member
      · exact .inr ⟨_, target, rfl⟩
      · exact ih.source name member

/-- The names being read are in normal form, up to their dots. -/
theorem Reading.Sound.normal (sound : reading.Sound zone domain) {name : String}
    (member : name ∈ reading.names) : ∃ source, name = DomainName.normalize source := by
  rcases sound.source name member with rfl | ⟨target, -, rfl⟩
  · exact ⟨domain, rfl⟩
  · exact ⟨DomainName.normalize target, rfl⟩

end SenderPolicy.Lookup

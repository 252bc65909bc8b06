import SenderPolicy.Record

/-! # The first match

Matching goes down into an include and comes back from it without a match. What it finds is found as
well in one scan of the directives that are no includes, in the order of the texts: the first of them
that covers the address decides, and the includes around it stand before it in the trail.
-/

namespace SenderPolicy

/-- A directive that is no include, and the texts of the includes around it, the outermost first. -/
structure Entry where
  enclosing : List String
  directive : Directive

/-- Whether a mechanism covers an address by itself. -/
def Mechanism.reaches (address : Address) : Mechanism → Bool
  | .host _ _ _ networks => networks.any (·.contains address)
  | .ip network => network.contains address
  | .inclusion .. => false
  | .all => true

namespace Entry

def covers (entry : Entry) (address : Address) : Bool := entry.directive.mechanism.reaches address

def trail (entry : Entry) : List String := entry.enclosing ++ [entry.directive.text]

end Entry

mutual

/-- The directives that are no includes, at this one or below it. -/
def Directive.entries (enclosing : List String) : Directive → List Entry
  | ⟨qualifier, text, mechanism⟩ =>
      match mechanism with
      | .inclusion _ policy => policy.entries (enclosing ++ [text])
      | .host kind domain lengths networks =>
          [⟨enclosing, qualifier, text, .host kind domain lengths networks⟩]
      | .ip network => [⟨enclosing, qualifier, text, .ip network⟩]
      | .all => [⟨enclosing, qualifier, text, .all⟩]

/-- The directives of a policy that are no includes, in the order of the texts. -/
def Policy.entries (enclosing : List String) : Policy → List Entry
  | ⟨_, _, directives⟩ => entriesOf enclosing directives

def entriesOf (enclosing : List String) : List Directive → List Entry
  | [] => []
  | directive :: rest => directive.entries enclosing ++ entriesOf enclosing rest

end

/-- The texts around a trail come before it, unless it is no match. -/
def trailWithin (enclosing : List String) : List String → Option (List String)
  | [] => none
  | text :: nested => some (enclosing ++ text :: nested)

/-- An include adds its text to what matches inside of it. -/
theorem trailWithin_append (enclosing trail : List String) (text : String) :
    trailWithin (enclosing ++ [text]) trail =
      trailWithin enclosing (match trail with | [] => [] | nested => text :: nested) := by
  cases trail with
  | nil => rfl
  | cons inner nested => simp [trailWithin]

/-- One entry is scanned by asking whether it covers the address. -/
theorem find?_entry (entry : Entry) (address : Address) :
    ([entry].find? (·.covers address)).map Entry.trail =
      trailWithin entry.enclosing (if entry.covers address then [entry.directive.text] else []) := by
  cases covered : entry.covers address <;> simp [covered, trailWithin, Entry.trail]

mutual

/-- The scan of a directive finds the trail that it leaves. -/
theorem Directive.find?_entries (address : Address) (enclosing : List String) :
    (directive : Directive) →
      ((directive.entries enclosing).find? (·.covers address)).map Entry.trail =
        trailWithin enclosing (directive.trail address)
  | ⟨_, _, .host ..⟩ => find?_entry _ address
  | ⟨_, _, .ip _⟩ => find?_entry _ address
  | ⟨_, _, .all⟩ => find?_entry _ address
  | ⟨_, text, .inclusion _ policy⟩ => by
      have below := policy.find?_entries address (enclosing ++ [text])
      rw [trailWithin_append] at below
      exact below

theorem Policy.find?_entries (address : Address) (enclosing : List String) :
    (policy : Policy) →
      ((policy.entries enclosing).find? (·.covers address)).map Entry.trail =
        trailWithin enclosing (policy.trail address)
  | ⟨_, _, directives⟩ => find?_entriesOf address enclosing directives

theorem find?_entriesOf (address : Address) (enclosing : List String) :
    (directives : List Directive) →
      ((entriesOf enclosing directives).find? (·.covers address)).map Entry.trail =
        trailWithin enclosing (firstTrail address directives)
  | [] => rfl
  | directive :: rest => by
      have first := directive.find?_entries address enclosing
      have others := find?_entriesOf address enclosing rest
      rw [entriesOf, List.find?_append, firstTrail]
      cases left : directive.trail address with
      | nil =>
        rw [left, trailWithin, Option.map_eq_none_iff] at first
        rw [first]
        exact others
      | cons text nested =>
        rw [left] at first
        obtain ⟨entry, found, trail⟩ := Option.map_eq_some_iff.mp first
        rw [found, Option.some_or, Option.map_some, trail]
        rfl

end

mutual

/-- No entry is an include. -/
theorem Directive.keyword_of_mem_entries {entry : Entry} (enclosing : List String) :
    (directive : Directive) → entry ∈ directive.entries enclosing →
      entry.directive.mechanism.keyword ≠ .inclusion
  | ⟨_, _, .host ..⟩, member => by
      rw [List.mem_singleton.mp member]
      exact nofun
  | ⟨_, _, .ip _⟩, member => by
      rw [List.mem_singleton.mp member]
      exact nofun
  | ⟨_, _, .all⟩, member => by
      rw [List.mem_singleton.mp member]
      exact nofun
  | ⟨_, text, .inclusion _ policy⟩, member =>
      policy.keyword_of_mem_entries (enclosing ++ [text]) member

theorem Policy.keyword_of_mem_entries {entry : Entry} (enclosing : List String) :
    (policy : Policy) → entry ∈ policy.entries enclosing →
      entry.directive.mechanism.keyword ≠ .inclusion
  | ⟨_, _, directives⟩, member => keyword_of_mem_entriesOf enclosing directives member

theorem keyword_of_mem_entriesOf {entry : Entry} (enclosing : List String) :
    (directives : List Directive) → entry ∈ entriesOf enclosing directives →
      entry.directive.mechanism.keyword ≠ .inclusion
  | directive :: rest, member => by
      rcases List.mem_append.mp member with member | member
      · exact directive.keyword_of_mem_entries enclosing member
      · exact keyword_of_mem_entriesOf enclosing rest member

end

/-- A trail starts with the text of the directive that leaves it. -/
theorem Directive.head?_trail {directive : Directive} {address : Address}
    (matched : directive.trail address ≠ []) :
    (directive.trail address).head? = some directive.text := by
  obtain ⟨qualifier, text, mechanism⟩ := directive
  cases mechanism with
  | host kind domain lengths networks =>
    simp only [trail] at matched ⊢
    split at matched
    · next covered => rw [if_pos covered]; rfl
    · contradiction
  | ip network =>
    simp only [trail] at matched ⊢
    split at matched
    · next covered => rw [if_pos covered]; rfl
    · contradiction
  | inclusion domain policy =>
    simp only [trail] at matched ⊢
    split at matched
    · contradiction
    · rfl
  | all => rfl

/-- The directive that decides is the first that leaves a trail. -/
theorem Policy.matched?_eq_some_iff {policy : Policy} {address : Address} {directive : Directive} :
    policy.matched? address = some directive ↔
      directive.trail address ≠ [] ∧ ∃ before after, policy.directives = before ++ directive :: after ∧
        ∀ earlier ∈ before, earlier.trail address = [] := by
  simp [Policy.matched?, List.find?_eq_some_iff_append, Directive.covers]

/-- Some directive decides unless the trail is empty, and the trail starts with its text. -/
theorem Policy.matched?_eq_none_iff {policy : Policy} {address : Address} :
    policy.matched? address = none ↔ policy.trail address = [] := by
  rw [policy.trail_eq_matched?]
  cases found : policy.matched? address with
  | none => simp
  | some directive =>
    have matched := (Policy.matched?_eq_some_iff.mp found).1
    simpa using matched

theorem Policy.head?_trail {policy : Policy} {address : Address} {directive : Directive}
    (found : policy.matched? address = some directive) :
    (policy.trail address).head? = some directive.text := by
  rw [policy.trail_eq_matched?, found]
  exact Directive.head?_trail (Policy.matched?_eq_some_iff.mp found).1

/-- The trail of a directive is that of its first entry which covers the address. -/
theorem Directive.trail_eq_find?_entries (directive : Directive) (address : Address) :
    directive.trail address =
      (((directive.entries []).find? (·.covers address)).map Entry.trail).getD [] := by
  rw [directive.find?_entries]
  cases directive.trail address <;> rfl

/-- The trail of a policy is that of its first entry which covers the address. -/
theorem Policy.trail_eq_find?_entries (policy : Policy) (address : Address) :
    policy.trail address =
      (((policy.entries []).find? (·.covers address)).map Entry.trail).getD [] := by
  rw [policy.find?_entries]
  cases policy.trail address <;> rfl

namespace Record

/-- A policy that is looked up is the policy of its record. -/
@[simp] theorem policy?_ofPolicy (policy : Policy) : (ofPolicy policy).policy? = some policy := by
  cases policy
  rfl

/-- A record that has been read answers as its policy does. -/
theorem evaluate_of_policy? {record : Record} {policy : Policy} (built : record.policy? = some policy)
    (address : Address) : record.evaluate address = .ok (policy.trail address) ∧
      record.matched? address = .ok (policy.matched? address) := by
  rw [evaluate, matched?, requirePolicy, built]
  exact ⟨rfl, rfl⟩

/-- A record that has been read evaluates to the trail of the first entry that covers the address. The
directive that decides is the first that leaves a trail; its text is the first of the trail, and there
is no such directive where the trail is empty. -/
theorem evaluate_eq_first_entry {record : Record} {policy : Policy}
    (built : record.policy? = some policy) (address : Address) :
    (∀ entry ∈ policy.entries [], entry.directive.mechanism.keyword ≠ .inclusion) ∧
    ∃ trail matched?, record.evaluate address = .ok trail ∧ record.matched? address = .ok matched? ∧
      trail = (((policy.entries []).find? (·.covers address)).map Entry.trail).getD [] ∧
      (∀ directive, matched? = some directive ↔
        directive.trail address ≠ [] ∧
          ∃ before after, policy.directives = before ++ directive :: after ∧
            ∀ earlier ∈ before, earlier.trail address = []) ∧
      (matched? = none ↔ trail = []) ∧
      ∀ directive, matched? = some directive → trail.head? = some directive.text := by
  obtain ⟨evaluated, decided⟩ := evaluate_of_policy? built address
  refine ⟨fun entry => policy.keyword_of_mem_entries [], _, _, evaluated, decided, ?_, ?_, ?_, ?_⟩
  · exact policy.trail_eq_find?_entries address
  · exact fun directive => Policy.matched?_eq_some_iff
  · exact Policy.matched?_eq_none_iff
  · exact fun directive => Policy.head?_trail

/-- A record whose first directive includes a policy of one network. -/
def nested : Record :=
  .ofPolicy ⟨"a", "v=spf1 include:b -all", [
    ⟨.pass, "include:b", .inclusion "b" ⟨"b", "v=spf1 ip4:10.0.0.0/8",
      [⟨.pass, "ip4:10.0.0.0/8", .ip (.v4 0x0A000000#32 8)⟩]⟩⟩,
    ⟨.fail, "-all", .all⟩]⟩

theorem evaluate_nested :
    nested.evaluate (.v4 0x0A000001#32) = .ok ["include:b", "ip4:10.0.0.0/8"] ∧
    nested.evaluate (.v4 0x0B000001#32) = .ok ["-all"] := by
  have built := policy?_ofPolicy ⟨"a", "v=spf1 include:b -all", nested.directives?.getD []⟩
  change nested.policy? = _ at built
  constructor
  · obtain ⟨-, trail, matched?, evaluated, -, scanned, -⟩ :=
      evaluate_eq_first_entry built (.v4 0x0A000001#32)
    rw [evaluated, scanned]
    rfl
  · obtain ⟨-, trail, matched?, evaluated, -, scanned, -⟩ :=
      evaluate_eq_first_entry built (.v4 0x0B000001#32)
    rw [evaluated, scanned]
    rfl

end Record

end SenderPolicy

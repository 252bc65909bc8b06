import SenderPolicy.Proofs.Lookup.Termination

/-! # What counts as a loop

An include is a loop if the policy that it refers to is being read already. The check compares names
that are normalised once more than the names that are read, and normalising takes one dot off the end of
a name each time. So the check is exact among names without a dot at their end. In front of other names
it may overlook a loop, and it may take a name for the one with a dot more.
-/

namespace SenderPolicy.Lookup

def RefusedAsLoop (options : Options) (path : IncludePath) (target : String) : Prop :=
  path.enter options.maxIncludeDepth (DomainName.normalize target) =
    .error (.inclusionLoop (DomainName.normalize target))

variable {zone : Zone} {options : Options} {domain term : String} {reading : Reading}
  {path : IncludePath} {fields : Term.InclusionTerm}

/-- The check refuses an include when the name that would be read is being read with one more dot, or
without any. -/
theorem Reading.Sound.refusedAsLoop_iff (sound : reading.Sound zone domain)
    (reached : reading.Reached zone options term path) {target name : String}
    (name_eq : name = DomainName.normalize (DomainName.normalize target)) :
    RefusedAsLoop options path target ↔
      name ++ "." ∈ reading.names ∨ name ∈ reading.names ∧ DomainName.trailingDots name = 0 := by
  rw [RefusedAsLoop, IncludePath.enter_eq_loop_iff, IncludePath.holds_iff, reached.path_eq, sound.held,
    ← name_eq]
  constructor
  · rintro ⟨outer, member, same⟩
    obtain ⟨source, rfl⟩ := sound.normal member
    rcases DomainName.normalize_normalize_eq_iff.mp same with longer | ⟨equal, none⟩
    · exact .inl (longer ▸ member)
    · exact .inr ⟨equal ▸ member, none⟩
  · rintro (longer | ⟨member, none⟩)
    · obtain ⟨source, shape⟩ := sound.normal longer
      refine ⟨_, longer, ?_⟩
      rw [shape]
      exact DomainName.normalize_normalize_eq_iff.mpr (.inl shape.symm)
    · obtain ⟨source, shape⟩ := sound.normal member
      refine ⟨_, member, ?_⟩
      rw [shape]
      exact DomainName.normalize_normalize_eq_iff.mpr (.inr ⟨rfl, shape ▸ none⟩)

/-- The check is the one for a loop where it neither overlooks the name itself nor takes it for the name
with a dot more. -/
theorem Reading.Sound.refusedAsLoop_iff_mem_iff (sound : reading.Sound zone domain)
    (reached : reading.Reached zone options term path) {target name : String}
    (name_eq : name = DomainName.normalize (DomainName.normalize target)) :
    (RefusedAsLoop options path target ↔ name ∈ reading.names) ↔
      ¬(name ∈ reading.names ∧ name ++ "." ∉ reading.names ∧ DomainName.trailingDots name ≠ 0) ∧
      ¬(name ∉ reading.names ∧ name ++ "." ∈ reading.names) := by
  have check := sound.refusedAsLoop_iff reached name_eq
  constructor
  · intro law
    constructor
    · rintro ⟨member, noLonger, dots⟩
      rcases check.mp (law.mpr member) with longer | ⟨-, none⟩
      · exact noLonger longer
      · exact dots none
    · rintro ⟨absent, longer⟩
      exact absent (law.mp (check.mpr (.inl longer)))
  · rintro ⟨overlooked, mistaken⟩
    constructor
    · intro refused
      rcases check.mp refused with longer | ⟨member, -⟩
      · by_contra absent
        exact mistaken ⟨absent, longer⟩
      · exact member
    · intro member
      by_contra passed
      refine overlooked ⟨member, fun longer => ?_, fun none => ?_⟩
      · exact passed (check.mpr (.inl longer))
      · exact passed (check.mpr (.inr ⟨member, none⟩))

/-- From a start with at most one dot at its end, all names that are read end in none. -/
theorem Reading.Sound.trailingDots_eq_zero (sound : reading.Sound zone domain)
    (start : DomainName.trailingDots domain ≤ 1) (few : FewDots zone) {name : String}
    (member : name ∈ reading.names) : DomainName.trailingDots name = 0 := by
  rcases sound.source name member with rfl | ⟨target, included, rfl⟩
  · rw [DomainName.trailingDots_normalize]
    omega
  · have dots := few target included
    rw [DomainName.trailingDots_normalize, DomainName.trailingDots_normalize]
    omega

/-- Among names without a dot at their end the check is the one for a loop. -/
theorem Reading.Sound.refusedAsLoop_iff_mem (sound : reading.Sound zone domain)
    (reached : reading.Reached zone options term path) (start : DomainName.trailingDots domain ≤ 1)
    (few : FewDots zone) {target name : String}
    (name_eq : name = DomainName.normalize (DomainName.normalize target)) :
    RefusedAsLoop options path target ↔ name ∈ reading.names := by
  rw [sound.refusedAsLoop_iff reached name_eq]
  constructor
  · rintro (longer | ⟨member, -⟩)
    · have none := sound.trailingDots_eq_zero start few longer
      rw [DomainName.trailingDots_append_dot] at none
      exact absurd none (Nat.succ_ne_zero _)
    · exact member
  · intro member
    exact .inr ⟨member, sound.trailingDots_eq_zero start few member⟩

/-- An include that is refused as a loop asks nothing. -/
theorem RefusedAsLoop.ofTerm? (refused : RefusedAsLoop options path fields.target)
    (read : Term.readInclusion term = .ok fields) (nested : String → Inquiry Policy) (name : String) :
    Directive.ofTerm? zone options nested name term path =
      ⟨.failed (.inclusionLoop (DomainName.normalize fields.target)), path, []⟩ := by
  rw [Directive.ofTerm?_of_readInclusion read, Inquiry.map_apply, Inquiry.inside, refused]
  rfl

/-- What is refused as a loop stops the look-up. -/
theorem RefusedAsLoop.lookup_failed (refused : RefusedAsLoop options path fields.target)
    (underway : Underway zone options domain reading)
    (reached : reading.Reached zone options term path) (read : Term.readInclusion term = .ok fields) :
    (lookup zone options domain).outcome =
      .failed (.inclusionLoop (DomainName.normalize fields.target)) := by
  apply underway.lookup_failed
  apply reached.stops 0
  rw [refused.ofTerm? read]
  rfl

/-- When the check of an include is the check for a loop. It overlooks a loop through a name with a dot
at its end, unless the name with a dot more is being read as well; and it sees a loop where only the
name with a dot more is being read. Neither happens from a start with at most one dot at its end, if no
text includes a domain with three or more. What the check refuses is refused before anything is asked
about it, and is the error of the look-up. -/
theorem refusedAsLoop_iff_of_reached (underway : Underway zone options domain reading)
    (reached : reading.Reached zone options term path) (read : Term.readInclusion term = .ok fields)
    {name : String} (name_eq : name = DomainName.normalize (DomainName.normalize fields.target)) :
    (RefusedAsLoop options path fields.target ↔
      name ++ "." ∈ reading.names ∨ name ∈ reading.names ∧ DomainName.trailingDots name = 0) ∧
    ((RefusedAsLoop options path fields.target ↔ name ∈ reading.names) ↔
      ¬(name ∈ reading.names ∧ name ++ "." ∉ reading.names ∧ DomainName.trailingDots name ≠ 0) ∧
      ¬(name ∉ reading.names ∧ name ++ "." ∈ reading.names)) ∧
    (DomainName.trailingDots domain ≤ 1 →
      (∀ target ∈ inclusions zone, DomainName.trailingDots target ≤ 2) →
      (RefusedAsLoop options path fields.target ↔ name ∈ reading.names)) ∧
    (RefusedAsLoop options path fields.target →
      (∀ nested, Directive.ofTerm? zone options nested reading.name term path =
        ⟨.failed (.inclusionLoop (DomainName.normalize fields.target)), path, []⟩) ∧
      (lookup zone options domain).outcome =
        .failed (.inclusionLoop (DomainName.normalize fields.target))) := by
  have sound := underway.sound
  refine ⟨sound.refusedAsLoop_iff reached name_eq, sound.refusedAsLoop_iff_mem_iff reached name_eq,
    fun start few => sound.refusedAsLoop_iff_mem reached start few name_eq, fun refused => ?_⟩
  exact ⟨fun nested => refused.ofTerm? read nested reading.name,
    refused.lookup_failed underway reached read⟩

/-- The second of two domains that include each other, inside of the first. -/
def innerReading : Reading :=
  (Reading.ofRoot "a" "v=spf1 include:B.").inside "B." "v=spf1 include:a.. -all"
    ((IncludePath.ofRoot "a").extend "b")

theorem refusedAsLoop_iff_of_reached_mutual :
    Underway mutualZone {} "a" innerReading ∧
    innerReading.Reached mutualZone {} "include:a.." innerReading.path ∧
    RefusedAsLoop {} innerReading.path "a.." ∧
    (lookup mutualZone {} "a").outcome = .failed (.inclusionLoop "a.") := by
  have outer : Term.readInclusion "include:B." = .ok ⟨.pass, "B."⟩ := by rfl
  have found : mutualZone.policyText? (DomainName.normalize (DomainName.normalize "B.")) =
      some "v=spf1 include:a.. -all" := by decide +kernel
  have within := underway_mutual.inside reached_mutual outer enter_mutual found
  change Underway mutualZone {} "a" innerReading at within
  have reached : innerReading.Reached mutualZone {} "include:a.." innerReading.path :=
    .first ["-all"] (by decide +kernel)
  have read : Term.readInclusion "include:a.." = .ok ⟨.pass, "a.."⟩ := by rfl
  have name_eq : "a" = DomainName.normalize (DomainName.normalize "a..") := by decide +kernel
  have check := refusedAsLoop_iff_of_reached within reached read name_eq
  have refused := check.1.mpr (.inr (by decide +kernel))
  exact ⟨within, reached, refused, (check.2.2.2 refused).2⟩

/-- A domain with a dot at its end whose policy includes it, with the dots that lead back to it. -/
def dottedZone : Zone :=
  (({} : Zone).setTxt "r" ["v=spf1 include:b..."]).setTxt "b." ["v=spf1 include:b..."]

/-- Not every loop is refused as one. -/
theorem loop_overlooked :
    ¬∀ (zone : Zone) (options : Options) (domain : String) (reading : Reading) (term : String)
      (path : IncludePath) (fields : Term.InclusionTerm), Underway zone options domain reading →
      reading.Reached zone options term path → Term.readInclusion term = .ok fields →
      (RefusedAsLoop options path fields.target ↔
        DomainName.normalize (DomainName.normalize fields.target) ∈ reading.names) := by
  intro law
  have read : Term.readInclusion "include:b..." = .ok ⟨.pass, "b..."⟩ := by rfl
  have start : Underway dottedZone ⟨false, some 3⟩ "r" (.ofRoot "r" "v=spf1 include:b...") :=
    .root (by decide +kernel)
  have reached : (Reading.ofRoot "r" "v=spf1 include:b...").Reached dottedZone ⟨false, some 3⟩
      "include:b..." (.ofRoot "r") := .first [] (by decide +kernel)
  have entered : (IncludePath.ofRoot "r").enter (some 3) (DomainName.normalize "b...") =
      .ok ((IncludePath.ofRoot "r").extend "b..") := by rfl
  have found : dottedZone.policyText? (DomainName.normalize (DomainName.normalize "b...")) =
      some "v=spf1 include:b..." := by decide +kernel
  have within := start.inside reached read entered found
  have again : Reading.Reached dottedZone ⟨false, some 3⟩
      ((Reading.ofRoot "r" "v=spf1 include:b...").inside "b..." "v=spf1 include:b..."
        ((IncludePath.ofRoot "r").extend "b.."))
      "include:b..." ((IncludePath.ofRoot "r").extend "b..") :=
    .first [] (by decide +kernel)
  have refused := (law _ _ _ _ _ _ _ within again read).mpr (by decide +kernel)
  rw [RefusedAsLoop, IncludePath.enter_eq_loop_iff] at refused
  revert refused
  decide +kernel

end SenderPolicy.Lookup

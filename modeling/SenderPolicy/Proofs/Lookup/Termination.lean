import SenderPolicy.DomainName
import SenderPolicy.Proofs.Lookup.Underway

/-! # Look-ups end

A normal form still ends in a dot when the name ended in several. A limit on the depth ends every
look-up. Without one, what can still be entered gets less with each include, as long as no text includes a
domain with three dots at its end or more: then the name that is read inside of an include has settled, so
the path holds it as soon as it is entered.
-/

namespace SenderPolicy

namespace DomainName

open Text

theorem dropRootDot_eq_iff {cs ds : List Char} :
    dropRootDot cs = ds ↔ cs = ds ++ ['.'] ∨ cs = ds ∧ dotsAtEnd ds = 0 := by
  constructor
  · rintro rfl
    rcases List.eq_nil_or_concat cs with rfl | ⟨front, last, rfl⟩
    · exact .inr ⟨rfl, rfl⟩
    · rw [List.concat_eq_append]
      by_cases dot : last = '.'
      · subst dot
        exact .inl (by rw [dropRootDot_append_dot])
      · rw [dropRootDot_append_other dot]
        exact .inr ⟨rfl, dotsAtEnd_append_other dot front⟩
  · rintro (rfl | ⟨rfl, none⟩)
    · exact dropRootDot_append_dot ds
    · exact dropRootDot_of_dotsAtEnd_eq_zero none

/-- Normal forms have no ASCII capitals left. -/
theorem map_toLower_normalize (name : String) :
    (normalize name).toList.map Char.toLower = (normalize name).toList := by
  rw [toList_normalize, ← dropRootDot_map_toLower, List.map_map]
  exact congrArg dropRootDot (List.map_congr_left fun c _ => toLower_toLower c)

/-- A normal form normalises to a name when it is that name with one more dot, or that name without
any. -/
theorem normalize_normalize_eq_iff {name other : String} :
    normalize (normalize name) = other ↔
      normalize name = other ++ "." ∨ normalize name = other ∧ trailingDots other = 0 := by
  rw [← String.toList_inj, toList_normalize (normalize name), map_toLower_normalize,
    dropRootDot_eq_iff, ← String.toList_inj, ← String.toList_inj, String.toList_append]
  rfl

theorem trailingDots_append_dot (name : String) :
    trailingDots (name ++ ".") = trailingDots name + 1 := by
  rw [trailingDots, String.toList_append]
  exact dotsAtEnd_append_dot name.toList

end DomainName

namespace Lookup

/-- The names whose policies are read inside of the includes of a zone. -/
def includedNames (zone : Zone) : Finset String :=
  ((inclusions zone).map fun target => DomainName.normalize (DomainName.normalize target)).toFinset

theorem mem_includedNames {zone : Zone} {target : String} (included : target ∈ inclusions zone) :
    DomainName.normalize (DomainName.normalize target) ∈ includedNames zone :=
  List.mem_toFinset.mpr (List.mem_map_of_mem included)

variable {zone : Zone} {options : Options} {domain : String} {path : IncludePath}

/-- No text includes a domain with more than two dots at its end. -/
def FewDots (zone : Zone) : Prop := ∀ target ∈ inclusions zone, DomainName.trailingDots target ≤ 2

/-- The name that is read inside of an include has settled. -/
theorem FewDots.settled (few : FewDots zone) {target : String} (included : target ∈ inclusions zone) :
    DomainName.normalize (DomainName.normalize (DomainName.normalize target)) =
      DomainName.normalize (DomainName.normalize target) := by
  apply DomainName.normalize_normalize
  have dots := few target included
  rw [DomainName.trailingDots_normalize]
  omega

/-- Each include that is entered leaves fewer names to read. -/
theorem FewDots.card_free_lt (few : FewDots zone) {target : String}
    (included : target ∈ inclusions zone)
    (unheld : path.holds (DomainName.normalize target) = false) :
    ((path.extend (DomainName.normalize target)).free (includedNames zone)).card <
      (path.free (includedNames zone)).card := by
  have settled := few.settled included
  apply IncludePath.card_free_extend_lt (mem_includedNames included)
  · rw [IncludePath.holds_normalize path settled]
    exact unheld
  · rw [IncludePath.holds_normalize _ settled]
    exact IncludePath.holds_extend_self path settled

/-- A look-up ends once its room passes the names that are left. -/
theorem FewDots.policyWithin_ends (few : FewDots zone) {room : Nat}
    (enough : (path.free (includedNames zone)).card < room) :
    (policyWithin zone options room domain path).outcome ≠ .unending := by
  induction room generalizing domain path with
  | zero => omega
  | succ room ih =>
    intro unending
    obtain ⟨raw, before, term, after, fields, inner, found, terms, -, read, entered, nested⟩ :=
      policyWithin_unending_cases unending
    obtain ⟨unheld, -, rfl⟩ := IncludePath.enter_eq_ok_iff.mp entered
    have member : term ∈ PolicyText.terms raw := by rw [terms]; simp
    have fewer := few.card_free_lt (Zone.target_mem_inclusions found member read) unheld
    exact ih (by omega) nested

theorem FewDots.lookup_ends (few : FewDots zone) (options : Options) (domain : String) :
    (lookup zone options domain).outcome ≠ .unending :=
  policyWithin_room_ends (few.policyWithin_ends (Nat.lt_succ_self _))

/-- The names around a policy and those that are left fit into the zone. -/
theorem Underway.nesting_le (few : FewDots zone) {reading : Reading}
    (underway : Underway zone options domain reading) :
    reading.outer.length + (reading.path.free (includedNames zone)).card ≤
      (includedNames zone).card := by
  induction underway with
  | root found =>
    have bound := IncludePath.card_free_le (.ofRoot domain) (includedNames zone)
    simpa [Reading.ofRoot] using bound
  | @inside reading _ _ _ _ _ outer reached read entered found ih =>
    have included := outer.sound.target_mem reached read
    obtain ⟨unheld, -, rfl⟩ := IncludePath.enter_eq_ok_iff.mp entered
    have here := reached.path_eq
    subst here
    have fewer := few.card_free_lt included unheld
    simp only [Reading.inside, Reading.names, List.length_cons]
    omega

/-- A look-up under a limit ends. Without one it ends if no text includes a domain with three dots at
its end or more, and then no more includes are entered inside each other than there are names in
them. -/
theorem lookup_terminates (zone : Zone) (options : Options) (domain : String) :
    (options.maxIncludeDepth ≠ none → (lookup zone options domain).outcome ≠ .unending) ∧
    ((∀ target ∈ inclusions zone, DomainName.trailingDots target ≤ 2) →
      (lookup zone options domain).outcome ≠ .unending ∧
      policyWithin zone options ((includedNames zone).card + 1) domain (.ofRoot domain) =
        lookup zone options domain ∧
      ∀ reading term path fields inner, Underway zone options domain reading →
        reading.Reached zone options term path → Term.readInclusion term = .ok fields →
        path.enter options.maxIncludeDepth (DomainName.normalize fields.target) = .ok inner →
        inner.depth = reading.outer.length + 1 ∧ inner.depth ≤ (includedNames zone).card) := by
  constructor
  · intro limited
    obtain ⟨limit, given⟩ := Option.ne_none_iff_exists'.mp limited
    apply policyWithin_ends_of_limit given <;> simp only [room, given] <;> omega
  · intro few
    refine ⟨FewDots.lookup_ends few options domain, ?_, ?_⟩
    · apply policyWithin_eq_lookup
      apply FewDots.policyWithin_ends few
      exact Nat.lt_succ_of_le (IncludePath.card_free_le _ _)
    · intro reading term path fields inner underway reached read entered
      have sound := underway.sound
      have bound := underway.nesting_le few
      obtain ⟨unheld, -, rfl⟩ := IncludePath.enter_eq_ok_iff.mp entered
      rw [reached.path_eq] at unheld ⊢
      have fewer := FewDots.card_free_lt few (sound.target_mem reached read) unheld
      have depth : (reading.path.extend (DomainName.normalize fields.target)).depth =
          reading.outer.length + 1 := congrArg (· + 1) sound.depth
      rw [depth]
      omega

def mutualZone : Zone :=
  (({} : Zone).setTxt "a" ["v=spf1 include:B."]).setTxt "b" ["v=spf1 include:a.. -all"]

/-- The first of them is read, and its include is reached. -/
theorem underway_mutual : Underway mutualZone {} "a" (.ofRoot "a" "v=spf1 include:B.") :=
  .root (by decide +kernel)

theorem reached_mutual : (Reading.ofRoot "a" "v=spf1 include:B.").Reached mutualZone {} "include:B."
    (.ofRoot "a") :=
  .first [] (by decide +kernel)

theorem enter_mutual : (IncludePath.ofRoot "a").enter none (DomainName.normalize "B.") =
    .ok ((IncludePath.ofRoot "a").extend "b") := by
  rfl

theorem lookup_terminates_mutual :
    (∀ target ∈ inclusions mutualZone, DomainName.trailingDots target ≤ 2) ∧
    (lookup mutualZone {} "a").outcome ≠ .unending ∧
    ((IncludePath.ofRoot "a").extend "b").depth ≤ (includedNames mutualZone).card := by
  have few : ∀ target ∈ inclusions mutualZone, DomainName.trailingDots target ≤ 2 := by decide +kernel
  have ends := (lookup_terminates mutualZone {} "a").2 few
  refine ⟨few, ends.1, ?_⟩
  exact (ends.2.2 _ _ _ ⟨.pass, "B."⟩ _ underway_mutual reached_mutual (by rfl) enter_mutual).2

end Lookup

end SenderPolicy

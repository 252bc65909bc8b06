import SenderPolicy.Proofs.Lookup.Placement
import SenderPolicy.Proofs.Policy.Visits

/-! # Look-ups under a limit

A limit changes nothing about a look-up but where it ends: the look-up goes the same way as without the
limit, until it reaches an include that stands inside of as many others as are allowed. So its report is
that of a walk through the policy which stops at the first such include.
-/

namespace SenderPolicy

namespace Inquiry

variable {α β : Type} {limit : Nat} {path : IncludePath} {visits : List Visit}

/-- Makes a visit under a limit. An include inside of as many others as are allowed is refused. -/
def visit (limit : Nat) : Visit → Inquiry Unit
  | .question query => fun path => ⟨.done (), path, [query]⟩
  | .inclusion depth domain =>
      if depth = limit then fail (.inclusionTooDeep domain limit) else pure ()

/-- Makes visits under a limit, one after the other, and ends with a value. -/
def walk (limit : Nat) (value : α) : List Visit → Inquiry α
  | [] => pure value
  | first :: rest => do
      visit limit first
      walk limit value rest

/-- A walk may be cut anywhere; the value of its first part does not matter. -/
theorem walk_append (limit : Nat) (left right : List Visit) (given : α) (value : β) :
    walk limit value (left ++ right) = (do let _ ← walk limit given left; walk limit value right) := by
  induction left with
  | nil => rw [List.nil_append, walk, pure_bind]
  | cons first rest ih => rw [List.cons_append, walk, walk, ih, bind_assoc]

theorem map_walk (f : α → β) (limit : Nat) (value : α) (visits : List Visit) :
    f <$> walk limit value visits = walk limit (f value) visits := by
  induction visits with
  | nil => rw [walk, walk, map_pure]
  | cons first rest ih => rw [walk, walk, map_bind, ih]

theorem plain_visit (limit : Nat) (first : Visit) : (visit limit first).Plain := by
  cases first with
  | question query => exact ⟨.done (), [query], nofun, fun _ => rfl⟩
  | inclusion depth domain =>
    rw [visit]
    split
    · exact plain_fail _
    · exact plain_pure ()

theorem plain_walk (limit : Nat) (value : α) (visits : List Visit) : (walk limit value visits).Plain := by
  induction visits with
  | nil => exact plain_pure value
  | cons first rest ih => exact (plain_visit limit first).bind fun _ => ih

/-- Where no include is as deep as the limit, the walk comes to its end. -/
theorem walk_of_not_reaches (value : α) (shallow : ¬Reaches visits limit) (path : IncludePath) :
    walk limit value visits path = ⟨.done value, path, asked visits⟩ := by
  induction visits with
  | nil => rfl
  | cons first rest ih =>
    have after := ih fun ⟨domain, member⟩ => shallow ⟨domain, List.mem_cons_of_mem _ member⟩
    cases first with
    | question query =>
      have here : visit limit (.question query) path = ⟨.done (), path, [query]⟩ := rfl
      rw [walk, bind_apply_done here, after]
      rfl
    | inclusion depth domain =>
      have other : depth ≠ limit := by
        rintro rfl
        exact shallow ⟨domain, List.mem_cons_self⟩
      rw [walk, visit, if_neg other, pure_bind, after]
      rfl

/-- The first include that is as deep as the limit ends the walk, after the queries before it. -/
theorem walk_of_first_reached {before after : List Visit} {domain : String} (value : α)
    (shallow : ¬Reaches before limit) (path : IncludePath) :
    walk limit value (before ++ .inclusion limit domain :: after) path =
      ⟨.failed (.inclusionTooDeep domain limit), path, asked before⟩ := by
  rw [walk_append limit before _ (), bind_apply_done (walk_of_not_reaches () shallow path), walk, visit,
    if_pos rfl, fail_bind]
  simp [fail, stop]

/-- A walk that comes to its end does so with its value, where it started. -/
theorem eq_of_walk_eq_done {given value : α} {last : IncludePath} {queries : List Query}
    (done : walk limit given visits path = ⟨.done value, last, queries⟩) :
    value = given ∧ last = path := by
  have stays : (walk limit given visits path).path = path := (plain_walk limit given visits).balanced path
  rw [done] at stays
  rw [← map_walk (fun _ : Unit => given) limit () visits] at done
  obtain ⟨_, _, same⟩ := map_eq_done_iff.mp done
  exact ⟨same, stays⟩

/-- If each part of a sequence reports what a walk does, the whole reports what both walks do. -/
theorem bind_apply_eq_walk {first : Inquiry α} {next : α → Inquiry β} {given : α} {value : β}
    {more : List Visit} (here : first path = walk limit given visits path)
    (there : next given path = walk limit value more path) :
    (first >>= next) path = walk limit value (visits ++ more) path := by
  rw [walk_append limit visits more given value]
  rcases ran : walk limit given visits path with ⟨outcome, last, queries⟩
  rw [ran] at here
  cases outcome with
  | done other =>
    obtain ⟨rfl, rfl⟩ := eq_of_walk_eq_done ran
    rw [bind_apply_done here, bind_apply_done ran, there]
  | failed error => rw [bind_apply_failed here, bind_apply_failed ran]
  | unending => rw [bind_apply_unending here, bind_apply_unending ran]

/-- A walk does the same inside of an include and around it. -/
theorem inside_apply_eq_walk {inquiry : Inquiry α} {inner : IncludePath} {limit? : Option Nat}
    {domain : String} {value : α} (balanced : inquiry.Balanced)
    (entered : path.enter limit? domain = .ok inner)
    (within : inquiry inner = walk limit value visits inner) :
    inside limit? domain inquiry path = walk limit value visits path := by
  obtain ⟨outcome, queries, _, runs⟩ := plain_walk limit value visits
  rw [balanced.inside_apply entered, within, runs, runs]

end Inquiry

variable {zone : Zone} {strict : Bool} {limit : Nat} {nested limited : String → Inquiry Policy}
  {domain term : String} {path : IncludePath} {queries : List Query}

open Inquiry

namespace Directive

/-- What is found without a limit is what the walk through it comes to under the limit. -/
def FoundByWalk (zone : Zone) (limit : Nat) (nested limited : String → Inquiry Policy) : Prop :=
  ∀ name path policy queries, path.depth ≤ limit → nested name path = ⟨.done policy, path, queries⟩ →
    limited name path = walk limit policy (policy.visits zone path.depth) path

/-- Under the limit, a term reports what the walk through its directive does. -/
theorem Built.walk (within : FoundByWalk zone limit nested limited)
    (balanced : ∀ name, (limited name).Balanced) (shallow : path.depth ≤ limit)
    {first : Option Directive}
    (built : Built zone ⟨strict, none⟩ nested domain path term first queries) :
    ofTerm? zone ⟨strict, some limit⟩ limited domain term path =
      Inquiry.walk limit first (visitsOf zone path.depth first.toList) path := by
  cases built with
  | skipped found lenient => exact Built.done balanced (.skipped found lenient)
  | host found read name_eq answered made =>
    have same : Built zone ⟨strict, some limit⟩ limited domain path term (some _) queries :=
      .host found read name_eq answered made
    rw [same.done balanced, queries_of_hostAddresses answered, Option.toList_some, visitsOf_singleton,
      visits, walk_of_not_reaches _ (not_reaches_map_question _ _), asked_map_question]
  | literal found read => exact Built.done balanced (.literal found read)
  | all found read => exact Built.done balanced (.all found read)
  | @inclusion fields inner policy _ read entered found =>
    obtain ⟨free, rfl⟩ := IncludePath.enter_none_eq_ok_iff.mp entered
    have way : (ofIncluded term fields policy).visits zone path.depth =
        .inclusion path.depth (DomainName.normalize fields.target) ::
          policy.visits zone (path.depth + 1) := by
      rw [ofIncluded, visits]
    rw [ofTerm?_of_readInclusion read, Option.toList_some, visitsOf_singleton, way]
    -- Only here does the limit tell: below it the include is entered, and at it the include is refused.
    rcases Nat.lt_or_eq_of_le shallow with unspent | spent
    · have deeper := IncludePath.enter_some_eq_ok_iff.mpr ⟨free, unspent, rfl⟩
      have below := within _ _ _ _ (Nat.succ_le_of_lt unspent) found
      have around := inside_apply_eq_walk (balanced _) deeper below
      rw [Inquiry.walk, visit, if_neg unspent.ne, pure_bind, map_apply, around, ← map_apply, map_walk]
      rfl
    · have refused := IncludePath.enter_eq_tooDeep_iff.mpr ⟨free, spent.ge⟩
      rw [Inquiry.walk, visit, if_pos spent, fail_bind, map_apply, Inquiry.inside, refused]
      rfl

/-- Under the limit, terms report what the walk through their directives does. -/
theorem BuiltAll.walk (within : FoundByWalk zone limit nested limited)
    (balanced : ∀ name, (limited name).Balanced) (shallow : path.depth ≤ limit)
    {terms : List String} {directives : List Directive}
    (built : BuiltAll zone ⟨strict, none⟩ nested domain path terms directives queries) :
    ofTerms zone ⟨strict, some limit⟩ limited domain terms path =
      Inquiry.walk limit directives (visitsOf zone path.depth directives) path := by
  induction built with
  | nil => rfl
  | @cons term rest first others asked more here after ih =>
    rw [visitsOf_append, ofTerms]
    apply bind_apply_eq_walk (here.walk within balanced shallow)
    rw [← map_eq_pure_bind, map_apply, ih, ← map_walk, map_apply]

end Directive

namespace Lookup

/-- Under a limit that is not used up, a policy that is found without it reports what the walk through it
does. -/
theorem foundByWalk_policyWithin (zone : Zone) (strict : Bool) (limit room : Nat) :
    Directive.FoundByWalk zone limit (policyWithin zone ⟨strict, none⟩ room)
      (policyWithin zone ⟨strict, some limit⟩ room) := by
  induction room with
  | zero => intro name path policy queries _ done; cases done
  | succ room ih =>
    intro name path policy queries shallow done
    obtain ⟨raw, directives, asked, found, built, rfl, -, -⟩ := policyWithin_eq_done_iff.mp done
    have balanced := balanced_policyWithin zone ⟨strict, some limit⟩ room
    have text : policyText zone (DomainName.normalize name) path =
        walk limit raw [.question (.about .txt (DomainName.normalize name))] path :=
      policyText_eq_done_iff.mpr ⟨found, rfl, rfl⟩
    rw [policyWithin, Policy.visits]
    apply bind_apply_eq_walk text
    rw [Directive.ofText, if_pos (Zone.isPolicy_of_policyText? found), ← map_eq_pure_bind, map_apply,
      built.walk ih balanced shallow, ← map_walk, map_apply]

/-- A look-up under a limit reports what the walk through the policy does that is found without one. -/
theorem lookup_eq_walk {policy : Policy}
    (done : (lookup zone ⟨strict, none⟩ domain).outcome = .done policy) (limit : Nat) :
    lookup zone ⟨strict, some limit⟩ domain =
      walk limit policy (policy.visits zone 0) (.ofRoot domain) := by
  obtain ⟨room, queries, found⟩ := exists_policyWithin_of_lookup done
  have walked := foundByWalk_policyWithin zone strict limit room _ _ _ _ (Nat.zero_le limit) found
  exact lookup_eq_of_policyWithin walked ((plain_walk ..).ends _)

/-- What is found under a limit is found in the same way without it. -/
theorem lookup_eq_of_limit {policy : Policy}
    (done : (lookup zone ⟨strict, some limit⟩ domain).outcome = .done policy) :
    lookup zone ⟨strict, none⟩ domain = lookup zone ⟨strict, some limit⟩ domain := by
  obtain ⟨room, queries, found⟩ := exists_policyWithin_of_lookup done
  have free : (IncludePath.ofRoot domain).Freer none (.ofRoot domain) (some limit) :=
    ⟨List.Subset.refl _, le_top⟩
  have same : policyWithin zone ⟨strict, none⟩ room domain (.ofRoot domain) =
      ⟨.done policy, .ofRoot domain, queries⟩ := by
    apply policyWithin_of_freer _ free found
    rfl
  rw [lookup_eq_of_policyWithin same nofun, lookup_eq_of_policyWithin found nofun]

/-- A limit that the height of a policy stays within changes nothing about its look-up. A smaller one ends
the look-up at the first include inside of as many others as are allowed, after the queries before it. And
what is found under a limit is found without one as well. -/
theorem lookup_under_limit (zone : Zone) (strict : Bool) (domain : String) :
    (∀ policy, (lookup zone ⟨strict, none⟩ domain).outcome = .done policy →
      (lookup zone ⟨strict, none⟩ domain).queries = asked (policy.visits zone 0) ∧
      ∀ limit,
        (policy.height ≤ limit →
          lookup zone ⟨strict, some limit⟩ domain = lookup zone ⟨strict, none⟩ domain) ∧
        (limit < policy.height → ∃ before included after,
          policy.visits zone 0 = before ++ .inclusion limit included :: after ∧
          (∀ other, .inclusion limit other ∉ before) ∧
          (lookup zone ⟨strict, some limit⟩ domain).outcome =
            .failed (.inclusionTooDeep included limit) ∧
          (lookup zone ⟨strict, some limit⟩ domain).queries = asked before)) ∧
    ∀ limit policy, (lookup zone ⟨strict, some limit⟩ domain).outcome = .done policy →
      lookup zone ⟨strict, none⟩ domain = lookup zone ⟨strict, some limit⟩ domain := by
  refine ⟨fun policy done => ?_, fun limit policy => lookup_eq_of_limit⟩
  have reached_iff (limit : Nat) : Reaches (policy.visits zone 0) limit ↔ limit < policy.height := by
    rw [← policy.reaches_visits_iff zone 0 limit, Nat.zero_add]
  -- A limit as high as the policy is no limit, so the walk under it shows what is asked without one.
  have unlimited : lookup zone ⟨strict, none⟩ domain =
      ⟨.done policy, .ofRoot domain, asked (policy.visits zone 0)⟩ := by
    have shallow : ¬Reaches (policy.visits zone 0) policy.height :=
      fun reaches => lt_irrefl _ ((reached_iff _).mp reaches)
    have walked := (lookup_eq_walk done policy.height).trans (walk_of_not_reaches policy shallow _)
    rw [lookup_eq_of_limit (by rw [walked]), walked]
  refine ⟨by rw [unlimited], fun limit => ⟨fun enough => ?_, fun deep => ?_⟩⟩
  · have shallow : ¬Reaches (policy.visits zone 0) limit :=
      fun reaches => absurd ((reached_iff limit).mp reaches) (Nat.not_lt.mpr enough)
    rw [lookup_eq_walk done, walk_of_not_reaches policy shallow, unlimited]
  · obtain ⟨before, included, after, cut, shallow⟩ :=
      exists_first_reached ((reached_iff limit).mpr deep)
    have walked := lookup_eq_walk done limit
    rw [cut, walk_of_first_reached policy shallow] at walked
    refine ⟨before, included, after, cut, fun other member => shallow ⟨other, member⟩, ?_, ?_⟩
    · rw [walked]
    · rw [walked]

/-- A domain that includes another without includes, and after it one with an include. -/
def siblingZone : Zone :=
  let texts := [("a", ["v=spf1 include:c mx include:B. -all"]), ("b", ["v=spf1 a include:d.."]),
    ("c", ["v=spf1 ip4:10.0.0.0/8"]), ("d", ["v=spf1 ?all"])]
  texts.foldl (fun zone entry => zone.setTxt entry.1 entry.2) {}

def siblingPolicy : Policy :=
  ⟨"a", "v=spf1 include:c mx include:B. -all", [⟨.pass, "include:c", .inclusion "c"
      ⟨"c", "v=spf1 ip4:10.0.0.0/8", [⟨.pass, "ip4:10.0.0.0/8", .ip (.v4 0x0A000000#32 8)⟩]⟩⟩,
    ⟨.pass, "mx", .host .mx "a" ⟨32, 128⟩ []⟩,
    ⟨.pass, "include:B.", .inclusion "b" ⟨"b", "v=spf1 a include:d..",
      [⟨.pass, "a", .host .a "b" ⟨32, 128⟩ []⟩, ⟨.pass, "include:d..", .inclusion "d."
        ⟨"d", "v=spf1 ?all", [⟨.neutral, "?all", .all⟩]⟩⟩]⟩⟩,
    ⟨.fail, "-all", .all⟩]⟩

/-- The include that is finished does not count for the one after it: a limit of one lets both in, and
refuses the include inside of the second. -/
theorem lookup_under_limit_siblings :
    (lookup siblingZone ⟨false, none⟩ "a").outcome = .done siblingPolicy ∧
    lookup siblingZone ⟨false, some 2⟩ "a" = lookup siblingZone ⟨false, none⟩ "a" ∧
    ∃ before included after,
      siblingPolicy.visits siblingZone 0 = before ++ .inclusion 1 included :: after ∧
      (∀ other, .inclusion 1 other ∉ before) ∧
      (lookup siblingZone ⟨false, some 1⟩ "a").outcome = .failed (.inclusionTooDeep included 1) ∧
      (lookup siblingZone ⟨false, some 1⟩ "a").queries = asked before := by
  have done : (lookup siblingZone ⟨false, none⟩ "a").outcome = .done siblingPolicy := by decide +kernel
  have law := ((lookup_under_limit siblingZone false "a").1 siblingPolicy done).2
  exact ⟨done, (law 2).1 (by decide), (law 1).2 (by decide)⟩

example : (lookup siblingZone ⟨false, some 1⟩ "a").outcome = .failed (.inclusionTooDeep "d." 1) ∧
    (lookup siblingZone ⟨false, some 1⟩ "a").queries =
      [⟨.txt, "a"⟩, ⟨.txt, "c"⟩, ⟨.mx, "a"⟩, ⟨.txt, "b"⟩, ⟨.ip, "b"⟩] := by
  decide +kernel

end Lookup

end SenderPolicy

import SenderPolicy.Proofs.Lookup.Standalone
import SenderPolicy.Record

/-! # The path during a run

A run calls for policies, texts and includes inside of each other, and depends on nothing but the calls that
it makes. Every call leaves the path as it found it, however it ends. A call for the policy of an include is
the only one that is made on another path, and there the path has one more name. So the path always stands on
the names that the run started with, the depth counts the names above them, and an include that is left takes
away its own name.
-/

namespace SenderPolicy

namespace IncludePath

/-- The names on the path are some roots and the names entered above them, which the depth counts. -/
def StandsOn (path : IncludePath) (roots : List String) : Prop :=
  ∃ entered, path.names = entered ++ roots ∧ path.depth = entered.length

/-- Where no include is entered, all names are roots. -/
theorem standsOn_names {path : IncludePath} (shallow : path.depth = 0) : path.StandsOn path.names :=
  ⟨[], rfl, shallow⟩

theorem StandsOn.extend {path : IncludePath} {roots : List String} (stands : path.StandsOn roots)
    (domain : String) : (path.extend domain).StandsOn roots := by
  obtain ⟨entered, names, depth⟩ := stands
  refine ⟨DomainName.normalize domain :: entered, ?_, ?_⟩
  · exact congrArg _ names
  · exact congrArg (· + 1) depth

end IncludePath

namespace Lookup

open Inquiry
open Directive (chainedZone ofInclusion ofTerm? ofTerms ofText)

/-- What a run can be at work on: the policy of a domain, a text of a domain, or an include. -/
inductive Task where
  | policy (domain : String)
  | text (domain raw : String)
  | inclusion (term : String)
deriving DecidableEq, Repr

/-- Does the work of a task, where `nested` looks up the policies of the includes that are entered. -/
def Task.work (zone : Zone) (options : Options) (nested : String → Inquiry Policy) : Task → Inquiry Unit
  | .policy domain => do
      let raw ← policyText zone (DomainName.normalize domain)
      let _ ← ofText zone options nested (DomainName.normalize domain) raw
      return ()
  | .text domain raw => do
      let _ ← ofText zone options nested domain raw
      return ()
  | .inclusion term => do
      let _ ← ofInclusion options nested term
      return ()

/-- A task, and the path where it is taken up. -/
structure Call where
  task : Task
  path : IncludePath
deriving DecidableEq, Repr

namespace Call

variable {zone : Zone} {options : Options} {room : Nat} {start call next : Call} {report : Report Unit}
  {nested : String → Inquiry Policy} {domain raw target : String} {path inner : IncludePath}

/-- Carries a call out, with room for so many policies inside of each other. -/
def run (zone : Zone) (options : Options) (room : Nat) (call : Call) : Report Unit :=
  call.task.work zone options (policyWithin zone options room) call.path

/-- The include of a call names a target and enters it. -/
def Enters (options : Options) (call : Call) (target : String) (inner : IncludePath) : Prop :=
  ∃ term fields, call.task = .inclusion term ∧ Term.readInclusion term = .ok fields ∧
    target = DomainName.normalize fields.target ∧
    call.path.enter options.maxIncludeDepth target = .ok inner

/-- A call makes another: the policy of a domain takes up its text, a text takes up an include once the
terms before it are built, and an include that is entered takes up the policy of its target. -/
inductive Makes (zone : Zone) (options : Options) : Call → Call → Prop where
  | text {domain raw : String} {path last : IncludePath} {queries : List Query}
      (found : policyText zone (DomainName.normalize domain) path = ⟨.done raw, last, queries⟩) :
      Makes zone options ⟨.policy domain, path⟩ ⟨.text (DomainName.normalize domain) raw, last⟩
  | inclusion {domain raw term : String} {before after : List String} {path last : IncludePath}
      {room : Nat} {directives : List Directive} {queries : List Query}
      (policy : PolicyText.isPolicy raw = true)
      (terms : PolicyText.terms raw = before ++ term :: after)
      (built : ofTerms zone options (policyWithin zone options room) domain before path =
        ⟨.done directives, last, queries⟩)
      (keyword : Term.keyword? term = some .inclusion) :
      Makes zone options ⟨.text domain raw, path⟩ ⟨.inclusion term, last⟩
  | policy {call : Call} {target : String} {inner : IncludePath}
      (enters : call.Enters options target inner) :
      Makes zone options call ⟨.policy target, inner⟩

/-- The runs that are started from outside, each with its first call: a look-up, a record that is read, and
an include that stands by itself. -/
inductive Starts (zone : Zone) (options : Options) : Call → Report Unit → Prop where
  | root (domain : String) :
      Starts zone options ⟨.policy domain, .ofRoot domain⟩
        ((lookup zone options domain).map fun _ => ())
  | record (record : Record) :
      Starts zone options ⟨.text record.domain record.raw, .ofRoot record.domain⟩
        (record.parse zone options).report
  | inclusion (term : String) :
      Starts zone options ⟨.inclusion term, .outside⟩
        ((Directive.inclusion zone options term).map fun _ => ())

theorem run_policy (zone : Zone) (options : Options) (room : Nat) (domain : String)
    (path : IncludePath) :
    run zone options room ⟨.policy domain, path⟩ =
      (policyWithin zone options (room + 1) domain path).map fun _ => () := by
  rw [← map_apply]
  refine congrFun ?_ path
  simp only [policyWithin, map_bind, map_pure]
  rfl

theorem run_text (zone : Zone) (options : Options) (room : Nat) (domain raw : String)
    (path : IncludePath) :
    run zone options room ⟨.text domain raw, path⟩ =
      (ofText zone options (policyWithin zone options room) domain raw path).map fun _ => () := by
  rw [← map_apply, map_eq_pure_bind]
  rfl

theorem run_inclusion (zone : Zone) (options : Options) (room : Nat) (term : String)
    (path : IncludePath) :
    run zone options room ⟨.inclusion term, path⟩ =
      (ofInclusion options (policyWithin zone options room) term path).map fun _ => () := by
  rw [← map_apply, map_eq_pure_bind]
  rfl

/-- A run from outside carries its first call out, in some room. -/
theorem Starts.exists_run (starts : Starts zone options start report) :
    ∃ room, report = start.run zone options room := by
  cases starts with
  | root domain =>
    obtain ⟨less, room_eq⟩ : ∃ less, Lookup.room options (inclusions zone).length = less + 1 := by
      unfold Lookup.room
      split <;> exact ⟨_, rfl⟩
    refine ⟨less, ?_⟩
    rw [run_policy, ← room_eq]
    rfl
  | record record => exact ⟨_, (run_text ..).symm⟩
  | inclusion term => exact ⟨_, (run_inclusion ..).symm⟩

/-- No include is entered where a run starts. -/
theorem Starts.depth_eq_zero (starts : Starts zone options start report) : start.path.depth = 0 := by
  cases starts <;> rfl

/-- The terms of a text depend on the policies of the includes that it takes up. -/
theorem ofText_congr
    (same : ∀ made target inner, Makes zone options ⟨.text domain raw, path⟩ made →
      made.Enters options target inner → nested target inner = policyWithin zone options room target inner) :
    ofText zone options nested domain raw path =
      ofText zone options (policyWithin zone options room) domain raw path := by
  unfold ofText
  split
  · next policy =>
    refine Directive.ofTerms_congr fun before term after directives last queries terms built => ?_
    refine Directive.ofTerm?_congr fun keyword => ?_
    refine Directive.ofInclusion_congr fun fields inner read entered => ?_
    exact same ⟨.inclusion term, last⟩ _ inner (.inclusion policy terms built keyword)
      ⟨term, fields, rfl, read, rfl, entered⟩
  · rfl

/-- A call depends on nothing but the policies that are looked up by the calls that follow from it. -/
theorem work_eq_run
    (same : ∀ made target inner, Relation.ReflTransGen (Makes zone options) call made →
      made.Enters options target inner → nested target inner = policyWithin zone options room target inner) :
    call.task.work zone options nested call.path = call.run zone options room := by
  rcases call with ⟨task, path⟩
  cases task with
  | policy domain =>
    refine bind_apply_congr rfl fun raw last queries found => ?_
    refine bind_apply_congr (ofText_congr fun made target inner makes => ?_) fun _ _ _ _ => rfl
    exact same made target inner (.head (.text found) (.single makes))
  | text domain raw =>
    refine bind_apply_congr (ofText_congr fun made target inner makes => ?_) fun _ _ _ _ => rfl
    exact same made target inner (.single makes)
  | inclusion term =>
    refine bind_apply_congr (Directive.ofInclusion_congr fun fields inner read entered => ?_)
      fun _ _ _ _ => rfl
    exact same _ _ inner .refl ⟨term, fields, rfl, read, rfl, entered⟩

/-- Whatever a call comes to, it leaves the path as it found it. -/
theorem path_run (zone : Zone) (options : Options) (room : Nat) (call : Call) :
    (call.run zone options room).path = call.path := by
  have nested := balanced_policyWithin zone options room
  rcases call with ⟨task, path⟩
  cases task with
  | policy domain =>
    rw [run_policy]
    exact balanced_policyWithin zone options (room + 1) domain path
  | text domain raw =>
    rw [run_text]
    exact Directive.balanced_ofText nested raw path
  | inclusion term =>
    rw [run_inclusion]
    exact Directive.balanced_ofInclusion nested path

theorem Enters.inner_eq (enters : call.Enters options target inner) :
    inner = call.path.extend target := by
  obtain ⟨_, _, -, -, -, entered⟩ := enters
  exact (IncludePath.enter_eq_ok_iff.mp entered).2.2

/-- A call is made on the path of the call that makes it, or one include further inside. -/
theorem Makes.path_cases (makes : Makes zone options call next) :
    next.path = call.path ∨ ∃ target, next.path = call.path.extend target := by
  cases makes with
  | text found => exact .inl (policyText_eq_done_iff.mp found).2.1
  | @inclusion domain _ _ before _ path last room directives queries policy terms built keyword =>
    have stays := Directive.balanced_ofTerms zone options domain
      (balanced_policyWithin zone options room) before path
    rw [built] at stays
    exact .inl stays
  | policy enters => exact .inr ⟨_, enters.inner_eq⟩

theorem Makes.standsOn {roots : List String} (makes : Makes zone options call next)
    (stands : call.path.StandsOn roots) : next.path.StandsOn roots := by
  rcases makes.path_cases with same | ⟨target, further⟩
  · rw [same]
    exact stands
  · rw [further]
    exact stands.extend target

/-- Every call of a run stands on the names of the first one. -/
theorem Starts.standsOn (starts : Starts zone options start report)
    (reached : Relation.ReflTransGen (Makes zone options) start call) :
    call.path.StandsOn start.path.names := by
  induction reached with
  | refl => exact IncludePath.standsOn_names starts.depth_eq_zero
  | tail _ makes ih => exact makes.standsOn ih

/-- The path is balanced. The policy of a domain, the terms of a text and an include leave the path as they
found it, whether they come to a value or to an error. A look-up, a record that is read and an include by itself
carry out a call for one of these. During their runs the path stands on the names of the first call, with a
depth of as many names as were entered above them. When an include is left, its own name is the innermost of
the path and is counted by the depth, so leaving it takes neither a name of the first call nor one from a depth
of zero, and restores the path of the include. These are all calls of the run: whatever look-ups of other
policies, or on other paths, would come to makes no difference to a call. -/
theorem balanced_throughout (zone : Zone) (options : Options) :
    (∀ room path,
      (∀ domain, (policyWithin zone options room domain path).path = path) ∧
      (∀ domain raw,
        (ofText zone options (policyWithin zone options room) domain raw path).path = path) ∧
      ∀ term, (ofInclusion options (policyWithin zone options room) term path).path = path) ∧
    ∀ start report, Starts zone options start report →
      (report.path = start.path ∧ ∃ room, report = start.run zone options room) ∧
      ∀ call, Relation.ReflTransGen (Makes zone options) start call →
        (∃ entered, call.path.names = entered ++ start.path.names ∧
          call.path.depth = entered.length) ∧
        (∀ target inner, call.Enters options target inner → ∀ room,
          let last := (policyWithin zone options room target inner).path
          last.names = DomainName.normalize target :: call.path.names ∧
            last.depth = call.path.depth + 1 ∧ last.leave = call.path) ∧
        ∀ room nested, (∀ made target inner, Relation.ReflTransGen (Makes zone options) call made →
            made.Enters options target inner →
            nested target inner = policyWithin zone options room target inner) →
          call.task.work zone options nested call.path = call.run zone options room := by
  have balanced := balanced_policyWithin zone options
  refine ⟨fun room path => ⟨fun domain => balanced room domain path, fun domain raw => ?_, fun term => ?_⟩,
    fun start report starts => ⟨?_, fun call reached => ⟨starts.standsOn reached, ?_, ?_⟩⟩⟩
  · exact Directive.balanced_ofText (balanced room) raw path
  · exact Directive.balanced_ofInclusion (balanced room) path
  · obtain ⟨room, rfl⟩ := starts.exists_run
    exact ⟨path_run zone options room start, room, rfl⟩
  · intro target inner enters room
    dsimp only
    rw [balanced room target inner, enters.inner_eq]
    exact ⟨rfl, rfl, IncludePath.leave_extend call.path target⟩
  · exact fun room nested => work_eq_run

/-- The last include of a chain of three domains is reached after a directive of hosts. It is left from the
depth of two, and its name is taken off the path. Nothing is looked up outside of every include any more. -/
theorem balanced_throughout_chained :
    let start : Call := ⟨.policy "a", .ofRoot "a"⟩
    let call : Call := ⟨.inclusion "include:c", ⟨["b", "a"], 1⟩⟩
    let last := (policyWithin chainedZone {} 1 "c" ⟨["c", "b", "a"], 2⟩).path
    let report := (lookup chainedZone {} "a").map fun _ => ()
    let nested : String → Inquiry Policy := fun target path =>
      if path.depth = 0 then stop .unending path else policyWithin chainedZone {} 1 target path
    Starts chainedZone {} start report ∧
    Relation.ReflTransGen (Makes chainedZone {}) start call ∧
    call.Enters {} "c" ⟨["c", "b", "a"], 2⟩ ∧
    report.path = .ofRoot "a" ∧
    (∃ entered, call.path.names = entered ++ ["a"] ∧ call.path.depth = entered.length) ∧
    (last.names = ["c", "b", "a"] ∧ last.depth = 2 ∧ last.leave = call.path) ∧
    call.task.work chainedZone {} nested call.path = call.run chainedZone {} 1 := by
  intro start call last report nested
  have starts : Starts chainedZone {} start report := .root "a"
  have textA : Makes chainedZone {} start
      ⟨.text (DomainName.normalize "a") "v=spf1 mx include:B. -all", .ofRoot "a"⟩ :=
    .text (policyText_eq_done_iff.mpr ⟨by decide +kernel, rfl, rfl⟩)
  have mx : ofTerms chainedZone {} (policyWithin chainedZone {} 0) (DomainName.normalize "a") ["mx"]
      (.ofRoot "a") = ⟨.done [⟨.pass, "mx", .host .mx "a" ⟨32, 128⟩ []⟩], .ofRoot "a", [⟨.mx, "a"⟩]⟩ := by
    decide +kernel
  have entersB : Enters {} ⟨.inclusion "include:B.", .ofRoot "a"⟩ "b" ⟨["b", "a"], 1⟩ :=
    ⟨"include:B.", ⟨.pass, "B."⟩, rfl, by decide +kernel, by decide +kernel, by decide +kernel⟩
  have textB : Makes chainedZone {} ⟨.policy "b", ⟨["b", "a"], 1⟩⟩
      ⟨.text (DomainName.normalize "b") "v=spf1 include:c", ⟨["b", "a"], 1⟩⟩ :=
    .text (policyText_eq_done_iff.mpr ⟨by decide +kernel, rfl, rfl⟩)
  have nothing : ofTerms chainedZone {} (policyWithin chainedZone {} 0) (DomainName.normalize "b") []
      ⟨["b", "a"], 1⟩ = ⟨.done [], ⟨["b", "a"], 1⟩, []⟩ := rfl
  have reached : Relation.ReflTransGen (Makes chainedZone {}) start call :=
    .head textA <| .head (.inclusion rfl rfl mx rfl) <| .head (.policy entersB) <|
      .head textB <| .single (.inclusion rfl rfl nothing rfl)
  have normal : DomainName.normalize "c" = "c" := by decide +kernel
  have entersC : call.Enters {} "c" ⟨["c", "b", "a"], 2⟩ :=
    ⟨"include:c", ⟨.pass, "c"⟩, rfl, by decide +kernel, normal.symm, by decide +kernel⟩
  obtain ⟨-, runs⟩ := balanced_throughout chainedZone {}
  obtain ⟨⟨restored, -⟩, during⟩ := runs start report starts
  obtain ⟨stands, leaves, depends⟩ := during call reached
  have left := leaves "c" _ entersC 1
  rw [normal] at left
  have deeper : ∀ made target inner, Relation.ReflTransGen (Makes chainedZone {}) call made →
      made.Enters {} target inner → nested target inner = policyWithin chainedZone {} 1 target inner := by
    intro made target inner _ enters
    rw [enters.inner_eq]
    rfl
  exact ⟨starts, reached, entersC, restored, stands, left, depends 1 nested deeper⟩

end Call

end Lookup

end SenderPolicy

import SenderPolicy.Dns.Zone
import SenderPolicy.IncludePath

/-! # Inquiries

An inquiry asks the name servers, follows includes, and ends with a value, with an error, or not at
all. Its report says how it ended, on which path it left the reader, and what it asked, in order. What
was asked before an error stays in the report.
-/

namespace SenderPolicy

/-- How an inquiry ends. -/
inductive Outcome (α : Type) where
  | done (value : α)
  | failed (error : PolicyError)
  /-- The includes are nested without an end. -/
  | unending
deriving DecidableEq, Repr

namespace Outcome

variable {α β : Type}

def map (f : α → β) : Outcome α → Outcome β
  | .done value => .done (f value)
  | .failed error => .failed error
  | .unending => .unending

def value? : Outcome α → Option α
  | .done value => some value
  | _ => none

/-- The outcome of a step that neither asks nor fails to end. -/
def ofExcept : Except PolicyError α → Outcome α
  | .ok value => .done value
  | .error error => .failed error

end Outcome

/-- The outcome of an inquiry, the path it ends on, and its queries in order. -/
structure Report (α : Type) where
  outcome : Outcome α
  path : IncludePath
  queries : List Query
deriving DecidableEq, Repr

def Report.map {α β : Type} (f : α → β) (report : Report α) : Report β :=
  { report with outcome := report.outcome.map f }

/-- A computation that starts on a path of includes. -/
def Inquiry (α : Type) : Type := IncludePath → Report α

namespace Inquiry

variable {α β : Type}

def stop (outcome : Outcome α) : Inquiry α := fun path => ⟨outcome, path, []⟩

def fail (error : PolicyError) : Inquiry α := stop (.failed error)

/-- A step that asks nothing. -/
def ofExcept (result : Except PolicyError α) : Inquiry α := stop (.ofExcept result)

/-- Goes on with the value of the first inquiry, on the path where it ended. -/
def andThen (first : Inquiry α) (next : α → Inquiry β) : Inquiry β := fun path =>
  let report := first path
  match report.outcome with
  | .done value =>
      let after := next value report.path
      { after with queries := report.queries ++ after.queries }
  | .failed error => ⟨.failed error, report.path, report.queries⟩
  | .unending => ⟨.unending, report.path, report.queries⟩

instance : Monad Inquiry where
  pure value := stop (.done value)
  bind := andThen

theorem pure_apply (value : α) (path : IncludePath) :
    (pure value : Inquiry α) path = ⟨.done value, path, []⟩ := rfl

/-- An inquiry that succeeds hands its value and its path on, and its queries come first. -/
theorem bind_apply_done {first : Inquiry α} {next : α → Inquiry β} {path middle : IncludePath}
    {value : α} {queries : List Query} (ran : first path = ⟨.done value, middle, queries⟩) :
    (first >>= next) path =
      { next value middle with queries := queries ++ (next value middle).queries } := by
  change andThen first next path = _
  simp only [andThen, ran]

/-- An inquiry that fails is the end of everything after it. -/
theorem bind_apply_failed {first : Inquiry α} {next : α → Inquiry β} {path last : IncludePath}
    {error : PolicyError} {queries : List Query} (ran : first path = ⟨.failed error, last, queries⟩) :
    (first >>= next) path = ⟨.failed error, last, queries⟩ := by
  change andThen first next path = _
  simp only [andThen, ran]

/-- Nothing comes after an inquiry without an end. -/
theorem bind_apply_unending {first : Inquiry α} {next : α → Inquiry β} {path last : IncludePath}
    {queries : List Query} (ran : first path = ⟨.unending, last, queries⟩) :
    (first >>= next) path = ⟨.unending, last, queries⟩ := by
  change andThen first next path = _
  simp only [andThen, ran]

instance : LawfulMonad Inquiry := LawfulMonad.mk' Inquiry
  (by
    intro α inquiry
    funext path
    change andThen inquiry (fun value => stop (.done value)) path = _
    rcases ran : inquiry path with ⟨outcome, last, queries⟩
    cases outcome <;> simp [andThen, ran, stop])
  (by
    intro α β value next
    funext path
    change andThen (stop (.done value)) next path = _
    simp [andThen, stop])
  (by
    intro α β γ first second third
    funext path
    change andThen (andThen first second) third path = andThen first (fun x => andThen (second x) third) path
    rcases ran : first path with ⟨outcome, middle, queries⟩
    cases outcome with
    | failed error => simp [andThen, ran]
    | unending => simp [andThen, ran]
    | done value =>
      rcases went : second value middle with ⟨outcome, last, more⟩
      cases outcome <;> simp [andThen, ran, went])

/-- Asks about a domain. A failing answer ends the inquiry and blames the domain. -/
def ask (kind : QueryKind) (domain : String) (answer : Except DnsError α) : Inquiry α := fun path =>
  ⟨.ofExcept (answer.mapError (.dns domain)), path, [.about kind domain]⟩

def askTxt (zone : Zone) (domain : String) : Inquiry (List String) := ask .txt domain (zone.txt domain)

def askIp (zone : Zone) (domain : String) : Inquiry (List Address) := ask .ip domain (zone.ip domain)

def askMx (zone : Zone) (domain : String) : Inquiry (List Exchanger) := ask .mx domain (zone.mx domain)

/-- Runs an inquiry inside an include of a domain, and leaves the include however it ends. -/
def inside (limit? : Option Nat) (domain : String) (inquiry : Inquiry α) : Inquiry α := fun path =>
  match path.enter limit? domain with
  | .error error => ⟨.failed error, path, []⟩
  | .ok inner =>
      let report := inquiry inner
      { report with path := report.path.leave }

end Inquiry

end SenderPolicy

import SenderPolicy.Inquiry

/-! # A resolver with a log

A resolver answers from its zone and writes every query down, the failing ones too. Asking changes
nothing but the log. An inquiry is carried out query by query: what it asks is asked of the resolver, and
each part finds the resolver as the parts before it leave it.
-/

namespace SenderPolicy

/-- One of the things that a domain has, for each kind of query. -/
def QueryKind.Item : QueryKind → Type
  | .txt => String
  | .ip => Address
  | .mx => Exchanger

def Inquiry.askFor (zone : Zone) (domain : String) : (kind : QueryKind) → Inquiry (List kind.Item)
  | .txt => askTxt zone domain
  | .ip => askIp zone domain
  | .mx => askMx zone domain

structure Resolver where
  zone : Zone := {}
  log : List Query := []
deriving DecidableEq, Repr

namespace Resolver

def update (resolver : Resolver) (change : Zone → Zone) : Resolver :=
  { resolver with zone := change resolver.zone }

def note (resolver : Resolver) (queries : List Query) : Resolver :=
  { resolver with log := resolver.log ++ queries }

/-- Carries an inquiry about the zone out and writes its queries down. -/
def perform {α : Type} (resolver : Resolver) (inquiry : Zone → Report α) : Outcome α × Resolver :=
  let report := inquiry resolver.zone
  (report.outcome, resolver.note report.queries)

def askTxt (resolver : Resolver) (domain : String) : Except DnsError (List String) × Resolver :=
  (resolver.zone.txt domain, resolver.note [.about .txt domain])

def askIp (resolver : Resolver) (domain : String) : Except DnsError (List Address) × Resolver :=
  (resolver.zone.ip domain, resolver.note [.about .ip domain])

def askMx (resolver : Resolver) (domain : String) : Except DnsError (List Exchanger) × Resolver :=
  (resolver.zone.mx domain, resolver.note [.about .mx domain])

def ask (resolver : Resolver) (domain : String) :
    (kind : QueryKind) → Except DnsError (List kind.Item) × Resolver
  | .txt => resolver.askTxt domain
  | .ip => resolver.askIp domain
  | .mx => resolver.askMx domain

variable {α β : Type}

/-- A query of an inquiry is asked of the resolver, and its failure blames the domain. -/
theorem perform_askFor (resolver : Resolver) (domain : String) (kind : QueryKind) (path : IncludePath) :
    resolver.perform (fun zone => Inquiry.askFor zone domain kind path) =
      (.ofExcept ((resolver.ask domain kind).1.mapError (.dns domain)),
        (resolver.ask domain kind).2) := by
  cases kind <;> rfl

/-- What asks nothing leaves the resolver as it is. -/
theorem perform_stop (resolver : Resolver) (outcome : Outcome α) (path : IncludePath) :
    resolver.perform (fun _ => Inquiry.stop outcome path) = (outcome, resolver) := by
  simp [perform, Inquiry.stop, note]

/-- The next part goes on with the resolver that the first part leaves, if that part has a value. -/
theorem perform_bind (resolver : Resolver) (first : Zone → Inquiry α) (next : Zone → α → Inquiry β)
    (path : IncludePath) :
    resolver.perform (fun zone => (first zone >>= next zone) path) =
      match resolver.perform (fun zone => first zone path) with
      | (.done value, after) =>
          after.perform fun zone => next zone value (first resolver.zone path).path
      | (.failed error, after) => (.failed error, after)
      | (.unending, after) => (.unending, after) := by
  rcases ran : first resolver.zone path with ⟨outcome, last, queries⟩
  cases outcome with
  | done value => simp only [perform, ran, Inquiry.bind_apply_done ran, note, List.append_assoc]
  | failed error => simp only [perform, ran, Inquiry.bind_apply_failed ran]
  | unending => simp only [perform, ran, Inquiry.bind_apply_unending ran]

/-- An include that is refused asks nothing, and one that is entered asks what its inquiry asks. -/
theorem perform_inside (resolver : Resolver) (limit? : Option Nat) (domain : String)
    (inquiry : Zone → Inquiry α) (path : IncludePath) :
    resolver.perform (fun zone => Inquiry.inside limit? domain (inquiry zone) path) =
      match path.enter limit? domain with
      | .error error => (.failed error, resolver)
      | .ok inner => resolver.perform fun zone => inquiry zone inner := by
  cases entered : path.enter limit? domain with
  | error error => simp [perform, Inquiry.inside, entered, note]
  | ok inner => simp only [perform, Inquiry.inside, entered]

end Resolver

end SenderPolicy

import SenderPolicy.Record

/-! # Records below records

An include holds the record of its domain, and this record is kept as any other is: with its text once it
is fetched, and with its directives once the text is read. So a record is a tree in which every level may
lack its directives, and an evaluation that comes to such a level fails. A look-up starts each record of
the tree as an empty one, fetches it and reads it, and gives up the record if one of the two steps fails.
-/

namespace SenderPolicy.Staged

mutual

inductive Mechanism where
  | host (kind : HostKind) (domain : String) (lengths : PrefixLengths) (networks : List Block)
  | ip (network : Block)
  | inclusion (domain : String) (record : Record)
  | all

structure Directive where
  qualifier : Qualifier
  text : String
  mechanism : Mechanism

structure Record where
  domain : String
  raw : String
  directives? : Option (List Directive)

end

mutual

/-- The trail of a directive. Below an include it can fail. -/
def Directive.trail (address : Address) : Directive → Except PolicyError (List String)
  | ⟨_, text, mechanism⟩ =>
      match mechanism with
      | .host _ _ _ networks => return if networks.any (·.contains address) then [text] else []
      | .ip network => return if network.contains address then [text] else []
      | .inclusion _ record => do
          let nested ← record.evaluate address
          return if nested.isEmpty then nested else text :: nested
      | .all => return [text]

/-- The trail of a record that has been read: that of its first directive that matches. -/
def Record.evaluate (address : Address) : Record → Except PolicyError (List String)
  | ⟨domain, _, none⟩ => throw (.unparsed domain)
  | ⟨_, _, some directives⟩ => do
      let found ← firstMatch address directives
      return (found.map (·.2)).getD []

/-- The first directive that leaves a trail, with this trail. What stands after it is not evaluated. -/
def firstMatch (address : Address) :
    List Directive → Except PolicyError (Option (Directive × List String))
  | [] => return none
  | directive :: rest => do
      let trail ← directive.trail address
      if trail.isEmpty then firstMatch address rest else return some (directive, trail)

end

def Record.matched? (record : Record) (address : Address) :
    Except PolicyError (Option Directive) :=
  match record.directives? with
  | none => throw (.unparsed record.domain)
  | some directives => do
      let found ← firstMatch address directives
      return found.map (·.1)

mutual

/-- A mechanism whose include holds a record that has been read, down to the last one. -/
def Mechanism.ofRead : SenderPolicy.Mechanism → Mechanism
  | .host kind domain lengths networks => .host kind domain lengths networks
  | .ip network => .ip network
  | .inclusion domain policy => .inclusion domain (Record.ofPolicy policy)
  | .all => .all

def Directive.ofRead : SenderPolicy.Directive → Directive
  | ⟨qualifier, text, mechanism⟩ => ⟨qualifier, text, Mechanism.ofRead mechanism⟩

def Record.ofPolicy : Policy → Record
  | ⟨domain, raw, directives⟩ => ⟨domain, raw, some (directivesOfRead directives)⟩

def directivesOfRead : List SenderPolicy.Directive → List Directive
  | [] => []
  | directive :: rest => Directive.ofRead directive :: directivesOfRead rest

end

namespace Directive

/-- Builds a directive that includes a record, which `nested` looks up inside the include. -/
def ofInclusion (options : Options) (nested : String → Inquiry Record) (term : String) :
    Inquiry Directive := do
  Inquiry.ofExcept (requireKeyword .inclusion term)
  let fields ← Inquiry.ofExcept ((Term.readInclusion term).mapError .format)
  let domain := DomainName.normalize fields.target
  let record ← Inquiry.inside options.maxIncludeDepth domain (nested domain)
  return ⟨fields.qualifier, term, .inclusion domain record⟩

/-- Builds the directive of a term, or none if the term is skipped. Only an include holds a record. -/
def ofTerm? (zone : Zone) (options : Options) (nested : String → Inquiry Record)
    (domain term : String) : Inquiry (Option Directive) :=
  match Term.keyword? term with
  | some (.host kind) => (some ∘ ofRead) <$> SenderPolicy.Directive.ofHost zone kind term domain
  | some .ip => (some ∘ ofRead) <$> Inquiry.ofExcept (SenderPolicy.Directive.ofLiteral term)
  | some .all => (some ∘ ofRead) <$> Inquiry.ofExcept (SenderPolicy.Directive.ofAll term)
  | some .inclusion => some <$> ofInclusion options nested term
  | none => if options.strict then Inquiry.fail (.unknownTerm term) else pure none

def ofTerms (zone : Zone) (options : Options) (nested : String → Inquiry Record)
    (domain : String) : List String → Inquiry (List Directive)
  | [] => pure []
  | term :: rest => do
      let first ← ofTerm? zone options nested domain term
      let others ← ofTerms zone options nested domain rest
      return first.toList ++ others

def ofText (zone : Zone) (options : Options) (nested : String → Inquiry Record)
    (domain raw : String) : Inquiry (List Directive) :=
  if PolicyText.isPolicy raw then ofTerms zone options nested domain (PolicyText.terms raw)
  else Inquiry.fail (.noPolicy domain)

end Directive

/-- The record after a step, and what the step reports. -/
structure Step where
  record : Record
  report : Report Unit

/-- Goes on with the record after a step that succeeds. -/
def Step.carryOn (step : IncludePath → Step) : Inquiry Record := fun path =>
  (step path).report.map fun _ => (step path).record

namespace Record

def ofDomain (domain : String) : Record := ⟨DomainName.normalize domain, "", none⟩

/-- A record whose directives, if there are any, hold records that have been read. -/
def ofRecord (record : SenderPolicy.Record) : Record :=
  ⟨record.domain, record.raw, record.directives?.map directivesOfRead⟩

/-- Fetches the text. What the record held before is gone even if that fails. -/
def fetch (zone : Zone) (record : Record) (path : IncludePath) : Step :=
  let report := Inquiry.policyText zone record.domain path
  ⟨⟨record.domain, report.outcome.value?.getD "", none⟩, report.map fun _ => ()⟩

/-- Reads the text at hand, where `nested` looks up the records of includes. -/
def parseIn (zone : Zone) (options : Options) (nested : String → Inquiry Record) (record : Record)
    (path : IncludePath) : Step :=
  let report := Directive.ofText zone options nested record.domain record.raw path
  ⟨⟨record.domain, record.raw, report.outcome.value?⟩, report.map fun _ => ()⟩

end Record

/-- Looks the record of a domain up, with room for so many records inside each other. -/
def lookupWithin (zone : Zone) (options : Options) : Nat → String → Inquiry Record
  | 0, _ => Inquiry.stop .unending
  | room + 1, domain => do
      let fetched ← Step.carryOn ((Record.ofDomain domain).fetch zone)
      Step.carryOn (fetched.parseIn zone options (lookupWithin zone options room))

def lookup (zone : Zone) (options : Options) (domain : String) : Report Record :=
  lookupWithin zone options (Lookup.room options (Lookup.inclusions zone).length) domain
    (.ofRoot domain)

/-- Reads the text at hand with a path of its own. -/
def Record.parse (zone : Zone) (options : Options) (record : Record) : Step :=
  let domains := (Lookup.inclusions zone).length + (PolicyText.inclusions record.raw).length
  record.parseIn zone options (lookupWithin zone options (Lookup.room options domains))
    (.ofRoot record.domain)

/-- Looks the record of a domain up and evaluates it. -/
def checkHost (zone : Zone) (options : Options) (address : Address) (domain : String) :
    Report (List String) :=
  let looked := lookupWithin zone options (Lookup.room options (Lookup.inclusions zone).length) domain
  (looked >>= fun record => Inquiry.ofExcept (record.evaluate address)) (.ofRoot domain)

/-- Builds a directive that stands by itself and includes a record. -/
def Directive.inclusion (zone : Zone) (options : Options) (term : String) : Report Directive :=
  ofInclusion options
    (lookupWithin zone options (Lookup.room options (Lookup.inclusions zone).length)) term .outside

end SenderPolicy.Staged

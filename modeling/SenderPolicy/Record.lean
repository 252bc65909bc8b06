import SenderPolicy.Policy.Basic
import SenderPolicy.Policy.Directive

/-! # Look-ups and records

The policy of a domain is read from its texts, and an include looks the policy of another domain up
inside of it. The depth of nested includes is bounded by the room that a look-up is given, and
`Lookup.room` is more than any look-up with an end can use. A record is a policy that is fetched and
read in two steps. Fetching throws away what was there before, and reading throws away the directives,
whether the step succeeds or not. So the directives are always those of the text at hand, and without
them a record answers no question.
-/

namespace SenderPolicy

/-- The first text of a domain that is a policy. -/
def Inquiry.policyText (zone : Zone) (domain : String) : Inquiry String := do
  let texts ← Inquiry.askTxt zone domain
  match texts.find? PolicyText.isPolicy with
  | some raw => pure raw
  | none => Inquiry.fail (.noPolicy domain)

namespace Lookup

/-- Looks the policy of a domain up, with room for so many policies inside each other. -/
def policyWithin (zone : Zone) (options : Options) : Nat → String → Inquiry Policy
  | 0, _ => Inquiry.stop .unending
  | room + 1, domain => do
      let name := DomainName.normalize domain
      let raw ← Inquiry.policyText zone name
      let directives ← Directive.ofText zone options (policyWithin zone options room) name raw
      return ⟨name, raw, directives⟩

/-- The domains that the texts of a zone include. -/
def inclusions (zone : Zone) : List String :=
  zone.texts.entries.flatMap fun entry => entry.2.flatMap PolicyText.inclusions

/-- More policies than any look-up with an end holds inside each other, where so many domains are
included. Under a limit no more are entered. Without one, the name being read and the set of names on
the path decide how a look-up goes on, so a pair that comes back below itself comes back for ever. The
set only grows along a path: with so many names it takes so many values, and each goes with so many
names. -/
def room (options : Options) (domains : Nat) : Nat :=
  match options.maxIncludeDepth with
  | some limit => limit + 1
  | none => (domains + 1) * (domains + 1) + 1

end Lookup

def lookup (zone : Zone) (options : Options) (domain : String) : Report Policy :=
  Lookup.policyWithin zone options (Lookup.room options (Lookup.inclusions zone).length) domain
    (.ofRoot domain)

/-- The trail that a sender's address leaves in the policy of a domain. -/
def checkHost (zone : Zone) (options : Options) (address : Address) (domain : String) :
    Report (List String) :=
  (lookup zone options domain).map (·.trail address)

/-- Builds a directive that stands by itself and includes a policy. -/
def Directive.inclusion (zone : Zone) (options : Options) (term : String) : Report Directive :=
  ofInclusion options
    (Lookup.policyWithin zone options (Lookup.room options (Lookup.inclusions zone).length))
    term .outside

/-- A domain, its text, which is empty until it is fetched, and the directives once they are read. -/
structure Record where
  domain : String
  raw : String
  directives? : Option (List Directive)
deriving DecidableEq

namespace Record

/-- A record of which nothing is known but its domain. -/
def ofDomain (domain : String) : Record := ⟨DomainName.normalize domain, "", none⟩

def ofPolicy (policy : Policy) : Record := ⟨policy.domain, policy.raw, some policy.directives⟩

def policy? (record : Record) : Option Policy :=
  record.directives?.map fun directives => ⟨record.domain, record.raw, directives⟩

/-- The outcome of a step of a record, with what it asked, and the record after it. -/
structure Step where
  record : Record
  report : Report Unit
deriving DecidableEq

/-- Fetches the text. If that fails, the record has no text. -/
def fetch (zone : Zone) (record : Record) : Step :=
  let report := Inquiry.policyText zone record.domain .outside
  ⟨⟨record.domain, report.outcome.value?.getD "", none⟩, report.map fun _ => ()⟩

/-- Reads the text at hand. If that fails, the record has no directives. -/
def parse (zone : Zone) (options : Options) (record : Record) : Step :=
  let domains := (Lookup.inclusions zone).length + (PolicyText.inclusions record.raw).length
  let nested := Lookup.policyWithin zone options (Lookup.room options domains)
  let report := Directive.ofText zone options nested record.domain record.raw (.ofRoot record.domain)
  ⟨⟨record.domain, record.raw, report.outcome.value?⟩, report.map fun _ => ()⟩

def requirePolicy (record : Record) : Except PolicyError Policy :=
  match record.policy? with
  | some policy => .ok policy
  | none => .error (.unparsed record.domain)

def evaluate (record : Record) (address : Address) : Except PolicyError (List String) :=
  record.requirePolicy.map (·.trail address)

def matched? (record : Record) (address : Address) : Except PolicyError (Option Directive) :=
  record.requirePolicy.map (·.matched? address)

end Record

end SenderPolicy

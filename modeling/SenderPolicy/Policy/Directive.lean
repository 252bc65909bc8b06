import SenderPolicy.Inquiry
import SenderPolicy.Policy.Basic
import SenderPolicy.Term.Fields

/-! # Building directives from the terms of a text

A text that is a policy starts with a version tag, in any case of ASCII letters, which ends the text or
is followed by a space. The terms after it stand between single spaces; nothing stands between two
spaces in a row, and no other blank separates terms. The keyword of a term is judged first, then its
fields are read, and only then is anything asked: the hosts that it names, or the policy that it
includes. A directive of hosts stands for the networks around their addresses, in the order of the
answers. Terms are worked off in order, and the first that fails ends the work. A term without a
keyword is skipped, or refused where the options are strict.
-/

namespace SenderPolicy

namespace PolicyText

def versionTag : String := "v=spf1"

/-- A text is a policy if it is the tag, or starts with the tag and a space. -/
def isPolicy (raw : String) : Bool :=
  let small := raw.toList.map Char.toLower
  small == versionTag.toList || (versionTag.toList ++ [' ']).isPrefixOf small

/-- The terms after the first, which is the tag. -/
def terms (raw : String) : List String :=
  (((raw.toList.splitOn ' ').tail).filter (· ≠ [])).map String.ofList

/-- The domains whose policies the terms include. -/
def inclusions (raw : String) : List String :=
  (terms raw).filterMap fun term =>
    match Term.readInclusion term with
    | .ok fields => some fields.target
    | .error _ => none

end PolicyText

namespace Inquiry

/-- The addresses of the given hosts, one host after the other. -/
def askHosts (zone : Zone) : List Exchanger → Inquiry (List Address)
  | [] => pure []
  | exchanger :: rest => do
      let first ← askIp zone exchanger.host
      let others ← askHosts zone rest
      return first ++ others

/-- The addresses that a kind of host gives to a domain. Mail hosts are asked for as they are listed,
in the order of the list. -/
def hostAddresses (zone : Zone) (domain : String) : HostKind → Inquiry (List Address)
  | .a => askIp zone domain
  | .mx => do
      let exchangers ← askMx zone domain
      askHosts zone exchangers

end Inquiry

/-- The network of each address: in canonical form, with the length of its version. -/
def networksOf (addresses : List Address) (lengths : PrefixLengths) :
    Except PolicyError (List Block) :=
  addresses.mapM fun address =>
    let canonical := address.canonical
    let length := match canonical with
      | .v4 _ => lengths.v4
      | .v6 _ => lengths.v6
    (Block.ofAddress canonical length).mapError fun error => .format (.badBlock error)

/-- How terms and includes are treated. -/
structure Options where
  /-- A term without a keyword is an error, and is not skipped. -/
  strict : Bool := false
  /-- How many includes may be nested; without a limit, any number. -/
  maxIncludeDepth : Option Nat := none
deriving DecidableEq, Repr

/-- Refuses a term of another keyword than the wanted one. -/
def requireKeyword (wanted : Keyword) (term : String) : Except PolicyError Unit :=
  match Term.keyword? term with
  | none => .error (.format (.notKeyword term wanted))
  | some found => if found = wanted then .ok () else .error (.wrongKeyword wanted found)

namespace Directive

/-- Builds a directive of hosts. Without a domain of its own, it takes the hosts of `domain`. -/
def ofHost (zone : Zone) (wanted : HostKind) (term domain : String) : Inquiry Directive := do
  Inquiry.ofExcept (requireKeyword (.host wanted) term)
  let fields ← Inquiry.ofExcept ((Term.readHost term).mapError .format)
  let name := DomainName.normalize (fields.domain.getD domain)
  let addresses ← Inquiry.hostAddresses zone name fields.kind
  let networks ← Inquiry.ofExcept (networksOf addresses fields.lengths)
  return ⟨fields.qualifier, term, .host fields.kind name fields.lengths networks⟩

def ofLiteral (term : String) : Except PolicyError Directive := do
  requireKeyword .ip term
  let fields ← (Term.readLiteral term).mapError .format
  return ⟨fields.qualifier, term, .ip fields.network⟩

def ofAll (term : String) : Except PolicyError Directive := do
  requireKeyword .all term
  let qualifier ← (Term.readAll term).mapError .format
  return ⟨qualifier, term, .all⟩

/-- Builds a directive that includes a policy, which `nested` looks up inside the include. -/
def ofInclusion (options : Options) (nested : String → Inquiry Policy) (term : String) :
    Inquiry Directive := do
  Inquiry.ofExcept (requireKeyword .inclusion term)
  let fields ← Inquiry.ofExcept ((Term.readInclusion term).mapError .format)
  let domain := DomainName.normalize fields.target
  let policy ← Inquiry.inside options.maxIncludeDepth domain (nested domain)
  return ⟨fields.qualifier, term, .inclusion domain policy⟩

/-- Builds the directive of a term in the text of a domain, or none if the term is skipped. -/
def ofTerm? (zone : Zone) (options : Options) (nested : String → Inquiry Policy)
    (domain term : String) : Inquiry (Option Directive) :=
  match Term.keyword? term with
  | some (.host kind) => some <$> ofHost zone kind term domain
  | some .ip => some <$> Inquiry.ofExcept (ofLiteral term)
  | some .all => some <$> Inquiry.ofExcept (ofAll term)
  | some .inclusion => some <$> ofInclusion options nested term
  | none => if options.strict then Inquiry.fail (.unknownTerm term) else pure none

def ofTerms (zone : Zone) (options : Options) (nested : String → Inquiry Policy)
    (domain : String) : List String → Inquiry (List Directive)
  | [] => pure []
  | term :: rest => do
      let first ← ofTerm? zone options nested domain term
      let others ← ofTerms zone options nested domain rest
      return first.toList ++ others

/-- Builds the directives of a text of a domain, which has to be a policy. -/
def ofText (zone : Zone) (options : Options) (nested : String → Inquiry Policy)
    (domain raw : String) : Inquiry (List Directive) :=
  if PolicyText.isPolicy raw then ofTerms zone options nested domain (PolicyText.terms raw)
  else Inquiry.fail (.noPolicy domain)

end Directive

end SenderPolicy

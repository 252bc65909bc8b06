import SenderPolicy.Block
import SenderPolicy.Dns.Zone
import SenderPolicy.Term.Basic
import SenderPolicy.Text.Quoted

/-! # Why a policy cannot be had

A fault is in the fields of one term. The other errors are about a domain, or about a term without a
keyword.
-/

namespace SenderPolicy

open Text

/-- What is wrong with the fields of a term. -/
inductive FormatFault where
  /-- The fields do not have the shape that the keyword asks for. -/
  | malformed (term : String)
  /-- The term has no keyword, or a tail where the keyword allows none. -/
  | notKeyword (term : String) (wanted : Keyword)
  /-- The literal is no address of the version that the keyword names. -/
  | badLiteral (version : Version) (literal term : String)
  /-- A prefix length is longer than an address of the version. -/
  | lengthOutOfRange (digits : String) (version : Version) (term : String)
  /-- An address and a length make no block. -/
  | badBlock (error : BlockError)
deriving DecidableEq, Repr

def FormatFault.message : FormatFault → String
  | .malformed term => "got " ++ quoted term
  | .notKeyword term wanted => quoted term ++ " is not an " ++ wanted.name ++ " mechanism"
  | .badLiteral version literal term =>
      "invalid " ++ version.name ++ " address " ++ quoted literal ++ " in " ++ quoted term
  | .lengthOutOfRange digits version term =>
      "prefix /" ++ digits ++ " out of range 1-" ++ toString version.width ++ " in " ++ quoted term
  | .badBlock error => error.message

/-- What keeps a policy from being built or evaluated. -/
inductive PolicyError where
  /-- A term of a known keyword has wrong fields. -/
  | format (fault : FormatFault)
  /-- A term of one keyword was handed over as a term of another. -/
  | wrongKeyword (wanted found : Keyword)
  /-- A query about the domain failed. -/
  | dns (domain : String) (cause : DnsError)
  /-- No text of the domain is a policy. -/
  | noPolicy (domain : String)
  /-- A term has no keyword, where such terms are not skipped. -/
  | unknownTerm (term : String)
  /-- The domain is being read already. -/
  | inclusionLoop (domain : String)
  /-- Includes are nested as deep as allowed. -/
  | inclusionTooDeep (domain : String) (limit : Nat)
  /-- The text of the domain has not been read. -/
  | unparsed (domain : String)
deriving DecidableEq, Repr

def PolicyError.message : PolicyError → String
  | .format fault => "wrong mechanism format: " ++ fault.message
  | .wrongKeyword wanted found =>
      "wrong mechanism: wanted " ++ quoted wanted.name ++ " got " ++ quoted found.name
  | .dns domain cause => "failed to resolve domain " ++ domain ++ ": " ++ cause.message
  | .noPolicy domain => "no SPF record found under the domain " ++ domain
  | .unknownTerm term => "unrecognized term " ++ quoted term
  | .inclusionLoop domain => "include loop through " ++ domain
  | .inclusionTooDeep domain limit =>
      "include of " ++ domain ++ " exceeds the maximum depth of " ++ toString limit
  | .unparsed domain => "SPF record for " ++ domain ++ " has not been parsed"

end SenderPolicy

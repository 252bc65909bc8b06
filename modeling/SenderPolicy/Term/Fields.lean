import SenderPolicy.Address.Text
import SenderPolicy.Error
import SenderPolicy.Term.Basic

/-! # The fields of terms

Slashes cut the body of a term into a head and prefix lengths; the head is the keyword, or the
keyword, a colon and a target. Each keyword says what target and how many lengths it takes, and a
term of another shape is refused. A fault in the target is found before one in a length, and the
first length is judged before the second.
-/

namespace SenderPolicy

/-- How many leading bits of the addresses of each version count. -/
structure PrefixLengths where
  v4 : Nat
  v6 : Nat
deriving DecidableEq, Repr

namespace Term

/-- A term that takes its addresses from hosts. -/
structure HostTerm where
  qualifier : Qualifier
  kind : HostKind
  /-- The domain that the term names; without one, the policy's own domain is meant. -/
  domain : Option String
  lengths : PrefixLengths
deriving DecidableEq, Repr

/-- A term that refers to the policy of another domain. -/
structure InclusionTerm where
  qualifier : Qualifier
  target : String
deriving DecidableEq, Repr

/-- A term that gives a block of addresses by a literal. -/
structure LiteralTerm where
  qualifier : Qualifier
  network : Block
deriving DecidableEq, Repr

/-- The head of a term and the texts after each slash. -/
def sections (term : String) : List (List Char) := (body term).splitOn '/'

/-- What follows the first colon of a head. -/
def target? (head : List Char) : Option (List Char) :=
  match head.dropWhile (· ≠ ':') with
  | [] => none
  | _ :: target => some target

/-- The characters of a domain that a term may name: ASCII letters and digits, three marks, and the
two characters outside ASCII whose case folds into it. -/
def isNameChar (c : Char) : Bool :=
  c.isAlphanum || c = '.' || c = '_' || c = '-' || c = '\u017F' || c = '\u212A'

def isName (cs : List Char) : Bool := !cs.isEmpty && cs.all isNameChar

/-- The characters of which a literal may be made, before it is read as an address. -/
def isLiteralChar (c : Char) : Bool := (Address.hexDigit? c).isSome || c = '.' || c = ':'

/-- A text that is read as an address. -/
def isLiteral (cs : List Char) : Bool := !cs.isEmpty && cs.all isLiteralChar

/-- The text of a prefix length: one to three digits, of which the first is not zero. -/
def isLength (cs : List Char) : Bool :=
  !cs.isEmpty && decide (cs.length ≤ 3) && cs.all Char.isDigit && decide (cs.head? ≠ some '0')

/-- Reads a prefix length. Without one, all bits of the version count. -/
def readLength (term : String) (version : Version) : Option (List Char) → Except FormatFault Nat
  | none => .ok version.width
  | some digits =>
      let n := Nat.ofDigitChars 10 digits 0
      if 1 ≤ n ∧ n ≤ version.width then .ok n
      else .error (.lengthOutOfRange (String.ofList digits) version term)

/-- The kind of host that a head names, and the domain, if it has one. -/
def hostHead? (head : List Char) : Option (HostKind × Option (List Char)) :=
  match Keyword.ofWord? (word head) with
  | some (.host kind) =>
      if (target? head).all isName then some (kind, target? head) else none
  | _ => none

/-- The version of the literal that a head names, and the literal. -/
def literalHead? (head : List Char) : Option (Version × List Char) :=
  match target? head with
  | none => none
  | some literal =>
      if !isLiteral literal then none
      else if word head = "ip4".toList then some (.v4, literal)
      else if word head = "ip6".toList then some (.v6, literal)
      else none

/-- Reads a term of hosts, which takes a length for each version. -/
def readHost (term : String) : Except FormatFault HostTerm :=
  match sections term with
  | [] => .error (.malformed term)
  | head :: lengths =>
      match hostHead? head with
      | none => .error (.malformed term)
      | some (kind, domain) =>
          if lengths.length ≤ 2 ∧ lengths.all isLength = true then do
            let v4 ← readLength term .v4 lengths[0]?
            let v6 ← readLength term .v6 lengths[1]?
            return ⟨qualifier term, kind, domain.map String.ofList, ⟨v4, v6⟩⟩
          else .error (.malformed term)

def readInclusion (term : String) : Except FormatFault InclusionTerm :=
  match sections term with
  | [head] =>
      match target? head with
      | none => .error (.malformed term)
      | some target =>
          if word head = "include".toList ∧ isName target = true then
            .ok ⟨qualifier term, String.ofList target⟩
          else .error (.malformed term)
  | _ => .error (.malformed term)

def readLiteral (term : String) : Except FormatFault LiteralTerm :=
  match sections term with
  | [] => .error (.malformed term)
  | head :: lengths =>
      match literalHead? head with
      | none => .error (.malformed term)
      | some (version, literal) =>
          if lengths.length ≤ 1 ∧ lengths.all isLength = true then
            match Address.ofVersion? version literal with
            | none => .error (.badLiteral version (String.ofList literal) term)
            | some address => do
                let length ← readLength term version lengths[0]?
                let network ← (Block.ofAddress address length).mapError .badBlock
                return ⟨qualifier term, network⟩
          else .error (.malformed term)

/-- Reads a term that matches every address, which has no fields. -/
def readAll (term : String) : Except FormatFault Qualifier :=
  if (body term).map Char.toLower = "all".toList then .ok (qualifier term)
  else .error (.notKeyword term .all)

end Term

end SenderPolicy

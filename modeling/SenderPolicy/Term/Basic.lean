/-! # Terms and the mechanisms they name

A term is an optional qualifier, a keyword in any case of ASCII letters, and a tail that is empty or
starts with a colon or a slash. The qualifier is one character that says what a match means. The
mechanisms go by keywords; two words name the networks given by a literal address, one for each
version, and they count as one keyword. Which keyword a term has does not hang on the fields in its
tail, but a line feed anywhere after the qualifier makes it no term of any keyword.
-/

namespace SenderPolicy

/-- What a match means for the sender. -/
inductive Qualifier where
  | pass
  | fail
  | softFail
  | neutral
deriving DecidableEq

namespace Qualifier

/-- The qualifier that a character stands for. -/
def ofChar? : Char → Option Qualifier
  | '+' => some .pass
  | '-' => some .fail
  | '~' => some .softFail
  | '?' => some .neutral
  | _ => none

/-- The qualifier that a text starts with; a match passes if there is none. -/
def decode (text : String) : Qualifier := (text.toList.head?.bind ofChar?).getD .pass

def name : Qualifier → String
  | .pass => "Pass"
  | .fail => "Fail"
  | .softFail => "SoftFail"
  | .neutral => "Neutral"

instance : Repr Qualifier where
  reprPrec qualifier _ := qualifier.name

end Qualifier

/-- The mechanisms whose addresses come from a look-up of hosts. -/
inductive HostKind where
  | a
  | mx
deriving DecidableEq, Repr

inductive Keyword where
  | host (kind : HostKind)
  | inclusion
  | ip
  | all
deriving DecidableEq, Repr

namespace Keyword

/-- Every keyword with the words that name it, in small letters. -/
def words : List (List Char × Keyword) :=
  [("a".toList, .host .a), ("mx".toList, .host .mx), ("include".toList, .inclusion),
    ("ip4".toList, .ip), ("ip6".toList, .ip), ("all".toList, .all)]

def ofWord? (word : List Char) : Option Keyword := words.lookup word

/-- How messages call the keyword. -/
def name : Keyword → String
  | .host .a => "a"
  | .host .mx => "mx"
  | .inclusion => "include"
  | .ip => "ip"
  | .all => "all"

end Keyword

namespace Term

def qualifier (term : String) : Qualifier := Qualifier.decode term

/-- What follows the qualifier, or the whole term if it has none. -/
def body (term : String) : List Char :=
  match term.toList with
  | [] => []
  | c :: rest => if (Qualifier.ofChar? c).isSome then rest else c :: rest

def isDelimiter (c : Char) : Bool := c = ':' || c = '/'

/-- The word before the tail, in small letters. -/
def word (cs : List Char) : List Char := (cs.takeWhile fun c => !isDelimiter c).map Char.toLower

/-- The keyword of a term, whatever its fields are. -/
def keyword? (term : String) : Option Keyword :=
  if '\n' ∈ body term then none else Keyword.ofWord? (word (body term))

end Term

end SenderPolicy

import SenderPolicy.Term.Fields

/-! # Policies

A policy is the list of directives that the text of a domain states, in the order of the text. What a
directive needs to know is found when it is built: the networks of hosts, and the whole policy that an
include refers to. So a policy is a finite tree, which can be compared with others, and matching an
address asks nothing. The first directive that matches decides. The trail of a match names the
directives that led to it, from the outermost include to the directive that covers the address; an
empty trail is no match.
-/

namespace SenderPolicy

mutual

/-- What a directive matches by. -/
inductive Mechanism where
  /-- The addresses of the hosts of a domain, each widened to its network. -/
  | host (kind : HostKind) (domain : String) (lengths : PrefixLengths) (networks : List Block)
  /-- One network. -/
  | ip (network : Block)
  /-- Whatever the policy of a domain matches. -/
  | inclusion (domain : String) (policy : Policy)
  /-- Every address. -/
  | all

/-- A mechanism with its qualifier, and the term that states it, as it stands in the text. -/
structure Directive where
  qualifier : Qualifier
  text : String
  mechanism : Mechanism

/-- The directives of a domain, and the text that states them. -/
structure Policy where
  domain : String
  raw : String
  directives : List Directive

end

def Mechanism.keyword : Mechanism → Keyword
  | .host kind .. => .host kind
  | .ip _ => .ip
  | .inclusion .. => .inclusion
  | .all => .all

mutual

def Mechanism.decEq : (left right : Mechanism) → Decidable (left = right)
  | .host kind domain lengths networks, .host kind' domain' lengths' networks' =>
      if same : kind = kind' ∧ domain = domain' ∧ lengths = lengths' ∧ networks = networks' then
        isTrue (by obtain ⟨rfl, rfl, rfl, rfl⟩ := same; rfl)
      else isFalse (by intro equal; cases equal; exact same ⟨rfl, rfl, rfl, rfl⟩)
  | .ip network, .ip network' =>
      if same : network = network' then isTrue (by rw [same])
      else isFalse (by intro equal; cases equal; exact same rfl)
  | .inclusion domain policy, .inclusion domain' policy' =>
      match decEq domain domain', policy.decEq policy' with
      | isTrue sameDomain, isTrue samePolicy => isTrue (by rw [sameDomain, samePolicy])
      | isFalse differ, _ => isFalse (by intro equal; cases equal; exact differ rfl)
      | _, isFalse differ => isFalse (by intro equal; cases equal; exact differ rfl)
  | .all, .all => isTrue rfl
  | .host .., .ip .. | .host .., .inclusion .. | .host .., .all
  | .ip .., .host .. | .ip .., .inclusion .. | .ip .., .all
  | .inclusion .., .host .. | .inclusion .., .ip .. | .inclusion .., .all
  | .all, .host .. | .all, .ip .. | .all, .inclusion .. => isFalse (by intro equal; cases equal)

def Directive.decEq : (left right : Directive) → Decidable (left = right)
  | ⟨qualifier, text, mechanism⟩, ⟨qualifier', text', mechanism'⟩ =>
      match decEq qualifier qualifier', decEq text text', mechanism.decEq mechanism' with
      | isTrue sameQualifier, isTrue sameText, isTrue sameMechanism =>
          isTrue (by rw [sameQualifier, sameText, sameMechanism])
      | isFalse differ, _, _ => isFalse (by intro equal; cases equal; exact differ rfl)
      | _, isFalse differ, _ => isFalse (by intro equal; cases equal; exact differ rfl)
      | _, _, isFalse differ => isFalse (by intro equal; cases equal; exact differ rfl)

def Policy.decEq : (left right : Policy) → Decidable (left = right)
  | ⟨domain, raw, directives⟩, ⟨domain', raw', directives'⟩ =>
      match decEq domain domain', decEq raw raw', directivesDecEq directives directives' with
      | isTrue sameDomain, isTrue sameRaw, isTrue sameDirectives =>
          isTrue (by rw [sameDomain, sameRaw, sameDirectives])
      | isFalse differ, _, _ => isFalse (by intro equal; cases equal; exact differ rfl)
      | _, isFalse differ, _ => isFalse (by intro equal; cases equal; exact differ rfl)
      | _, _, isFalse differ => isFalse (by intro equal; cases equal; exact differ rfl)

def directivesDecEq : (left right : List Directive) → Decidable (left = right)
  | [], [] => isTrue rfl
  | [], _ :: _ | _ :: _, [] => isFalse (by intro equal; cases equal)
  | directive :: rest, directive' :: rest' =>
      match directive.decEq directive', directivesDecEq rest rest' with
      | isTrue sameDirective, isTrue sameRest => isTrue (by rw [sameDirective, sameRest])
      | isFalse differ, _ => isFalse (by intro equal; cases equal; exact differ rfl)
      | _, isFalse differ => isFalse (by intro equal; cases equal; exact differ rfl)

end

instance : DecidableEq Mechanism := Mechanism.decEq

instance : DecidableEq Directive := Directive.decEq

instance : DecidableEq Policy := Policy.decEq

mutual

/-- The trail of a directive: its own term, and below an include the trail of the policy there. -/
def Directive.trail (address : Address) : Directive → List String
  | ⟨_, text, mechanism⟩ =>
      match mechanism with
      | .host _ _ _ networks => if networks.any (·.contains address) then [text] else []
      | .ip network => if network.contains address then [text] else []
      | .inclusion _ policy =>
          match policy.trail address with
          | [] => []
          | nested => text :: nested
      | .all => [text]

/-- The trail of a policy: that of its first directive that matches. -/
def Policy.trail (address : Address) : Policy → List String
  | ⟨_, _, directives⟩ => firstTrail address directives

/-- The first trail that is not empty. -/
def firstTrail (address : Address) : List Directive → List String
  | [] => []
  | directive :: rest =>
      match directive.trail address with
      | [] => firstTrail address rest
      | trail => trail

end

/-- A directive matches an address if it leaves a trail. -/
def Directive.covers (directive : Directive) (address : Address) : Bool :=
  !(directive.trail address).isEmpty

/-- The directive of a policy that decides about an address. -/
def Policy.matched? (policy : Policy) (address : Address) : Option Directive :=
  policy.directives.find? (·.covers address)

theorem Policy.trail_eq (policy : Policy) (address : Address) :
    policy.trail address = firstTrail address policy.directives := by
  cases policy
  rfl

/-- The trail of a list of directives is that of the first one which covers the address. -/
theorem firstTrail_eq_find? (address : Address) (directives : List Directive) :
    firstTrail address directives =
      ((directives.find? (·.covers address)).map (·.trail address)).getD [] := by
  induction directives with
  | nil => rfl
  | cons directive rest ih =>
    rw [firstTrail, List.find?_cons]
    cases left : directive.trail address with
    | nil => simpa [Directive.covers, left] using ih
    | cons text nested => simp [Directive.covers, left]

/-- The directive that decides leaves the trail of the policy. -/
theorem Policy.trail_eq_matched? (policy : Policy) (address : Address) :
    policy.trail address = ((policy.matched? address).map (·.trail address)).getD [] := by
  rw [policy.trail_eq, firstTrail_eq_find?, Policy.matched?]

end SenderPolicy

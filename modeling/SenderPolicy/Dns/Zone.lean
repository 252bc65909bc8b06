import SenderPolicy.Address.Basic
import SenderPolicy.Text.Lowercase

/-! # What the name servers hold

A query asks for texts, addresses or mail hosts. A zone keeps these by domain, and the failures that
some domains answer with. Its keys are in small letters of every alphabet and are otherwise taken as
they stand, trailing dots included. A failing domain fails for every kind of query, and an unknown one
has empty answers.
-/

namespace SenderPolicy

inductive QueryKind where
  | txt
  | ip
  | mx
deriving DecidableEq, Repr

/-- A question about a domain, whose name stands in small letters of every alphabet. -/
structure Query where
  kind : QueryKind
  key : String
deriving DecidableEq, Repr

def Query.about (kind : QueryKind) (domain : String) : Query := ⟨kind, Text.lowercase domain⟩

inductive DnsError where
  | nxDomain
  | servFail
  | timeout
  | other (text : String)
deriving DecidableEq, Repr

def DnsError.message : DnsError → String
  | .nxDomain => "NXDOMAIN: domain does not exist"
  | .servFail => "SERVFAIL: server failure"
  | .timeout => "timeout"
  | .other text => "DNS error: " ++ text

/-- A mail host of a domain, with the preference it is listed with. -/
structure Exchanger where
  preference : Nat
  host : String
deriving DecidableEq, Repr

/-- Values by key. At most one entry of a key counts, the first. -/
structure Table (α : Type) where
  entries : List (String × α) := []
deriving DecidableEq, Repr

namespace Table

variable {α : Type}

def get? (table : Table α) (key : String) : Option α := table.entries.lookup key

def insert (table : Table α) (key : String) (value : α) : Table α :=
  ⟨(key, value) :: table.entries.filter fun entry => entry.1 != key⟩

theorem lookup_filter_ne {key other : String} (distinct : other ≠ key) (entries : List (String × α)) :
    (entries.filter fun entry => entry.1 != key).lookup other = entries.lookup other := by
  induction entries with
  | nil => rfl
  | cons entry rest ih =>
    obtain ⟨name, value⟩ := entry
    by_cases same : name = key
    · subst same
      have differs : (other == name) = false := beq_false_of_ne distinct
      simpa [List.lookup_cons, differs] using ih
    · simp only [List.filter_cons, bne_iff_ne, ne_eq, same, not_false_eq_true, ↓reduceIte,
        List.lookup_cons]
      rw [ih]

/-- The last write to a key counts, and leaves every other key as it was. -/
theorem get?_insert (table : Table α) (key other : String) (value : α) :
    (table.insert key value).get? other = if other = key then some value else table.get? other := by
  split
  · next same =>
    subst same
    simp [get?, insert]
  · next distinct =>
    have differs : (other == key) = false := beq_false_of_ne distinct
    simpa [get?, insert, List.lookup_cons, differs] using lookup_filter_ne distinct table.entries

end Table

structure Zone where
  texts : Table (List String) := {}
  addresses : Table (List Address) := {}
  exchangers : Table (List Exchanger) := {}
  failures : Table DnsError := {}
deriving DecidableEq, Repr

namespace Zone

def setTxt (zone : Zone) (domain : String) (texts : List String) : Zone :=
  { zone with texts := zone.texts.insert (Text.lowercase domain) texts }

def setIp (zone : Zone) (domain : String) (addresses : List Address) : Zone :=
  { zone with addresses := zone.addresses.insert (Text.lowercase domain) addresses }

def setMx (zone : Zone) (domain : String) (exchangers : List Exchanger) : Zone :=
  { zone with exchangers := zone.exchangers.insert (Text.lowercase domain) exchangers }

/-- Lets every query about a domain fail. -/
def setError (zone : Zone) (domain : String) (error : DnsError) : Zone :=
  { zone with failures := zone.failures.insert (Text.lowercase domain) error }

/-- The answer under a key: the failure there, or else the entry, or else nothing. -/
def answer {α : Type} (zone : Zone) (table : Table (List α)) (key : String) :
    Except DnsError (List α) :=
  match zone.failures.get? key with
  | some error => .error error
  | none => .ok ((table.get? key).getD [])

def txt (zone : Zone) (domain : String) : Except DnsError (List String) :=
  zone.answer zone.texts (Text.lowercase domain)

def ip (zone : Zone) (domain : String) : Except DnsError (List Address) :=
  zone.answer zone.addresses (Text.lowercase domain)

def mx (zone : Zone) (domain : String) : Except DnsError (List Exchanger) :=
  zone.answer zone.exchangers (Text.lowercase domain)

end Zone

end SenderPolicy

import SenderPolicy.Proofs.Lookup.Room
import SenderPolicy.Proofs.Policy.Statement
import SenderPolicy.Proofs.Record.Life

/-! # Reading a text

Reading a record works off the terms of its text one after the other. Each include is left as it was
entered, so the terms before it leave no mark on those after it: a text of two parts is read as its parts
are, until the first error. How much space stands between the terms does not matter.
-/

namespace SenderPolicy

open Inquiry

variable {zone : Zone} {options : Options} {domain : String} {left right terms : List String}

namespace Directive

/-- Terms are built one part after the other. -/
theorem ofTerms_append (zone : Zone) (options : Options) (nested : String → Inquiry Policy)
    (domain : String) (left right : List String) :
    ofTerms zone options nested domain (left ++ right) = (do
      let given ← ofTerms zone options nested domain left
      let others ← ofTerms zone options nested domain right
      return given ++ others) := by
  induction left with
  | nil => simp [ofTerms]
  | cons term rest ih =>
    simp only [List.cons_append, ofTerms, ih, bind_assoc, pure_bind, List.append_assoc]

/-- With enough room inside, the terms of a domain come to an outcome, after these queries. -/
def ComeTo (zone : Zone) (options : Options) (domain : String) (terms : List String)
    (outcome : Outcome (List Directive)) (queries : List Query) : Prop :=
  ∃ enough, ∀ room, enough ≤ room →
    ofTerms zone options (Lookup.policyWithin zone options room) domain terms (.ofRoot domain) =
      ⟨outcome, .ofRoot domain, queries⟩

/-- The first error is the error of the whole. -/
theorem ComeTo.append_of_failed {error : PolicyError} {asked : List Query}
    (failed : ComeTo zone options domain left (.failed error) asked) (right : List String) :
    ComeTo zone options domain (left ++ right) (.failed error) asked := by
  obtain ⟨enough, ran⟩ := failed
  refine ⟨enough, fun room le => ?_⟩
  rw [ofTerms_append, bind_apply_failed (ran room le)]

/-- Without an error in the first part, the second goes on from where the first started. -/
theorem ComeTo.append {given : List Directive} {outcome : Outcome (List Directive)}
    {asked more : List Query} (first : ComeTo zone options domain left (.done given) asked)
    (second : ComeTo zone options domain right outcome more) :
    ComeTo zone options domain (left ++ right) (outcome.map (given ++ ·)) (asked ++ more) := by
  obtain ⟨enough, ran⟩ := first
  obtain ⟨plenty, went⟩ := second
  refine ⟨max enough plenty, fun room le => ?_⟩
  obtain ⟨enoughLe, plentyLe⟩ := max_le_iff.mp le
  rw [ofTerms_append, bind_apply_done (ran room enoughLe), ← map_eq_pure_bind, map_apply,
    went room plentyLe]
  rfl

end Directive

namespace Record

variable {record : Record}

def room (zone : Zone) (options : Options) (record : Record) : Nat :=
  Lookup.room options ((Lookup.inclusions zone).length + (PolicyText.inclusions record.raw).length)

/-- What reading a record leaves, when its text is built with this report. -/
def readAs (record : Record) (report : Report (List Directive)) : Step :=
  ⟨⟨record.domain, record.raw, report.outcome.value?⟩, report.map fun _ => ()⟩

theorem parse_eq (zone : Zone) (options : Options) (record : Record) :
    record.parse zone options = record.readAs (Directive.ofText zone options
      (Lookup.policyWithin zone options (record.room zone options)) record.domain record.raw
      (.ofRoot record.domain)) := rfl

/-- A record is read as its text is built in any room where that has an end. -/
theorem parse_eq_of_ofText {room : Nat} {report : Report (List Directive)}
    (ran : Directive.ofText zone options (Lookup.policyWithin zone options room) record.domain record.raw
      (.ofRoot record.domain) = report)
    (ends : report.outcome ≠ .unending) : record.parse zone options = record.readAs report := by
  have le : Lookup.room options (Lookup.inclusions zone).length ≤ record.room zone options :=
    Lookup.room_le_room options (Nat.le_add_right _ _)
  subst ran
  rw [parse_eq, Directive.extends_ofText (Lookup.extends_policyWithin_of_room_le le room) record.raw _ ends]

/-- A text that states terms is built term by term. -/
theorem ofText_of_states {raw : String} (states : PolicyText.States raw terms)
    (nested : String → Inquiry Policy) (domain : String) :
    Directive.ofText zone options nested domain raw =
      Directive.ofTerms zone options nested domain terms := by
  rw [Directive.ofText, if_pos states.isPolicy, states.terms_eq]

/-- A text is read as its terms are built, in any room that they leave an end. -/
theorem parse_of_comeTo (states : PolicyText.States record.raw terms)
    {outcome : Outcome (List Directive)} {queries : List Query}
    (comeTo : Directive.ComeTo zone options record.domain terms outcome queries)
    (ends : outcome ≠ .unending) :
    record.parse zone options = record.readAs ⟨outcome, .ofRoot record.domain, queries⟩ := by
  obtain ⟨enough, ran⟩ := comeTo
  have built := ran enough le_rfl
  rw [← ofText_of_states states] at built
  exact parse_eq_of_ofText built ends

/-- What reading a text with an end comes to is what its terms come to. -/
theorem exists_comeTo (states : PolicyText.States record.raw terms)
    (ends : (record.parse zone options).report.outcome ≠ .unending) :
    ∃ outcome queries,
      record.parse zone options = record.readAs ⟨outcome, .ofRoot record.domain, queries⟩ ∧
      Directive.ComeTo zone options record.domain terms outcome queries := by
  have balanced := Directive.balanced_ofTerms zone options record.domain
    (Lookup.balanced_policyWithin zone options (record.room zone options)) terms (.ofRoot record.domain)
  rw [parse_eq, ofText_of_states states] at ends ⊢
  rcases ran : Directive.ofTerms zone options
    (Lookup.policyWithin zone options (record.room zone options)) record.domain terms
    (.ofRoot record.domain) with ⟨outcome, last, queries⟩
  rw [ran] at balanced ends
  obtain rfl : last = .ofRoot record.domain := balanced
  refine ⟨outcome, queries, rfl, record.room zone options, fun room le => ?_⟩
  rw [← ran]
  apply Directive.extends_ofTerms zone options record.domain (Lookup.extends_policyWithin le) terms
  rw [ran]
  exact fun unending => ends (Outcome.map_eq_unending_iff.mpr unending)

theorem comeTo_of_failed (states : PolicyText.States record.raw terms) {error : PolicyError}
    (failed : (record.parse zone options).report.outcome = .failed error) :
    Directive.ComeTo zone options record.domain terms (.failed error)
      (record.parse zone options).report.queries := by
  obtain ⟨outcome, queries, read, comeTo⟩ := exists_comeTo states (by rw [failed]; exact nofun)
  rw [read] at failed ⊢
  obtain rfl : outcome = .failed error := Outcome.map_eq_failed_iff.mp failed
  exact comeTo

theorem comeTo_of_read (states : PolicyText.States record.raw terms) {directives : List Directive}
    (read : (record.parse zone options).record.directives? = some directives) :
    Directive.ComeTo zone options record.domain terms (.done directives)
      (record.parse zone options).report.queries := by
  have done := parse_outcome_eq_done_iff.mpr ⟨directives, read⟩
  obtain ⟨outcome, queries, same, comeTo⟩ := exists_comeTo states (by rw [done]; exact nofun)
  rw [same] at read ⊢
  obtain rfl : outcome = .done directives := Outcome.value?_eq_some_iff.mp read
  exact comeTo

/-- The record of a domain with a text that states terms. -/
def stating (domain : String) (terms : List String) : Record := ⟨domain, PolicyText.written terms, none⟩

/-- A text of two parts is read as its parts are. An error in the first part is the error of the whole,
after the same queries; an error in the second comes after the queries of the first; and without an error
the directives of the second stand behind those of the first. More space between the terms changes
nothing. -/
theorem parse_append (zone : Zone) (options : Options) (domain : String) {left right : List String}
    (isTerm : ∀ term ∈ left ++ right, PolicyText.IsTerm term) :
    (∀ error, ((stating domain left).parse zone options).report.outcome = .failed error →
      ((stating domain (left ++ right)).parse zone options).report.outcome = .failed error ∧
      ((stating domain (left ++ right)).parse zone options).report.queries =
        ((stating domain left).parse zone options).report.queries) ∧
    (∀ given, ((stating domain left).parse zone options).record.directives? = some given →
      (∀ error, ((stating domain right).parse zone options).report.outcome = .failed error →
        ((stating domain (left ++ right)).parse zone options).report.outcome = .failed error ∧
        ((stating domain (left ++ right)).parse zone options).report.queries =
          ((stating domain left).parse zone options).report.queries ++
            ((stating domain right).parse zone options).report.queries) ∧
      ∀ others, ((stating domain right).parse zone options).record.directives? = some others →
        ((stating domain (left ++ right)).parse zone options).record.directives? =
          some (given ++ others) ∧
        ((stating domain (left ++ right)).parse zone options).report.outcome = .done () ∧
        ((stating domain (left ++ right)).parse zone options).report.queries =
          ((stating domain left).parse zone options).report.queries ++
            ((stating domain right).parse zone options).report.queries) ∧
    ∀ record : Record, record.domain = domain → PolicyText.States record.raw (left ++ right) →
      (record.parse zone options).report =
          ((stating domain (left ++ right)).parse zone options).report ∧
        (record.parse zone options).record.directives? =
          ((stating domain (left ++ right)).parse zone options).record.directives? := by
  obtain ⟨leftTerms, rightTerms⟩ := List.forall_mem_append.mp isTerm
  have statesLeft : PolicyText.States (stating domain left).raw left := PolicyText.states_written leftTerms
  have statesRight : PolicyText.States (stating domain right).raw right :=
    PolicyText.states_written rightTerms
  have states : PolicyText.States (stating domain (left ++ right)).raw (left ++ right) :=
    PolicyText.states_written isTerm
  refine ⟨fun error failed => ?_, fun given read => ⟨fun error failed => ?_, fun others after => ?_⟩, ?_⟩
  · have whole := (comeTo_of_failed statesLeft failed).append_of_failed right
    rw [parse_of_comeTo states whole nofun]
    exact ⟨rfl, rfl⟩
  · have whole := (comeTo_of_read statesLeft read).append (comeTo_of_failed statesRight failed)
    rw [parse_of_comeTo states whole nofun]
    exact ⟨rfl, rfl⟩
  · have whole := (comeTo_of_read statesLeft read).append (comeTo_of_read statesRight after)
    rw [parse_of_comeTo states whole nofun]
    exact ⟨rfl, rfl, rfl⟩
  · rintro record rfl statesOther
    have room_eq : record.room zone options =
        (stating record.domain (left ++ right)).room zone options := by
      unfold room PolicyText.inclusions
      rw [statesOther.terms_eq, states.terms_eq]
    rw [parse_eq, parse_eq, ofText_of_states states, ofText_of_states statesOther, room_eq]
    exact ⟨rfl, rfl⟩

def sharedZone : Zone :=
  (({} : Zone).setTxt "b" ["v=spf1 include:c ?all"]).setTxt "c" ["v=spf1 a"]

/-- A first part that includes both domains inside each other, and a second that includes one of them
again. A later include is read as if there were none before it. -/
theorem parse_append_shared :
    let left := ["include:b", "mx"]
    let right := ["Include:C.", "ip4:10.0.0.0/33"]
    (∀ term ∈ left ++ right, PolicyText.IsTerm term) ∧
    ((stating "a" left).parse sharedZone {}).record.directives?.isSome ∧
    ((stating "a" (left ++ right)).parse sharedZone {}).report.outcome =
      .failed (.format (.lengthOutOfRange "33" .v4 "ip4:10.0.0.0/33")) ∧
    ((stating "a" (left ++ right)).parse sharedZone {}).report.queries =
      [⟨.txt, "b"⟩, ⟨.txt, "c"⟩, ⟨.ip, "c"⟩, ⟨.mx, "a"⟩] ++ [⟨.txt, "c"⟩, ⟨.ip, "c"⟩] := by
  intro left right
  have isTerm : ∀ term ∈ left ++ right, PolicyText.IsTerm term := by decide +kernel
  have read : ((stating "a" left).parse sharedZone {}).record.directives?.isSome := by decide +kernel
  have failed : ((stating "a" right).parse sharedZone {}).report.outcome =
      .failed (.format (.lengthOutOfRange "33" .v4 "ip4:10.0.0.0/33")) := by decide +kernel
  obtain ⟨given, read_eq⟩ := Option.isSome_iff_exists.mp read
  have law := ((parse_append sharedZone {} "a" isTerm).2.1 given read_eq).1 _ failed
  refine ⟨isTerm, read, law.1, law.2.trans ?_⟩
  decide +kernel

end Record

end SenderPolicy

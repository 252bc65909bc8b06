import SenderPolicy.Dns.Resolver

/-! # What a resolver has been told

A resolver is told about domains and asked about them, in any order. What it was told last about a domain
counts, for each kind of query apart; and once it was told that a domain fails, nothing it is told later
about this domain can be asked for. Domains that differ in the case of their letters are one. Asking adds
one query to the log, whatever the answer is, and leaves all answers as they are.
-/

namespace SenderPolicy

namespace Zone

def set (zone : Zone) (domain : String) : (kind : QueryKind) → List kind.Item → Zone
  | .txt, texts => zone.setTxt domain texts
  | .ip, addresses => zone.setIp domain addresses
  | .mx, exchangers => zone.setMx domain exchangers

def items (zone : Zone) : (kind : QueryKind) → Table (List kind.Item)
  | .txt => zone.texts
  | .ip => zone.addresses
  | .mx => zone.exchangers

end Zone

namespace Resolver

inductive Act where
  | set (domain : String) (kind : QueryKind) (items : List kind.Item)
  | fail (domain : String) (error : DnsError)
  | ask (domain : String) (kind : QueryKind)

namespace Act

/-- The failure that an act sets for a domain. -/
def failure? (domain : String) : Act → Option DnsError
  | .fail other error => if Text.lowercase domain = Text.lowercase other then some error else none
  | _ => none

/-- What an act gives to a domain, for one kind of query. -/
def items? (domain : String) : (kind : QueryKind) → Act → Option (List kind.Item)
  | .txt, .set other .txt texts =>
      if Text.lowercase domain = Text.lowercase other then some texts else none
  | .ip, .set other .ip addresses =>
      if Text.lowercase domain = Text.lowercase other then some addresses else none
  | .mx, .set other .mx exchangers =>
      if Text.lowercase domain = Text.lowercase other then some exchangers else none
  | _, _ => none

def query? : Act → Option Query
  | .ask domain kind => some ⟨kind, Text.lowercase domain⟩
  | _ => none

end Act

def act (resolver : Resolver) : Act → Resolver
  | .set domain kind items => resolver.update (·.set domain kind items)
  | .fail domain error => resolver.update (·.setError domain error)
  | .ask domain kind => (resolver.ask domain kind).2

def after (resolver : Resolver) (acts : List Act) : Resolver := acts.foldl act resolver

section Latest

variable {α : Type} {writes : Act → Option α} {acts : List Act} {value : α}

/-- The last of the acts that write something writes this. -/
def Latest (writes : Act → Option α) (acts : List Act) (value : α) : Prop :=
  ∃ earlier act later, acts = earlier ++ act :: later ∧ writes act = some value ∧
    ∀ other ∈ later, writes other = none

/-- None of the acts writes anything. -/
def Never (writes : Act → Option α) (acts : List Act) : Prop := ∀ act ∈ acts, writes act = none

instance : Decidable (Never writes acts) :=
  inferInstanceAs (Decidable (∀ act ∈ acts, writes act = none))

def latest? (writes : Act → Option α) (acts : List Act) : Option α := acts.reverse.findSome? writes

theorem latest?_append (writes : Act → Option α) (earlier later : List Act) :
    latest? writes (earlier ++ later) = (latest? writes later).or (latest? writes earlier) := by
  rw [latest?, List.reverse_append, List.findSome?_append]
  rfl

theorem latest?_cons (writes : Act → Option α) (first : Act) (rest : List Act) :
    latest? writes (first :: rest) = (latest? writes rest).or (writes first) := by
  rw [← List.singleton_append, latest?_append]
  simp [latest?]

theorem latest?_eq_some_iff : latest? writes acts = some value ↔ Latest writes acts value := by
  rw [latest?, List.findSome?_eq_some_iff]
  constructor
  · rintro ⟨later, act, earlier, reversed, written, silent⟩
    refine ⟨earlier.reverse, act, later.reverse, ?_, written, ?_⟩
    · rw [← List.reverse_reverse acts, reversed]
      simp
    · intro other member
      exact silent other (List.mem_reverse.mp member)
  · rintro ⟨earlier, act, later, rfl, written, silent⟩
    refine ⟨later.reverse, act, earlier.reverse, by simp, written, ?_⟩
    intro other member
    exact silent other (List.mem_reverse.mp member)

theorem latest?_eq_none_iff : latest? writes acts = none ↔ Never writes acts := by
  simp [latest?, Never]

/-- What every act overwrites with what it writes is what was written last, or else what it was before. -/
theorem view_after (view : Resolver → Option α)
    (step : ∀ resolver act, view (resolver.act act) = (writes act).or (view resolver))
    (resolver : Resolver) (acts : List Act) :
    view (resolver.after acts) = (latest? writes acts).or (view resolver) := by
  induction acts generalizing resolver with
  | nil => rfl
  | cons first rest ih =>
    change view ((resolver.act first).after rest) = _
    rw [ih, step, latest?_cons, Option.or_assoc]

end Latest

/-- Under every key a write comes before what was there. -/
theorem get?_insert_eq_or {α : Type} (table : Table α) (key other : String) (value : α) :
    (table.insert key value).get? other =
      (if other = key then some value else none).or (table.get? other) := by
  rw [Table.get?_insert]
  split <;> rfl

theorem failures_act (domain : String) (resolver : Resolver) (act : Act) :
    (resolver.act act).zone.failures.get? (Text.lowercase domain) =
      (act.failure? domain).or (resolver.zone.failures.get? (Text.lowercase domain)) := by
  cases act with
  | set other kind items => cases kind <;> rfl
  | ask other kind => cases kind <;> rfl
  | fail other error => exact get?_insert_eq_or ..

theorem items_act (domain : String) (kind : QueryKind) (resolver : Resolver) (act : Act) :
    ((resolver.act act).zone.items kind).get? (Text.lowercase domain) =
      (act.items? domain kind).or ((resolver.zone.items kind).get? (Text.lowercase domain)) := by
  cases act with
  | fail other error => cases kind <;> rfl
  | ask other asked => cases asked <;> cases kind <;> rfl
  | set other given items =>
    -- A write reaches the table of its own kind alone.
    cases kind <;> cases given <;> first | rfl | exact get?_insert_eq_or ..

theorem log_act (resolver : Resolver) (act : Act) :
    (resolver.act act).log = resolver.log ++ act.query?.toList := by
  cases act with
  | set other kind items => exact (List.append_nil _).symm
  | fail other error => exact (List.append_nil _).symm
  | ask other kind => cases kind <;> rfl

/-- A query is answered with the failure that was set last, or else with what was set last. -/
theorem ask_after (acts : List Act) (domain : String) (kind : QueryKind) :
    ((({} : Resolver).after acts).ask domain kind).1 =
      match latest? (Act.failure? domain) acts with
      | some error => .error error
      | none => .ok ((latest? (Act.items? domain kind) acts).getD []) := by
  have answered (resolver : Resolver) : (resolver.ask domain kind).1 =
      resolver.zone.answer (resolver.zone.items kind) (Text.lowercase domain) := by
    cases kind <;> rfl
  have failures := view_after (·.zone.failures.get? (Text.lowercase domain))
    (failures_act domain) {} acts
  have items := view_after (fun resolver => (resolver.zone.items kind).get? (Text.lowercase domain))
    (items_act domain kind) {} acts
  have healthy : ({} : Zone).failures.get? (Text.lowercase domain) = none := rfl
  have empty : (({} : Zone).items kind).get? (Text.lowercase domain) = none := by cases kind <;> rfl
  rw [healthy, Option.or_none] at failures
  rw [empty, Option.or_none] at items
  rw [answered, Zone.answer, failures]
  cases latest? (Act.failure? domain) acts with
  | some error => rfl
  | none => exact congrArg (fun found => Except.ok (Option.getD found [])) items

theorem log_after (resolver : Resolver) (acts : List Act) :
    (resolver.after acts).log = resolver.log ++ acts.filterMap Act.query? := by
  induction acts generalizing resolver with
  | nil => exact (List.append_nil _).symm
  | cons first rest ih =>
    change ((resolver.act first).after rest).log = _
    rw [ih, log_act, List.append_assoc]
    cases asked : first.query? <;> simp [asked]

/-- What was asked before makes no difference to an answer. -/
theorem ask_after_ask (earlier later : List Act) (asked domain : String) (other kind : QueryKind) :
    ((({} : Resolver).after (earlier ++ .ask asked other :: later)).ask domain kind).1 =
      ((({} : Resolver).after (earlier ++ later)).ask domain kind).1 := by
  have silent : ∀ {α : Type} (writes : Act → Option α), writes (.ask asked other) = none →
      latest? writes (earlier ++ .ask asked other :: later) = latest? writes (earlier ++ later) := by
    intro α writes none
    rw [latest?_append, latest?_append, latest?_cons, none, Option.or_none]
  rw [ask_after, ask_after, silent _ rfl, silent _ (by cases kind <;> rfl)]

/-- How a resolver answers that started empty. A query fails when a failure was set for its domain, with the
one that was set last, whatever else was set since then. Otherwise it is answered with the list that was set
last for the domain and the kind of the query, or with none if there was none. The log holds the queries that
were asked, in order, this one included. It makes no difference to an answer what was asked before. -/
theorem ask_after_eq_iff (acts : List Act) (domain : String) (kind : QueryKind) :
    (∀ error, ((({} : Resolver).after acts).ask domain kind).1 = .error error ↔
      Latest (Act.failure? domain) acts error) ∧
    (∀ items, ((({} : Resolver).after acts).ask domain kind).1 = .ok items ↔
      Never (Act.failure? domain) acts ∧
        (Latest (Act.items? domain kind) acts items ∨
          Never (Act.items? domain kind) acts ∧ items = [])) ∧
    (({} : Resolver).after acts).log = acts.filterMap Act.query? ∧
    ((({} : Resolver).after acts).ask domain kind).2.log =
      acts.filterMap Act.query? ++ [⟨kind, Text.lowercase domain⟩] ∧
    ∀ earlier asked other later, acts = earlier ++ .ask asked other :: later →
      ((({} : Resolver).after acts).ask domain kind).1 =
        ((({} : Resolver).after (earlier ++ later)).ask domain kind).1 := by
  have answered := ask_after acts domain kind
  have logged : (({} : Resolver).after acts).log = acts.filterMap Act.query? :=
    (log_after {} acts).trans (List.nil_append _)
  refine ⟨fun error => ?_, fun items => ?_, logged, ?_, ?_⟩
  · rw [answered, ← latest?_eq_some_iff]
    cases latest? (Act.failure? domain) acts <;> simp
  · rw [answered, ← latest?_eq_none_iff, ← latest?_eq_none_iff, ← latest?_eq_some_iff]
    cases latest? (Act.failure? domain) acts with
    | some error => simp
    | none => cases latest? (Act.items? domain kind) acts <;> simp [eq_comm]
  · have noted := log_act (({} : Resolver).after acts) (.ask domain kind)
    rw [logged] at noted
    exact noted
  · rintro earlier asked other later rfl
    exact ask_after_ask earlier later asked domain other kind

/-- Texts that are set, hidden by a failure and set again, between queries about them. -/
def maskedActs : List Act :=
  [.set "A" .txt ["old"], .ask "a" .txt, .fail "A" .timeout, .set "a" .txt ["new"], .ask "Å.a" .mx,
    .ask "A" .ip]

/-- The texts that were set last are hidden as well, and queries that fail are in the log. -/
theorem ask_after_eq_iff_masked :
    ((({} : Resolver).after (maskedActs.take 1)).ask "a" .txt).1 = .ok ["old"] ∧
    ((({} : Resolver).after maskedActs).ask "a" .txt).1 = .error .timeout ∧
    (({} : Resolver).after maskedActs).log = [⟨.txt, "a"⟩, ⟨.mx, "å.a"⟩, ⟨.ip, "a"⟩] := by
  have law := ask_after_eq_iff maskedActs "a" .txt
  refine ⟨?_, ?_, ?_⟩
  · refine ((ask_after_eq_iff (maskedActs.take 1) "a" .txt).2.1 _).mpr ⟨by decide +kernel, .inl ?_⟩
    exact ⟨[], _, [], rfl, rfl, nofun⟩
  · refine (law.1 _).mpr ⟨maskedActs.take 2, .fail "A" .timeout, maskedActs.drop 3, rfl, ?_, ?_⟩
    · decide +kernel
    · decide +kernel
  · rw [law.2.2.1]
    decide +kernel

end Resolver

end SenderPolicy

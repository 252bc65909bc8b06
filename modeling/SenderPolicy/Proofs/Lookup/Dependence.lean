import SenderPolicy.Dns.Resolver
import SenderPolicy.Policy.Basic
import SenderPolicy.Proofs.Lookup.Room
import SenderPolicy.Proofs.Lookup.Simulation

/-! # What a look-up depends on

What is asked next is chosen by the answers so far, and by nothing else that the name servers hold. So
two look-ups of one domain go the same way for as long as all queries of the first are answered alike, and
then to the end, whether that is a policy or an error. Nothing is kept from one look-up to the next.
-/

namespace SenderPolicy

/-- Two zones answer a query alike: with the same failure, or with the same values. -/
def Zone.AnswerAlike (left right : Zone) (query : Query) : Prop :=
  match query.kind with
  | .txt => left.answer left.texts query.key = right.answer right.texts query.key
  | .ip => left.answer left.addresses query.key = right.answer right.addresses query.key
  | .mx => left.answer left.exchangers query.key = right.answer right.exchangers query.key

instance (left right : Zone) : DecidablePred (left.AnswerAlike right)
  | ⟨.txt, key⟩ =>
      inferInstanceAs (Decidable (left.answer left.texts key = right.answer right.texts key))
  | ⟨.ip, key⟩ =>
      inferInstanceAs (Decidable (left.answer left.addresses key = right.answer right.addresses key))
  | ⟨.mx, key⟩ =>
      inferInstanceAs (Decidable (left.answer left.exchangers key = right.answer right.exchangers key))

variable {left right : Zone} {options : Options} {domain : String}

namespace Inquiry

variable {α β : Type}

/-- Wherever all queries of the first inquiry are answered alike, the second reports the same. -/
def Follows (left right : Zone) {α : Type} (inquiry follower : Inquiry α) : Prop :=
  ∀ path, (∀ query ∈ (inquiry path).queries, left.AnswerAlike right query) →
    follower path = inquiry path

theorem follows_refl (inquiry : Inquiry α) : Follows left right inquiry inquiry := fun _ _ => rfl

theorem follows_ask {kind : QueryKind} {answer answer' : Except DnsError α}
    (same : left.AnswerAlike right (.about kind domain) → answer = answer') :
    Follows left right (ask kind domain answer) (ask kind domain answer') := by
  intro path alike
  rw [same (alike _ (List.mem_singleton_self _))]

theorem Follows.bind {first follower : Inquiry α} {next next' : α → Inquiry β}
    (here : Follows left right first follower)
    (after : ∀ path value, (first path).outcome = .done value →
      Follows left right (next value) (next' value)) :
    Follows left right (first >>= next) (follower >>= next') := by
  intro path alike
  rcases ran : first path with ⟨outcome, middle, asked⟩
  have same (answered : ∀ query ∈ asked, left.AnswerAlike right query) :
      follower path = ⟨outcome, middle, asked⟩ := by
    rw [← ran]
    exact here path (by rw [ran]; exact answered)
  cases outcome with
  | failed error =>
    rw [bind_apply_failed ran] at alike ⊢
    rw [bind_apply_failed (same alike)]
  | unending =>
    rw [bind_apply_unending ran] at alike ⊢
    rw [bind_apply_unending (same alike)]
  | done value =>
    rw [bind_apply_done ran] at alike ⊢
    -- The queries of the first part choose those of the second, which is then answered alike as well.
    obtain ⟨answered, later⟩ := List.forall_mem_append.mp alike
    rw [bind_apply_done (same answered), after path value (by rw [ran]) middle later]

theorem Follows.inside {inquiry follower : Inquiry α} (within : Follows left right inquiry follower)
    (limit? : Option Nat) (domain : String) :
    Follows left right (inside limit? domain inquiry) (inside limit? domain follower) := by
  intro path alike
  unfold Inquiry.inside at alike ⊢
  split at alike
  · rfl
  · next inner entered => rw [within inner alike]

theorem follows_policyText (left right : Zone) (domain : String) :
    Follows left right (policyText left domain) (policyText right domain) :=
  (follows_ask id).bind fun _ _ _ => follows_refl _

theorem composes_follows (left right : Zone) : Composes (@Follows left right) where
  value _ := follows_refl _
  bind := Follows.bind

end Inquiry

open Inquiry

theorem simulation_follows (left right : Zone) (options : Options) :
    Simulation left right options options (@Follows left right) where
  toComposes := composes_follows left right
  text name := follows_policyText left right name
  networks name kind _ fit :=
    (composes_follows left right).hostNetworks (fun _ => follows_ask id) (fun _ => follows_ask id) name
      kind fit
  unknown _ := follows_refl _
  malformed _ := follows_refl _
  inside name _ _ within := within.inside _ name

namespace Lookup

/-- A look-up with an end is repeated by one that is given the same answers. -/
theorem lookup_eq_of_answerAlike (ends : (lookup left options domain).outcome ≠ .unending)
    (alike : ∀ query ∈ (lookup left options domain).queries, left.AnswerAlike right query) :
    lookup right options domain = lookup left options domain := by
  have follows := (simulation_follows left right options).policyWithin (follows_refl _)
    (room options (inclusions left).length) domain
  exact lookup_eq_of_policyWithin (follows (.ofRoot domain) alike) ends

end Lookup

namespace Resolver

variable {first second after : Resolver} {outcome : Outcome Policy} {asked : List Query}

/-- What a look-up comes to, and what it asks, depends on the answers to its own queries alone: where they
are the same, another resolver comes to the same and asks the same, whatever else it holds and whatever it
was asked before. Asked again, a resolver starts afresh. -/
theorem perform_lookup_of_answerAlike
    (ran : first.perform (fun zone => lookup zone options domain) = (outcome, after))
    (ends : outcome ≠ .unending) (log : after.log = first.log ++ asked)
    (alike : ∀ query ∈ asked, first.zone.AnswerAlike second.zone query) :
    second.perform (fun zone => lookup zone options domain) = (outcome, second.note asked) ∧
      after.perform (fun zone => lookup zone options domain) =
        (outcome, first.note (asked ++ asked)) := by
  obtain ⟨rfl, rfl⟩ := Prod.mk.inj ran
  obtain rfl := List.append_cancel_left log
  constructor
  · rw [perform, Lookup.lookup_eq_of_answerAlike ends alike]
  · simp only [perform, note, List.append_assoc]

/-- Name servers that fail once the mail hosts of a domain are known and the policy that it includes is
being read. -/
def failingResolver : Resolver where
  zone := (((({} : Zone).setTxt "a" ["v=spf1 mx include:B. -all"]).setTxt "b" ["v=spf1 a:C ?all"]).setMx
    "a" [⟨10, "m."⟩]).setError "c" .timeout

/-- Name servers that hold more, and were asked before. The mail host has no addresses, since none are
held under its name as it stands. -/
def busyResolver : Resolver where
  zone := (((failingResolver.zone.setTxt "m." ["v=spf1 include:a"]).setIp "m" [.v4 0#32]).setIp
    "a" [.v4 1#32]).setError "z" .nxDomain
  log := [⟨.ip, "a"⟩]

theorem perform_lookup_of_answerAlike_failing :
    let asked : List Query := [⟨.txt, "a"⟩, ⟨.mx, "a"⟩, ⟨.ip, "m."⟩, ⟨.txt, "b"⟩, ⟨.ip, "c"⟩]
    (∀ query ∈ asked, failingResolver.zone.AnswerAlike busyResolver.zone query) ∧
      busyResolver.perform (fun zone => lookup zone {} "A") =
        (.failed (.dns "c" .timeout), busyResolver.note asked) ∧
      (failingResolver.note asked).perform (fun zone => lookup zone {} "A") =
        (.failed (.dns "c" .timeout), failingResolver.note (asked ++ asked)) := by
  intro asked
  have ran : failingResolver.perform (fun zone => lookup zone {} "A") =
      (.failed (.dns "c" .timeout), failingResolver.note asked) := by decide +kernel
  have alike : ∀ query ∈ asked, failingResolver.zone.AnswerAlike busyResolver.zone query := by
    decide +kernel
  exact ⟨alike, perform_lookup_of_answerAlike ran nofun rfl alike⟩

end Resolver

end SenderPolicy

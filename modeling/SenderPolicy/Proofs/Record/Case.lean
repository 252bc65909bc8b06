import Mathlib.Data.List.Forall2
import SenderPolicy.Proofs.Policy.Case
import SenderPolicy.Proofs.Record.Reading

/-! # Records in either case

Two records of one domain whose texts are the same in small letters are read alike. The same is asked for both, they
hold the same mechanisms or are refused for the same reason, and an address leaves the same trail in both, up to the
case of the terms.
-/

namespace SenderPolicy

open Text

/-- The two directives differ in nothing but the case of their texts. -/
structure Directive.SameUpToCase (left right : Directive) : Prop where
  qualifier : left.qualifier = right.qualifier
  mechanism : left.mechanism = right.mechanism
  text : Text.lowered left.text = Text.lowered right.text

theorem Directive.forall₂_sameUpToCase {left right : List Directive} (same : left.map lowered = right.map lowered) :
    List.Forall₂ SameUpToCase left right := by
  have each : List.Forall₂ (fun one other => lowered one = lowered other) left right := by
    rwa [← List.forall₂_eq_eq_eq, List.forall₂_map_left_iff, List.forall₂_map_right_iff] at same
  refine each.imp fun one other equal => ?_
  obtain ⟨qualifier, text, mechanism⟩ := lowered_eq_iff.mp equal
  exact ⟨qualifier, mechanism, text⟩

/-- An error that shows no term is the same to the letter. -/
theorem PolicyError.eq_of_lowered_eq {error error' : PolicyError} (same : error.lowered = error'.lowered)
    (readable : ∀ fault, error ≠ .format fault) (known : ∀ term, error ≠ .unknownTerm term) : error' = error := by
  cases error with
  | format fault => exact absurd rfl (readable fault)
  | unknownTerm term => exact absurd rfl (known term)
  | _ => cases error' <;> first | exact same.symm | cases same

namespace Record

theorem room_congr (zone : Zone) (options : Options) {left right : Record}
    (same : Text.lowered left.raw = Text.lowered right.raw) : left.room zone options = right.room zone options := by
  have included : (PolicyText.inclusions left.raw).map Text.lowered =
      (PolicyText.inclusions right.raw).map Text.lowered := by
    rw [← PolicyText.inclusions_lowered, same, PolicyText.inclusions_lowered]
  have many := congrArg List.length included
  rw [List.length_map, List.length_map] at many
  rw [room, room, many]

/-- Records of one domain whose texts are the same up to case are read with the same queries. Either both hold as
many directives, which are the same in order up to the case of their texts, or both are refused with the same error
up to the case of the term that it shows, if it shows any, or reading ends for neither. No address tells the
records apart but by the case of its trail. -/
theorem parse_caseless (zone : Zone) (options : Options) {left right : Record} (domain : left.domain = right.domain)
    (same : Text.lowered left.raw = Text.lowered right.raw) :
    (left.parse zone options).report.queries = (right.parse zone options).report.queries ∧
    ((∃ directives directives', (left.parse zone options).record.directives? = some directives ∧
        (right.parse zone options).record.directives? = some directives' ∧
        List.Forall₂ Directive.SameUpToCase directives directives') ∨
      (∃ error error', (left.parse zone options).report.outcome = .failed error ∧
        (right.parse zone options).report.outcome = .failed error' ∧ error.lowered = error'.lowered ∧
        ((∀ fault, error ≠ .format fault) → (∀ term, error ≠ .unknownTerm term) → error' = error)) ∨
      (left.parse zone options).report.outcome = .unending ∧
        (right.parse zone options).report.outcome = .unending) ∧
    ∀ address, ((left.parse zone options).record.evaluate address).map (List.map Text.lowered) =
      ((right.parse zone options).record.evaluate address).map (List.map Text.lowered) := by
  have alike := Directive.alikeBy_ofText zone options (Lookup.policyWithin zone options (left.room zone options))
    left.domain same (.ofRoot left.domain)
  rw [parse_eq, parse_eq, ← room_congr zone options same, ← domain]
  generalize Directive.ofText _ _ _ _ left.raw _ = report at alike ⊢
  generalize Directive.ofText _ _ _ _ right.raw _ = report' at alike ⊢
  cases alike with
  | @done directives directives' equal path queries =>
    refine ⟨rfl, .inl ⟨directives, directives', rfl, rfl, Directive.forall₂_sameUpToCase equal⟩, fun address => ?_⟩
    exact congrArg Except.ok (map_lowered_firstTrail address equal)
  | @failed error error' equal path queries =>
    refine ⟨rfl, .inr (.inl ⟨error, error', rfl, rfl, equal, PolicyError.eq_of_lowered_eq equal⟩), fun address => ?_⟩
    exact congrArg (fun name => Except.error (PolicyError.unparsed name)) domain
  | unending path queries =>
    refine ⟨rfl, .inr (.inr ⟨rfl, rfl⟩), fun address => ?_⟩
    exact congrArg (fun name => Except.error (PolicyError.unparsed name)) domain

/-- A domain whose policy is included, and a mail host. -/
def casedZone : Zone where
  texts := ⟨[("b", ["v=spf1 ip4:10.0.0.0/8"])]⟩
  exchangers := ⟨[("mail.b", [⟨10, "h"⟩])]⟩
  addresses := ⟨[("h", [.v4 0x0B010203#32])]⟩

/-- A record with letters of both cases in its tag, its keywords, its domains and its digits. -/
def cased : Record := ⟨"a", "V=sPf1 -INCLUDE:B Ip6:2001:DB8::/32 mX:Mail.B/24", none⟩

def uncased : Record := ⟨"a", "v=spf1 -include:b ip6:2001:db8::/32 mx:mail.b/24", none⟩

def casedDirectives : List Directive :=
  [⟨.fail, "-INCLUDE:B", .inclusion "b"
      ⟨"b", "v=spf1 ip4:10.0.0.0/8", [⟨.pass, "ip4:10.0.0.0/8", .ip (.v4 0x0A000000#32 8)⟩]⟩⟩,
    ⟨.pass, "Ip6:2001:DB8::/32", .ip (.v6 0x20010DB8000000000000000000000000#128 32)⟩,
    ⟨.pass, "mX:Mail.B/24", .host .mx "mail.b" ⟨24, 128⟩ [.v4 0x0B010200#32 24]⟩]

/-- The record in small letters asks the same, has the same directives but for their texts, and its trail names the
same terms. -/
theorem parse_caseless_cased :
    (uncased.parse casedZone {}).report.queries = [.about .txt "b", .about .mx "mail.b", .about .ip "h"] ∧
    (∃ directives, (uncased.parse casedZone {}).record.directives? = some directives ∧
      List.Forall₂ Directive.SameUpToCase casedDirectives directives) ∧
    ((uncased.parse casedZone {}).record.evaluate (.v4 0x0A000001#32)).map (List.map Text.lowered) =
      .ok ["-include:b", "ip4:10.0.0.0/8"] := by
  have parsed : cased.parse casedZone {} =
      ⟨⟨"a", cased.raw, some casedDirectives⟩, ⟨.done (), .ofRoot "a",
        [.about .txt "b", .about .mx "mail.b", .about .ip "h"]⟩⟩ := by decide +kernel
  have same : Text.lowered cased.raw = Text.lowered uncased.raw := by decide +kernel
  obtain ⟨queries, ended, trails⟩ := @parse_caseless casedZone {} cased uncased rfl same
  rw [parsed] at queries ended trails
  refine ⟨queries.symm, ?_, ?_⟩
  · rcases ended with ⟨directives, directives', here, there, each⟩ | ⟨error, error', failed, -⟩ | ⟨unending, -⟩
    · cases here
      exact ⟨directives', there, each⟩
    · cases failed
    · cases unending
  · rw [← trails]
    decide +kernel

end Record

end SenderPolicy

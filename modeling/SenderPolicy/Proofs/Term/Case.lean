import SenderPolicy.Proofs.Address.Case
import SenderPolicy.Term.Fields

/-! # Terms in either case

A term in small letters has the keyword, the qualifier, the lengths and the address of the term, and names its
domain in small letters. If the term cannot be read, neither can the one in small letters, for the same fault.
-/

namespace SenderPolicy

open Text

def FormatFault.lowered : FormatFault → FormatFault
  | .malformed term => .malformed (Text.lowered term)
  | .notKeyword term wanted => .notKeyword (Text.lowered term) wanted
  | .badLiteral version literal term => .badLiteral version (Text.lowered literal) (Text.lowered term)
  | .lengthOutOfRange digits version term => .lengthOutOfRange digits version (Text.lowered term)
  | .badBlock error => .badBlock error

namespace Term

def HostTerm.lowered (fields : HostTerm) : HostTerm := { fields with domain := fields.domain.map Text.lowered }

def InclusionTerm.lowered (fields : InclusionTerm) : InclusionTerm :=
  { fields with target := Text.lowered fields.target }

theorem ofChar?_toLower (c : Char) : Qualifier.ofChar? c.toLower = Qualifier.ofChar? c :=
  apply_toLower_of_ascii (by decide +kernel) c

theorem qualifier_lowered (term : String) : qualifier (Text.lowered term) = qualifier term := by
  rw [qualifier, qualifier, Qualifier.decode, Qualifier.decode, toList_lowered, List.head?_map]
  cases term.toList.head? with
  | none => rfl
  | some c => rw [Option.map_some, Option.bind_some, Option.bind_some, ofChar?_toLower]

theorem body_lowered (term : String) : body (Text.lowered term) = (body term).map Char.toLower := by
  unfold body
  rw [toList_lowered]
  cases term.toList with
  | nil => rfl
  | cons c rest =>
    rw [List.map_cons]
    dsimp only
    rw [ofChar?_toLower]
    split <;> rfl

theorem sections_lowered (term : String) :
    sections (Text.lowered term) = (sections term).map (List.map Char.toLower) := by
  rw [sections, body_lowered, splitOn_map_toLower rfl, sections]

theorem isDelimiter_toLower (c : Char) : isDelimiter c.toLower = isDelimiter c :=
  apply_toLower_of_ascii (by decide +kernel) c

theorem word_map_toLower (cs : List Char) : word (cs.map Char.toLower) = word cs := by
  have blind : (fun c => !isDelimiter c) ∘ Char.toLower = fun c => !isDelimiter c :=
    funext fun c => congrArg not (isDelimiter_toLower c)
  rw [word, List.takeWhile_map, blind, map_toLower_map_toLower, word]

/-- The keyword of a term does not hang on its case. -/
theorem keyword?_lowered (term : String) : keyword? (Text.lowered term) = keyword? term := by
  have feed : '\n' ∈ (body term).map Char.toLower ↔ '\n' ∈ body term := by
    rw [List.mem_map]
    constructor
    · rintro ⟨c, member, same⟩
      rwa [← (toLower_eq_iff_of_not_alpha rfl).mp same]
    · exact fun member => ⟨'\n', member, rfl⟩
  simp only [keyword?, body_lowered, word_map_toLower, feed]

theorem target?_map_toLower (head : List Char) :
    target? (head.map Char.toLower) = (target? head).map (List.map Char.toLower) := by
  have blind : (fun c => decide (c ≠ ':')) ∘ Char.toLower = fun c => decide (c ≠ ':') :=
    funext fun c => decide_eq_decide.mpr (not_congr (Address.toLower_eq_colon c))
  unfold target?
  rw [List.dropWhile_map, blind]
  cases head.dropWhile fun c => decide (c ≠ ':') <;> rfl

theorem isName_map_toLower (cs : List Char) : isName (cs.map Char.toLower) = isName cs := by
  have blind : ∀ c, isNameChar c.toLower = isNameChar c := apply_toLower_of_ascii (by decide +kernel)
  rw [isName, isName, List.isEmpty_map, all_map_toLower blind]

theorem isLiteral_map_toLower (cs : List Char) : isLiteral (cs.map Char.toLower) = isLiteral cs := by
  have blind : ∀ c, isLiteralChar c.toLower = isLiteralChar c := apply_toLower_of_ascii (by decide +kernel)
  rw [isLiteral, isLiteral, List.isEmpty_map, all_map_toLower blind]

theorem isLength_map_toLower (cs : List Char) : isLength (cs.map Char.toLower) = isLength cs := by
  cases digits : cs.all Char.isDigit with
  | true => rw [map_toLower_of_all_isDigit digits]
  | false =>
    simp only [isLength, all_map_toLower isDigit_toLower, digits, Bool.and_false, Bool.false_and]

/-- Lengths are digits, so they stay as they are. -/
theorem map_map_toLower_of_isLength {lengths : List (List Char)} (digits : lengths.all isLength = true) :
    lengths.map (List.map Char.toLower) = lengths := by
  refine (List.map_congr_left fun cs member => ?_).trans (List.map_id lengths)
  have each := List.all_eq_true.mp digits cs member
  simp only [isLength, Bool.and_eq_true] at each
  exact map_toLower_of_all_isDigit each.1.2

theorem all_isLength_map_toLower (lengths : List (List Char)) :
    (lengths.map (List.map Char.toLower)).all isLength = lengths.all isLength := by
  rw [List.all_map]
  exact congrArg lengths.all (funext isLength_map_toLower)

theorem hostHead?_map_toLower (head : List Char) :
    hostHead? (head.map Char.toLower) =
      (hostHead? head).map (Prod.map id (Option.map (List.map Char.toLower))) := by
  have names : ((target? head).map (List.map Char.toLower)).all isName = (target? head).all isName := by
    rw [Option.all_map]
    exact congrArg (Option.all · (target? head)) (funext isName_map_toLower)
  rw [hostHead?, hostHead?, word_map_toLower, target?_map_toLower, names]
  split
  · split <;> rfl
  · rfl

theorem literalHead?_map_toLower (head : List Char) :
    literalHead? (head.map Char.toLower) =
      (literalHead? head).map (Prod.map id (List.map Char.toLower)) := by
  rw [literalHead?, literalHead?, word_map_toLower, target?_map_toLower]
  cases target? head with
  | none => rfl
  | some literal =>
    rw [Option.map_some]
    dsimp only
    rw [isLiteral_map_toLower]
    split
    · rfl
    · split
      · rfl
      · split <;> rfl

theorem readLength_lowered (term : String) (version : Version) (digits? : Option (List Char)) :
    readLength (Text.lowered term) version digits? =
      (readLength term version digits?).mapError FormatFault.lowered := by
  cases digits? with
  | none => rfl
  | some digits =>
    rw [readLength, readLength]
    split <;> rfl

/-- A term of hosts in small letters names its domain in small letters. -/
theorem readHost_lowered (term : String) :
    readHost (Text.lowered term) =
      ((readHost term).map HostTerm.lowered).mapError FormatFault.lowered := by
  rw [readHost, readHost, sections_lowered]
  cases sections term with
  | nil => rfl
  | cons head lengths =>
    simp only [List.map_cons, hostHead?_map_toLower]
    cases hostHead? head with
    | none => rfl
    | some found =>
      obtain ⟨kind, domain⟩ := found
      simp only [Option.map_some, Prod.map_apply, id_eq, List.length_map, all_isLength_map_toLower]
      split
      · next shape =>
        rw [map_map_toLower_of_isLength shape.2, qualifier_lowered, readLength_lowered, readLength_lowered]
        cases readLength term .v4 lengths[0]? with
        | error fault => rfl
        | ok v4 =>
          cases readLength term .v6 lengths[1]? with
          | error fault => rfl
          | ok v6 =>
            cases domain with
            | none => rfl
            | some target =>
              simp only [HostTerm.lowered, Option.map_some, lowered_ofList, Except.map, Except.mapError, bind,
                Except.bind, pure, Except.pure]
      · rfl

/-- An include in small letters names its target in small letters. -/
theorem readInclusion_lowered (term : String) :
    readInclusion (Text.lowered term) =
      ((readInclusion term).map InclusionTerm.lowered).mapError FormatFault.lowered := by
  rw [readInclusion, readInclusion, sections_lowered]
  cases sections term with
  | nil => rfl
  | cons head lengths =>
    cases lengths with
    | cons => rfl
    | nil =>
      simp only [List.map_cons, List.map_nil, target?_map_toLower, word_map_toLower]
      cases target? head with
      | none => rfl
      | some target =>
        simp only [Option.map_some, isName_map_toLower, qualifier_lowered]
        split
        · simp only [InclusionTerm.lowered, lowered_ofList, Except.map, Except.mapError]
        · rfl

/-- A literal is the same network in small letters. -/
theorem readLiteral_lowered (term : String) :
    readLiteral (Text.lowered term) = (readLiteral term).mapError FormatFault.lowered := by
  rw [readLiteral, readLiteral, sections_lowered]
  cases sections term with
  | nil => rfl
  | cons head lengths =>
    simp only [List.map_cons, literalHead?_map_toLower]
    cases literalHead? head with
    | none => rfl
    | some found =>
      obtain ⟨version, literal⟩ := found
      simp only [Option.map_some, Prod.map_apply, id_eq, List.length_map, all_isLength_map_toLower,
        Address.ofVersion?_map_toLower]
      split
      · next shape =>
        cases Address.ofVersion? version literal with
        | none => simp only [FormatFault.lowered, lowered_ofList, Except.mapError]
        | some address =>
          simp only [map_map_toLower_of_isLength shape.2, qualifier_lowered, readLength_lowered]
          cases readLength term version lengths[0]? with
          | error fault => rfl
          | ok length =>
            cases made : Block.ofAddress address length <;> simp [Except.mapError, bind, Except.bind, made,
              pure, Except.pure, FormatFault.lowered]
      · rfl

theorem readAll_lowered (term : String) :
    readAll (Text.lowered term) = (readAll term).mapError FormatFault.lowered := by
  rw [readAll, readAll, body_lowered, map_toLower_map_toLower, qualifier_lowered]
  split <;> rfl

end Term

end SenderPolicy

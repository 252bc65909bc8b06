import SenderPolicy.Proofs.Address.Groups
import SenderPolicy.Proofs.Text

/-! # Addresses in either case

Only hexadecimal digits have a case in the text of an address, and each stands for one value in both. So an address
is read from its text in small letters as it is from the text itself.
-/

namespace SenderPolicy.Address

open Text

theorem hexDigit?_toLower (c : Char) : hexDigit? c.toLower = hexDigit? c :=
  apply_toLower_of_ascii (by decide +kernel) c

theorem octet?_map_toLower (cs : List Char) : octet? (cs.map Char.toLower) = octet? cs := by
  cases digits : cs.all Char.isDigit with
  | true => rw [map_toLower_of_all_isDigit digits]
  | false =>
    have other : (cs.map Char.toLower).all Char.isDigit = false := by rw [all_map_toLower isDigit_toLower, digits]
    simp only [octet?, digits, other, Bool.false_eq_true, false_and, and_false, if_false]

theorem octets?_map_toLower (cs : List Char) : octets? (cs.map Char.toLower) = octets? cs := by
  have parts : ((cs.splitOn '.').map (List.map Char.toLower)).mapM octet? = (cs.splitOn '.').mapM octet? := by
    rw [List.mapM_map]
    exact congrArg (fun read => List.mapM read _) (funext octet?_map_toLower)
  simp only [octets?, @splitOn_map_toLower '.' rfl, List.length_map, parts]

theorem group?_map_toLower (cs : List Char) : group? (cs.map Char.toLower) = group? cs := by
  have digits : (cs.map Char.toLower).mapM hexDigit? = cs.mapM hexDigit? := by
    rw [List.mapM_map]
    exact congrArg (fun read => List.mapM read cs) (funext hexDigit?_toLower)
  simp only [group?, List.length_map, ne_eq, List.map_eq_nil_iff, digits]

theorem readGroups_map_toLower (quadAllowed : Bool) (fields : List (List Char)) :
    readGroups quadAllowed (fields.map (List.map Char.toLower)) = readGroups quadAllowed fields := by
  induction fields with
  | nil => rfl
  | cons first rest ih =>
    cases rest with
    | nil => simp only [List.map_cons, List.map_nil, readGroups, group?_map_toLower, octets?_map_toLower]
    | cons second others =>
      rw [List.map_cons] at ih
      rw [List.map_cons, List.map_cons, readGroups_cons_cons, readGroups_cons_cons, group?_map_toLower, ih]

theorem colonFields_map_toLower (cs : List Char) :
    colonFields (cs.map Char.toLower) = (colonFields cs).map (List.map Char.toLower) := by
  simp only [colonFields, List.map_eq_nil_iff, @splitOn_map_toLower ':' rfl]
  split <;> rfl

theorem toLower_eq_colon (c : Char) : c.toLower = ':' ↔ c = ':' := toLower_eq_iff_of_not_alpha rfl

/-- The gap stays where it is. -/
theorem splitAtGap_map_toLower (cs : List Char) :
    splitAtGap (cs.map Char.toLower) =
      (splitAtGap cs).map (Prod.map (List.map Char.toLower) (List.map Char.toLower)) := by
  induction cs with
  | nil => rfl
  | cons c rest ih =>
    by_cases gap : c = ':' ∧ rest.head? = some ':'
    · obtain ⟨rfl, head⟩ := gap
      obtain ⟨later, rfl⟩ := List.head?_eq_some_iff.mp head
      rfl
    · have single : c = ':' → rest.head? ≠ some ':' := not_and.mp gap
      have other : c.toLower = ':' → (rest.map Char.toLower).head? ≠ some ':' := by
        rw [toLower_eq_colon, List.head?_map, ne_eq, Option.map_eq_some_iff]
        rintro same ⟨next, head, colon⟩
        exact single same (by rw [head, (toLower_eq_colon next).mp colon])
      rw [List.map_cons, splitAtGap_cons other, splitAtGap_cons single, ih, Option.map_map, Option.map_map]
      rfl

theorem groups?_map_toLower (cs : List Char) : groups? (cs.map Char.toLower) = groups? cs := by
  unfold groups?
  rw [splitAtGap_map_toLower]
  cases splitAtGap cs with
  | none => simp only [Option.map_none, colonFields_map_toLower, readGroups_map_toLower]
  | some parts =>
    obtain ⟨before, after⟩ := parts
    simp only [Option.map_some, Prod.map_apply, colonFields_map_toLower, readGroups_map_toLower]

/-- An address is read without regard to case. -/
theorem ofVersion?_map_toLower (version : Version) (cs : List Char) :
    ofVersion? version (cs.map Char.toLower) = ofVersion? version cs := by
  cases version with
  | v4 => simp only [ofVersion?, shortOfText?, octets?_map_toLower]
  | v6 => simp only [ofVersion?, longOfText?, groups?_map_toLower]

end SenderPolicy.Address

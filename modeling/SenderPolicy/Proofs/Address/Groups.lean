import Mathlib.Data.List.TakeWhile
import SenderPolicy.Proofs.Address.Reader

/-! # Reading long addresses back

The text of a long address is read as that address, whichever run of zero groups it leaves out. Since a
colon stands in it, it is not read as a short one.
-/

namespace SenderPolicy.Address

theorem hexDigit?_digitChar {d : Nat} (small : d < 16) : hexDigit? d.digitChar = some d := by
  have table : ∀ d < 16, hexDigit? d.digitChar = some d := by decide
  exact table d small

/-- The digits of a number are read as digits of its value. -/
theorem exists_mapM_hexDigit?_toDigits (n : Nat) :
    ∃ ds, (Nat.toDigits 16 n).mapM hexDigit? = some ds ∧ Positional.value 16 ds = n := by
  induction n using Nat.strongRecOn with
  | ind n ih =>
    rw [Nat.toDigits_eq_if (by decide)]
    split
    · next small =>
      refine ⟨[n], ?_, by simp [Positional.value]⟩
      rw [List.mapM_cons, hexDigit?_digitChar small]
      rfl
    · next large =>
      obtain ⟨ds, read, value⟩ := ih (n / 16) (by omega)
      refine ⟨ds ++ [n % 16], ?_, ?_⟩
      · rw [List.mapM_append, read, List.mapM_cons, hexDigit?_digitChar (by omega)]
        rfl
      · rw [Positional.value_append_singleton, value]
        omega

/-- What is below 65536 is read as a group. -/
theorem group?_toDigits {g : Nat} (small : g < 65536) : group? (Nat.toDigits 16 g) = some g := by
  have short : (Nat.toDigits 16 g).length ≤ 4 :=
    (Nat.length_toDigits_le_iff (by decide) (by decide)).mpr small
  obtain ⟨ds, read, value⟩ := exists_mapM_hexDigit?_toDigits g
  rw [group?, if_pos ⟨Nat.toDigits_ne_nil, short⟩, read, Option.map_some, value]

theorem colon_not_mem_toDigits (g : Nat) : ':' ∉ Nat.toDigits 16 g := by
  intro member
  obtain ⟨ds, read, -⟩ := exists_mapM_hexDigit?_toDigits g
  rw [mapM_eq_none member rfl] at read
  cases read

variable {gs : List Nat}

theorem length_groups (bits : BitVec 128) : (groups bits).length = 8 :=
  Positional.length_digits 65536 8 _

theorem lt_of_mem_groups {bits : BitVec 128} {g : Nat} (member : g ∈ groups bits) : g < 65536 :=
  Positional.lt_of_mem_digits (by decide) member

theorem value_groups (bits : BitVec 128) : Positional.value 65536 (groups bits) = bits.toNat := by
  rw [groups, Positional.value_digits]
  exact Nat.mod_eq_of_lt bits.isLt

/-- A text between colons that is not the last one has to be a group. -/
theorem readGroups_cons_cons (quadAllowed : Bool) (first second : List Char) (rest : List (List Char)) :
    readGroups quadAllowed (first :: second :: rest) = (group? first).bind fun g =>
      (readGroups quadAllowed (second :: rest)).map (g :: ·) := by
  rw [readGroups]
  · simp only [bind, pure, Option.map_eq_bind]
    rfl
  · simp

/-- Groups are read as they are written, octets being allowed at their end or not. -/
theorem readGroups_map_toDigits (quadAllowed : Bool) (small : ∀ g ∈ gs, g < 65536) :
    readGroups quadAllowed (gs.map (Nat.toDigits 16)) = some gs := by
  induction gs with
  | nil => rfl
  | cons g rest ih =>
    obtain ⟨here, others⟩ := List.forall_mem_cons.mp small
    cases rest with
    | nil => simp only [List.map_cons, List.map_nil, readGroups, group?_toDigits here]
    | cons next rest =>
      rw [List.map_cons] at ih ⊢
      rw [List.map_cons, readGroups_cons_cons, group?_toDigits here, ih others]
      rfl

theorem colonated_cons_cons (g next : Nat) (rest : List Nat) :
    colonated (g :: next :: rest) = Nat.toDigits 16 g ++ ':' :: colonated (next :: rest) := by
  simp [colonated, List.intercalate_cons_cons]

/-- The text of groups starts with a digit. -/
theorem exists_colonated_cons (g : Nat) (rest : List Nat) :
    ∃ c more, colonated (g :: rest) = c :: more ∧ c ≠ ':' := by
  obtain ⟨c, more, digits⟩ := List.exists_cons_of_ne_nil (@Nat.toDigits_ne_nil g 16)
  have other : c ≠ ':' := by
    rintro rfl
    exact colon_not_mem_toDigits g (digits ▸ List.mem_cons_self)
  cases rest with
  | nil => exact ⟨c, more, by simp [colonated, digits], other⟩
  | cons next rest => exact ⟨c, _, by rw [colonated_cons_cons, digits]; rfl, other⟩

/-- Between the colons of a text of groups stand these groups. -/
theorem colonFields_colonated (gs : List Nat) :
    colonFields (colonated gs) = gs.map (Nat.toDigits 16) := by
  cases gs with
  | nil => rfl
  | cons g rest =>
    obtain ⟨c, more, text, -⟩ := exists_colonated_cons g rest
    have filled : colonated (g :: rest) ≠ [] := by
      rw [text]
      exact List.cons_ne_nil c more
    rw [colonFields, if_neg filled]
    refine List.splitOn_intercalate ':' ?_ (by simp)
    intro part member
    obtain ⟨g, -, rfl⟩ := List.mem_map.mp member
    exact colon_not_mem_toDigits g

/-- A character that is not the first of two colons stands before the gap. -/
theorem splitAtGap_cons {c : Char} {rest : List Char} (single : c = ':' → rest.head? ≠ some ':') :
    splitAtGap (c :: rest) = (splitAtGap rest).map fun (before, after) => (c :: before, after) := by
  rw [splitAtGap]
  rintro later rfl rfl
  exact single rfl rfl

/-- A text without a colon stands before the gap. -/
theorem splitAtGap_append {front : List Char} (free : ':' ∉ front) (rest : List Char) :
    splitAtGap (front ++ rest) =
      (splitAtGap rest).map fun (before, after) => (front ++ before, after) := by
  induction front with
  | nil => simp
  | cons c front ih =>
    have other : c ≠ ':' := fun same => free (same ▸ List.mem_cons_self)
    have behind := ih fun member => free (List.mem_cons_of_mem c member)
    rw [List.cons_append, splitAtGap_cons fun same => absurd same other, behind, Option.map_map]
    rfl

/-- Nor does the text of groups have a gap, and it ends in a digit. -/
theorem splitAtGap_colonated_append (gs : List Nat) (rest : List Char) :
    splitAtGap (colonated gs ++ rest) =
      (splitAtGap rest).map fun (before, after) => (colonated gs ++ before, after) := by
  induction gs with
  | nil => exact splitAtGap_append List.not_mem_nil rest
  | cons g others ih =>
    cases others with
    | nil =>
      have alone : colonated [g] = Nat.toDigits 16 g := by simp [colonated]
      rw [alone]
      exact splitAtGap_append (colon_not_mem_toDigits g) rest
    | cons next others =>
      obtain ⟨c, more, text, other⟩ := exists_colonated_cons next others
      have single : (colonated (next :: others) ++ rest).head? ≠ some ':' := by
        rw [text]
        simpa using other
      rw [colonated_cons_cons, List.append_assoc, List.cons_append,
        splitAtGap_append (colon_not_mem_toDigits g), splitAtGap_cons fun _ => single, ih,
        Option.map_map, Option.map_map]
      simp [Function.comp_def]

/-- Groups without a gap are all groups there are. -/
theorem groups?_colonated (eight : gs.length = 8) (small : ∀ g ∈ gs, g < 65536) :
    groups? (colonated gs) = some gs := by
  have none : splitAtGap (colonated gs) = none := by
    have whole := splitAtGap_colonated_append gs []
    rwa [List.append_nil] at whole
  rw [groups?, none, colonFields_colonated]
  simp only [readGroups_map_toDigits true small, bind, Option.bind, eight, if_true]

/-- A gap stands for the zeros that are missing between the groups around it. -/
theorem groups?_gap {front back : List Nat} {count : Nat} (positive : 1 ≤ count)
    (eight : (front ++ (List.replicate count 0 ++ back)).length = 8)
    (small : ∀ g ∈ front ++ (List.replicate count 0 ++ back), g < 65536) :
    groups? (colonated front ++ [':', ':'] ++ colonated back) =
      some (front ++ (List.replicate count 0 ++ back)) := by
  rw [List.length_append, List.length_append, List.length_replicate] at eight
  have split : splitAtGap (colonated front ++ [':', ':'] ++ colonated back) =
      some (colonated front, colonated back) := by
    rw [List.append_assoc, splitAtGap_colonated_append]
    change some (colonated front ++ [], colonated back) = _
    rw [List.append_nil]
  have frontRead := @readGroups_map_toDigits front false fun g member => small g (by simp [member])
  have backRead := @readGroups_map_toDigits back true fun g member => small g (by simp [member])
  have few : front.length + back.length ≤ 7 := by omega
  have missing : 8 - front.length - back.length = count := by omega
  rw [groups?, split]
  simp only [colonFields_colonated, frontRead, backRead, bind, Option.bind, if_pos few, missing,
    List.append_assoc]

/-- Zeros that stand together are all zeros, with the other groups before and behind them. -/
theorem take_append_zeros_append_drop (gs : List Nat) (start : Nat) :
    gs.take start ++ (List.replicate (zerosFrom gs start) 0 ++ gs.drop (start + zerosFrom gs start)) =
      gs := by
  have zeros : (gs.drop start).takeWhile (· = 0) = List.replicate (zerosFrom gs start) 0 := by
    refine List.eq_replicate_iff.mpr ⟨rfl, fun g member => ?_⟩
    simpa using List.mem_takeWhile_imp member
  have behind : gs.drop (start + zerosFrom gs start) = (gs.drop start).dropWhile (· = 0) := by
    rw [← List.drop_drop]
    conv_lhs => rw [← @List.takeWhile_append_dropWhile _ (· = 0) (gs.drop start)]
    exact List.drop_left
  rw [← zeros, behind, List.takeWhile_append_dropWhile, List.take_append_drop]

/-- Eight groups are read back whichever run of zeros is left out. -/
theorem groups?_compressed (eight : gs.length = 8) (small : ∀ g ∈ gs, g < 65536) :
    groups? (compressed gs) = some gs := by
  simp only [compressed]
  split
  · exact groups?_colonated eight small
  · next many =>
    have whole := take_append_zeros_append_drop gs (longestZeros gs)
    have read := @groups?_gap (gs.take (longestZeros gs))
      (gs.drop (longestZeros gs + zerosFrom gs (longestZeros gs))) (zerosFrom gs (longestZeros gs))
      (by omega)
    rw [whole] at read
    exact read eight small

/-- A long address is read as it is written. -/
theorem longOfText?_longText (bits : BitVec 128) : longOfText? (longText bits) = some bits := by
  unfold longText
  cases found : mapped? bits with
  | some low =>
    rw [mapped?_eq_some_iff.mp found]
    exact longOfText?_mapped low
  | none =>
    dsimp only
    rw [longOfText?, groups?_compressed (length_groups bits) fun g => lt_of_mem_groups,
      Option.map_some, value_groups, BitVec.ofNat_toNat, BitVec.setWidth_eq]

/-- An address is read back from its text as an address of its version. -/
theorem ofVersion?_text (address : Address) :
    ofVersion? address.version address.text.toList = some address := by
  cases address with
  | v4 bits =>
    rw [text, String.toList_ofList, version, ofVersion?, shortOfText?_dotted, Option.map_some]
  | v6 bits =>
    rw [text, String.toList_ofList, version, ofVersion?, longOfText?_longText, Option.map_some]

theorem octets?_eq_none {cs : List Char} (colon : ':' ∈ cs) : octets? cs = none := by
  obtain same | ⟨piece, among, inside⟩ := mem_of_mem_splitOn '.' colon
  · contradiction
  · have undecimal : ¬piece.all Char.isDigit = true := fun digits =>
      absurd (List.all_eq_true.mp digits ':' inside) (by decide)
    have refused : octet? piece = none := if_neg fun reads => undecimal reads.2.2.1
    unfold octets?
    dsimp only
    split
    · exact mapM_eq_none among refused
    · rfl

theorem colon_mem_longText (bits : BitVec 128) : ':' ∈ longText bits := by
  unfold longText
  cases found : mapped? bits with
  | some low => simp
  | none =>
    dsimp only [compressed]
    split
    · have eight := length_groups bits
      match groups bits, eight with
      | g :: next :: rest, _ => simp [colonated_cons_cons]
    · simp

/-- Every address is read back from its text, and no long address is taken for a short one. -/
theorem ofText?_text (address : Address) : ofText? address.text = some address := by
  cases address with
  | v4 bits =>
    have read : ofVersion? .v4 (Address.v4 bits).text.toList = some (.v4 bits) :=
      (Address.v4 bits).ofVersion?_text
    rw [ofText?, read, Option.some_or]
  | v6 bits =>
    have other : ofVersion? .v4 (Address.v6 bits).text.toList = none := by
      rw [text, String.toList_ofList, ofVersion?, shortOfText?,
        octets?_eq_none (colon_mem_longText bits)]
      rfl
    rw [ofText?, other, Option.none_or]
    exact (Address.v6 bits).ofVersion?_text

end SenderPolicy.Address

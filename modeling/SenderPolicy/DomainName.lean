import SenderPolicy.Text.Characters

/-! # Names of domains

A name is compared in its normal form: ASCII capitals are lowered and one trailing dot, the mark of
the root, is dropped. Only one dot goes, so a name that ends in several dots gets shorter each time
it is normalised; a name with at most one settles at once.
-/

namespace SenderPolicy.DomainName

open Text

/-- Drops one dot at the end of a text. -/
def dropRootDot (cs : List Char) : List Char :=
  if cs.getLast? = some '.' then cs.dropLast else cs

/-- The normal form of a name. Letters beyond ASCII keep their case. -/
def normalize (name : String) : String :=
  String.ofList (dropRootDot (name.toList.map Char.toLower))

/-- Two names are the same domain when they have one normal form. -/
def same (left right : String) : Bool := normalize left = normalize right

/-- The number of dots at the end of a text. -/
def dotsAtEnd (cs : List Char) : Nat := (cs.reverse.takeWhile (· = '.')).length

def trailingDots (name : String) : Nat := dotsAtEnd name.toList

@[simp] theorem toList_normalize (name : String) :
    (normalize name).toList = dropRootDot (name.toList.map Char.toLower) := by
  simp [normalize]

theorem same_iff {left right : String} : same left right = true ↔ normalize left = normalize right :=
  decide_eq_true_iff

theorem dotsAtEnd_append_dot (cs : List Char) : dotsAtEnd (cs ++ ['.']) = dotsAtEnd cs + 1 := by
  simp [dotsAtEnd]

theorem dotsAtEnd_append_other {c : Char} (other : c ≠ '.') (cs : List Char) :
    dotsAtEnd (cs ++ [c]) = 0 := by
  simp [dotsAtEnd, other]

theorem toLower_eq_dot (c : Char) : c.toLower = '.' ↔ c = '.' := toLower_eq_iff_of_not_alpha rfl

/-- The case of letters does not matter to the dots. -/
theorem dotsAtEnd_map_toLower (cs : List Char) : dotsAtEnd (cs.map Char.toLower) = dotsAtEnd cs := by
  unfold dotsAtEnd
  rw [← List.map_reverse]
  induction cs.reverse with
  | nil => rfl
  | cons c rest ih =>
    simp only [List.map_cons, List.takeWhile_cons, toLower_eq_dot]
    split
    · simp [ih]
    · rfl

theorem dropRootDot_append_dot (cs : List Char) : dropRootDot (cs ++ ['.']) = cs := by
  simp [dropRootDot]

theorem dropRootDot_append_other {c : Char} (other : c ≠ '.') (cs : List Char) :
    dropRootDot (cs ++ [c]) = cs ++ [c] := by
  simp [dropRootDot, other]

/-- Exactly one dot goes, if there is any. -/
theorem dotsAtEnd_dropRootDot (cs : List Char) : dotsAtEnd (dropRootDot cs) = dotsAtEnd cs - 1 := by
  rcases List.eq_nil_or_concat cs with rfl | ⟨front, last, rfl⟩
  · rfl
  · by_cases dot : last = '.'
    · subst dot
      rw [List.concat_eq_append, dropRootDot_append_dot, dotsAtEnd_append_dot, Nat.add_sub_cancel]
    · rw [List.concat_eq_append, dropRootDot_append_other dot, dotsAtEnd_append_other dot]

/-- A text without a dot at its end stays as it is. -/
theorem dropRootDot_of_dotsAtEnd_eq_zero {cs : List Char} (none : dotsAtEnd cs = 0) :
    dropRootDot cs = cs := by
  rcases List.eq_nil_or_concat cs with rfl | ⟨front, last, rfl⟩
  · rfl
  · rw [List.concat_eq_append] at none ⊢
    by_cases dot : last = '.'
    · subst dot
      rw [dotsAtEnd_append_dot] at none
      contradiction
    · exact dropRootDot_append_other dot front

/-- Dropping the dot and lowering the letters do not disturb each other. -/
theorem dropRootDot_map_toLower (cs : List Char) :
    dropRootDot (cs.map Char.toLower) = (dropRootDot cs).map Char.toLower := by
  rcases List.eq_nil_or_concat cs with rfl | ⟨front, last, rfl⟩
  · rfl
  · rw [List.concat_eq_append, List.map_append, List.map_singleton]
    by_cases dot : last = '.'
    · subst dot
      exact (dropRootDot_append_dot _).trans (congrArg _ (dropRootDot_append_dot _).symm)
    · have other : last.toLower ≠ '.' := fun same => dot ((toLower_eq_dot last).mp same)
      rw [dropRootDot_append_other other, dropRootDot_append_other dot, List.map_append,
        List.map_singleton]

theorem trailingDots_normalize (name : String) :
    trailingDots (normalize name) = trailingDots name - 1 := by
  rw [trailingDots, toList_normalize, dotsAtEnd_dropRootDot, dotsAtEnd_map_toLower, trailingDots]

/-- Normalising twice drops two dots and lowers once. -/
theorem toList_normalize_normalize (name : String) :
    (normalize (normalize name)).toList =
      (dropRootDot (dropRootDot name.toList)).map Char.toLower := by
  simp only [toList_normalize, dropRootDot_map_toLower]
  rw [List.map_map]
  exact List.map_congr_left fun c _ => toLower_toLower c

/-- A name with at most one dot at its end is in normal form after one step. -/
theorem normalize_normalize {name : String} (few : trailingDots name ≤ 1) :
    normalize (normalize name) = normalize name := by
  have settled : dotsAtEnd (dropRootDot name.toList) = 0 := by
    rw [dotsAtEnd_dropRootDot]
    unfold trailingDots at few
    omega
  apply String.toList_inj.mp
  rw [toList_normalize_normalize, dropRootDot_of_dotsAtEnd_eq_zero settled, toList_normalize,
    dropRootDot_map_toLower]

end SenderPolicy.DomainName

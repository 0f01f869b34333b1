import RegexComposition.Proofs.Pattern.Stripping
import RegexComposition.Proofs.Registry.SkipName

/-!
# Named groups

A source is read in a group with a name as it is read in a group without one.  A name of letters,
digits and low lines is read as it is spelled.

Main results:

- `GroupName.IsIdentifier`, `GroupName.IsIdentifier.read?`: a name up to the sign that ends it.
- `GroupName.numbered`: the names that are made of numbers, which are all different.
- `Opens.named`: the mark of a named group.
-/

namespace RegexComposition

namespace GroupName

/-! ## Reading names -/

/-- The text is an identifier, as a name is that is spelled without escapes. -/
def IsIdentifier (name : List Char) : Prop :=
  ∃ c rest, name = c :: rest ∧ mayStart c.toNat = true ∧ ∀ d ∈ rest, mayContinue d.toNat = true

/-- The characters that end a name or start an escape cannot stand in it. -/
theorem ne_of_mayStand (atStart : Bool) {c : Char} (hc : mayStand atStart c.toNat = true) :
    c ≠ '>' ∧ c ≠ '\\' := by
  have hinert := isInert_of_mayStand hc
  constructor
  all_goals
    rintro rfl
    exact absurd hinert (by decide)

/-- Characters that may go on with a name are read up to its end. -/
theorem readFrom_name {name : List Char} (hname : ∀ c ∈ name, mayContinue c.toNat = true)
    (rest : List Char) :
    readFrom false (name ++ '>' :: rest) 0 = some (name, name.length + 1) := by
  induction name with
  | nil => rfl
  | cons c name ih =>
      have hc := hname c List.mem_cons_self
      rcases ne_of_mayStand false hc with ⟨hend, hescape⟩
      have hrest := ih fun d hd => hname d (List.mem_cons_of_mem c hd)
      rw [List.cons_append, readFrom_cons, if_neg hend, spelledCode?, if_neg hescape]
      simp [mayStand, hc, hrest, Char.ofNat_toNat]

/-- An identifier is read as it is spelled. -/
theorem IsIdentifier.read? {name : List Char} (h : IsIdentifier name) (rest : List Char) :
    read? (name ++ '>' :: rest) = some (String.ofList name, name.length + 1) := by
  rcases h with ⟨c, name, rfl, hc, hname⟩
  rcases ne_of_mayStand true hc with ⟨hend, hescape⟩
  rw [GroupName.read?, List.cons_append, readFrom_cons, if_neg hend, spelledCode?, if_neg hescape]
  simp [mayStand, hc, readFrom_name hname rest, Char.ofNat_toNat]

/-- Digits may go on with a name. -/
theorem mayContinue_digit {c : Char} (hc : c.isDigit = true) : mayContinue c.toNat = true := by
  have hdigits : ∀ n < 58, 48 ≤ n → mayContinue n = true := by decide
  rcases Char.isDigit_iff_toNat.1 hc with ⟨hlow, hhigh⟩
  exact hdigits c.toNat (Nat.lt_succ_of_le hhigh) hlow

/-! ## Numbered names -/

/-- The name of the group at a position. -/
def numbered (position : Nat) : String := "group_" ++ toString position

theorem toList_numbered (position : Nat) : (numbered position).toList =
    'g' :: (['r', 'o', 'u', 'p', '_'] ++ Nat.toDigits 10 position) := by
  simp [numbered]

/-- The position can be read off the name. -/
theorem numbered_injective : Function.Injective numbered := append_toString_injective _

/-- A numbered name is an identifier. -/
theorem isIdentifier_numbered (position : Nat) : IsIdentifier (numbered position).toList := by
  have hletters : ['r', 'o', 'u', 'p', '_'].all (fun d => mayContinue d.toNat) = true := by decide
  refine ⟨_, _, toList_numbered position, by decide, fun d hd => ?_⟩
  rcases List.mem_append.1 hd with hd | hd
  · exact List.all_eq_true.1 hletters d hd
  · exact mayContinue_digit (Nat.isDigit_of_mem_toDigits (by decide) (by decide) hd)

end GroupName

/-! ## Groups with a name -/

/-- The mark of a named group. -/
def GroupName.mark (name : String) : List Char := '?' :: '<' :: (name.toList ++ ['>'])

/-- An identifier opens a group. -/
theorem Opens.named {name : String} (h : GroupName.IsIdentifier name.toList) :
    Opens (.capturing (some name)) (GroupName.mark name) := by
  refine ⟨fun rest _ => ?_, fun _ => rfl⟩
  have hread := h.read? rest
  rw [String.ofList_toList] at hread
  have happend : GroupName.mark name ++ rest = '?' :: '<' :: (name.toList ++ '>' :: rest) := by
    simp [GroupName.mark]
  rw [happend, Token.readOpening_of_read? hread]
  simp [GroupName.mark]

end RegexComposition

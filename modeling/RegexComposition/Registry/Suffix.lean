import RegexComposition.Fragment.Modifiers

/-!
# Suffixes

A name can be followed by suffixes that modify the fragment it refers to, and enclosed in
brackets that negate it.

Main definitions:

- `Suffix`: the suffixes, with the modifiers they stand for.
- `Suffix.split?`: takes one suffix off a name, the longest that fits.
-/

namespace RegexComposition

/-- A decoration of a name. -/
inductive Suffix where
  /-- `name*?` -/
  | lazyStar
  /-- `name+?` -/
  | optionalPlus
  /-- `name?` -/
  | optional
  /-- `name+` -/
  | plus
  /-- `name*` -/
  | star
  /-- `[^name]` -/
  | negation
  deriving Repr, DecidableEq

namespace Suffix

/-- The modifiers that a suffix stands for. -/
def modifiers : Suffix → Modifiers
  | lazyStar => { zeroOrMore := true, optional := true }
  | optionalPlus => { oneOrMore := true, optional := true }
  | optional => { optional := true }
  | plus => { oneOrMore := true }
  | star => { zeroOrMore := true }
  | negation => { negated := true }

/-- The suffixes in the order in which they are tried; a longer one comes before the shorter one
that it ends with. -/
def all : List Suffix := [lazyStar, optionalPlus, optional, plus, star, negation]

/-- What stands in front of a name that carries the suffix. -/
def opening : Suffix → List Char
  | negation => ['[', '^']
  | _ => []

/-- What stands behind a name that carries the suffix. -/
def closing : Suffix → List Char
  | lazyStar => ['*', '?']
  | optionalPlus => ['+', '?']
  | optional => ['?']
  | plus => ['+']
  | star => ['*']
  | negation => [']']

/-- A name with the suffix. -/
def decorate (s : Suffix) (name : List Char) : List Char := s.opening ++ name ++ s.closing

/-- The name without the suffix, if it carries it. -/
def strip? (s : Suffix) (token : List Char) : Option (List Char) :=
  if s.opening.isPrefixOf token then
    let inside := token.drop s.opening.length
    if s.closing.isSuffixOf inside then some (inside.take (inside.length - s.closing.length))
    else none
  else none

/-- Takes the first suffix that fits off a name, unless nothing is left of it. -/
def split? (token : List Char) : Option (List Char × Suffix) :=
  match all.findSome? fun s => (s.strip? token).map (·, s) with
  | some ([], _) => none
  | other => other

theorem decorate_of_strip? {s : Suffix} {token name : List Char} (h : s.strip? token = some name) :
    token = s.decorate name := by
  unfold strip? at h
  split at h
  · rename_i hp
    simp only [] at h
    split at h
    · rename_i hs
      obtain ⟨inside, rfl⟩ := List.isPrefixOf_iff_prefix.1 hp
      rw [List.drop_left] at hs h
      obtain ⟨body, rfl⟩ := List.isSuffixOf_iff_suffix.1 hs
      cases h
      simp [decorate]
    · cases h
  · cases h

/-- A suffix can be taken off a name only if something is left. -/
theorem length_lt_of_split? {token rest : List Char} {s : Suffix}
    (h : split? token = some (rest, s)) : rest.length < token.length := by
  have hstrip : s.strip? token = some rest := by
    unfold split? at h
    split at h
    · cases h
    · obtain ⟨t, -, ht⟩ := List.exists_of_findSome?_eq_some h
      obtain ⟨x, hx, he⟩ := Option.map_eq_some_iff.1 ht
      cases he
      exact hx
  have hmark : 0 < s.closing.length := by cases s <;> decide
  rw [decorate_of_strip? hstrip]
  simp only [decorate, List.length_append]
  omega

end Suffix

end RegexComposition

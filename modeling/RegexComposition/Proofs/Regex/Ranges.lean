import RegexComposition.Proofs.Pattern.Alike
import RegexComposition.Regex

/-!
# Match ranges

The ranges of all matches only depend on where the matcher gets from each position.

Main results:

- `Pattern.EndsAlike`: the preferred matches of two patterns have the same ends.
- `Pattern.EndsAlike.occurrences`: then all matches have the same ranges.
- `Regex.matchesIn_eq_of_endsAlike`, `Regex.matchesIn_eq_of_alike`: so have those of regular
  expressions, in particular if their patterns match alike.
-/

namespace RegexComposition

/-- Up to the first gap there are the same ranges. -/
theorem Occurrence.map_span_takeAdjacent {os os' : List Occurrence} (expected : Nat)
    (h : os.map Occurrence.span = os'.map Occurrence.span) :
    (takeAdjacent expected os).map Occurrence.span =
      (takeAdjacent expected os').map Occurrence.span := by
  induction os generalizing os' expected with
  | nil =>
      obtain rfl := List.map_eq_nil_iff.1 h.symm
      rfl
  | cons o os ih =>
      cases os' with
      | nil => cases h
      | cons o' os' =>
          rcases List.cons.inj h with ⟨hspan, hrest⟩
          have hresume : o.resume = o'.resume := by rw [resume, resume, hspan]
          rw [takeAdjacent, takeAdjacent, hspan, hresume]
          split
          · rw [List.map_cons, List.map_cons, hspan, ih _ hrest]
          · rfl

namespace Pattern

/-- The preferred matches that start at a position end at the same position. -/
def EndsAlike (p p' : Pattern) : Prop :=
  ∀ (t : Text) (i : Nat), (p.matchAt t i).map Place.position = (p'.matchAt t i).map Place.position

/-- Those of patterns that match alike do. -/
theorem Alike.matchAt {p p' : Pattern} (h : p.Alike p') : p.EndsAlike p' :=
  fun t _ => h t .forward _ _ Continuation.Agrees.some _ _ rfl

namespace EndsAlike

variable {p p' : Pattern}

/-- The searches find matches with the same range. -/
theorem search (h : p.EndsAlike p') (t : Text) (count i : Nat) :
    (p.search t count i).map (fun found => (found.1, found.2.position)) =
      (p'.search t count i).map (fun found => (found.1, found.2.position)) := by
  induction count generalizing i with
  | zero =>
      have hmatch := congrArg (Option.map (i, ·)) (h t i)
      rw [Option.map_map, Option.map_map] at hmatch
      rw [Pattern.search, Pattern.search, Option.map_map, Option.map_map]
      exact hmatch
  | succ count ih =>
      have hmatch := h t i
      rw [Pattern.search, Pattern.search]
      cases hleft : p.matchAt t i with
      | none =>
          rw [hleft] at hmatch
          cases hright : p'.matchAt t i with
          | none => exact ih (i + 1)
          | some q' =>
              rw [hright] at hmatch
              cases hmatch
      | some q =>
          rw [hleft] at hmatch
          cases hright : p'.matchAt t i with
          | none =>
              rw [hright] at hmatch
              cases hmatch
          | some q' =>
              rw [hright] at hmatch
              exact congrArg (Option.map (i, ·)) hmatch

/-- All matches have the same ranges. -/
theorem occurrencesFrom (h : p.EndsAlike p') (t : Text) (budget i : Nat) :
    (p.occurrencesFrom t budget i).map Occurrence.span =
      (p'.occurrencesFrom t budget i).map Occurrence.span := by
  induction budget generalizing i with
  | zero => rfl
  | succ budget ih =>
      have hsearch := h.search t (t.size - i) i
      rw [Pattern.occurrencesFrom, Pattern.occurrencesFrom]
      split
      · rfl
      · cases hleft : p.search t (t.size - i) i with
        | none =>
            rw [hleft] at hsearch
            cases hright : p'.search t (t.size - i) i with
            | none => rfl
            | some found' =>
                rw [hright] at hsearch
                cases hsearch
        | some found =>
            rw [hleft] at hsearch
            cases hright : p'.search t (t.size - i) i with
            | none =>
                rw [hright] at hsearch
                cases hsearch
            | some found' =>
                rw [hright] at hsearch
                rcases found with ⟨start, q⟩
                rcases found' with ⟨start', q'⟩
                rcases Prod.mk.inj (Option.some.inj hsearch) with ⟨hstart, hposition⟩
                dsimp only at hstart hposition
                subst hstart
                simp only [List.map_cons, Occurrence.resume, hposition]
                rw [ih]

theorem occurrences (h : p.EndsAlike p') (t : Text) :
    (p.occurrences t).map Occurrence.span = (p'.occurrences t).map Occurrence.span :=
  h.occurrencesFrom t (t.size + 1) 0

end EndsAlike

end Pattern

/-- Regular expressions whose patterns end alike have the same matches, if they are sticky or not
alike. -/
theorem Regex.matchesIn_eq_of_endsAlike {r r' : Regex}
    (h : r.program.pattern.EndsAlike r'.program.pattern) (hsticky : r.isSticky = r'.isSticky)
    (text : String) : r.matchesIn text = r'.matchesIn text := by
  have hspans : (r.occurrences (Text.ofString text)).map Occurrence.span =
      (r'.occurrences (Text.ofString text)).map Occurrence.span := by
    have hall := h.occurrences (Text.ofString text)
    unfold Regex.occurrences
    rw [hsticky]
    split
    · exact Occurrence.map_span_takeAdjacent 0 hall
    · exact hall
  have hmatches := congrArg (List.map (Match.ofSpan (Text.ofString text) none)) hspans
  rw [List.map_map, List.map_map] at hmatches
  exact hmatches

/-- Regular expressions whose patterns match alike have the same matches. -/
theorem Regex.matchesIn_eq_of_alike {r r' : Regex}
    (h : r.program.pattern.Alike r'.program.pattern) (hflags : r.flags = r'.flags)
    (text : String) : r.matchesIn text = r'.matchesIn text :=
  matchesIn_eq_of_endsAlike h.matchAt (by rw [isSticky, isSticky, hflags]) text

end RegexComposition

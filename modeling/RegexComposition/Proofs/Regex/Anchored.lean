import RegexComposition.Proofs.Pattern.Language

/-!
# Anchored patterns

A regular pattern between anchors matches a text exactly if the whole text is a word of its
language.

Main results:

- `Pattern.matchAt_anchored`: where an anchored pattern matches.
-/

namespace RegexComposition

namespace Pattern

/-- The pattern between the anchors of a text without lines. -/
def anchored (p : Pattern) : Pattern :=
  sequence [assertion (.lineStart false), p, assertion (.lineEnd false)]

/-- An anchored pattern matches at the begin of the text, and only if the whole text is a word of
its language. -/
theorem matchAt_anchored {p : Pattern} {t : Text} {i : Nat} (hp : p.IsRegular) :
    (p.anchored.matchAt t i).isSome = true ↔ i = 0 ∧ t.chars.toList ∈ p.language := by
  have hend : Continuation.Accepts
      (fun q => (seq (assertion (.lineEnd false)) empty).run t .forward some q)
      (fun j => j = t.size) := by
    intro q
    simp [run, Assertion.holds]
  have hword : t.Matches p.language (fun j => j = t.size) 0 ↔ t.chars.toList ∈ p.language := by
    constructor
    · rintro ⟨w, hw, hat, hlength⟩
      have heq : w = t.chars.toList := by
        refine List.IsPrefix.eq_of_length hat ?_
        simpa [Text.size] using hlength
      exact heq ▸ hw
    · intro hw
      exact ⟨t.chars.toList, hw, List.prefix_rfl, by simp [Text.size]⟩
  have hrun : ((p.seq (seq (assertion (.lineEnd false)) empty)).run t .forward some
      ⟨i, Captures.empty⟩).isSome = true ↔ t.Matches p.language (fun j => j = t.size) i :=
    accepts_run hp hend ⟨i, Captures.empty⟩
  -- The first anchor lets the rest run at the begin of the text only.
  have hmatch : p.anchored.matchAt t i = if i = 0 then
      (p.seq (seq (assertion (.lineEnd false)) empty)).run t .forward some ⟨i, Captures.empty⟩
      else none := by
    by_cases hi : i = 0
    · subst hi
      rfl
    · have hholds : (Assertion.lineStart false).holds t i = false := by
        simp [Assertion.holds, hi]
      rw [if_neg hi]
      show (if (Assertion.lineStart false).holds t i then _ else none) = none
      rw [hholds]
      rfl
  rw [hmatch]
  by_cases hi : i = 0
  · subst hi
    rw [if_pos rfl, hrun, hword]
    exact ⟨fun h => ⟨rfl, h⟩, fun h => h.2⟩
  · rw [if_neg hi]
    constructor
    · intro h
      cases h
    · intro h
      exact absurd h.1 hi

end Pattern

end RegexComposition

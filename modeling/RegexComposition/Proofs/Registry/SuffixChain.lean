import Mathlib.Data.List.Infix
import RegexComposition.Registry

/-!
# Chains of suffixes

A name can carry several suffixes.  They are taken off from the right, two at a time where they
spell a longer one, and all that is kept of them are their switches.

Main results:

- `Suffix.chained`, `Suffix.merged`: a token with further suffixes, and the modifiers they stand for.
- `Suffix.exists_split?_chained`: what is taken off first are the last suffixes of the chain.
- `Registry.resolveFrom_chained`: a chain leaves its modifiers.
-/

namespace RegexComposition

namespace Suffix

/-- The token with further suffixes, one behind the other. -/
def chained (token : List Char) (suffixes : List Suffix) : List Char :=
  suffixes.foldl (fun token s => s.decorate token) token

/-- The modifiers that suffixes stand for together. -/
def merged (suffixes : List Suffix) : Modifiers :=
  suffixes.foldr (fun s m => s.modifiers.merge m) Modifiers.none

variable {token : List Char} {suffixes init last : List Suffix} {s : Suffix}

@[simp]
theorem chained_nil (token : List Char) : chained token [] = token := rfl

@[simp]
theorem chained_append (token : List Char) (init last : List Suffix) :
    chained token (init ++ last) = chained (chained token init) last := List.foldl_append

theorem merged_append (init last : List Suffix) :
    merged (init ++ last) = (merged init).merge (merged last) := by
  induction init with
  | nil => exact (Modifiers.none_merge _).symm
  | cons s init ih =>
      have hcons : ∀ suffixes, merged (s :: suffixes) = s.modifiers.merge (merged suffixes) :=
        fun _ => rfl
      rw [List.cons_append, hcons, hcons, ih, Modifiers.merge_assoc]

/-- Suffixes only switch something on. -/
theorem quantifier_merged (suffixes : List Suffix) : (merged suffixes).quantifier = none := by
  induction suffixes with
  | nil => rfl
  | cons s suffixes ih =>
      have hcons : merged (s :: suffixes) = s.modifiers.merge (merged suffixes) := rfl
      rw [hcons, Modifiers.merge, ih]
      cases s <;> rfl

/-- If suffixes stand for no repetition, they make something optional. -/
theorem optional_merged (hsuffixes : negation ∉ suffixes) (hne : suffixes ≠ [])
    (hone : (merged suffixes).oneOrMore = false) (hmany : (merged suffixes).zeroOrMore = false) :
    (merged suffixes).optional = true := by
  cases suffixes with
  | nil => exact absurd rfl hne
  | cons s suffixes =>
      have hcons : merged (s :: suffixes) = s.modifiers.merge (merged suffixes) := rfl
      rw [hcons] at hone hmany ⊢
      have hs : s ≠ negation := fun heq => hsuffixes (heq ▸ List.mem_cons_self)
      cases s with
      | negation => exact absurd rfl hs
      | lazyStar | optionalPlus | optional => rfl
      | plus => simp [Modifiers.merge, modifiers] at hone
      | star => simp [Modifiers.merge, modifiers] at hmany

/-- The order of suffixes does not matter for what they switch on. -/
theorem merge_merged_comm (init last : List Suffix) :
    (merged last).merge (merged init) = (merged init).merge (merged last) := by
  simp [Modifiers.merge, quantifier_merged, Bool.or_comm]

/-- All suffixes but the brackets stand behind the token. -/
theorem decorate_of_ne (hs : s ≠ negation) (token : List Char) :
    s.decorate token = token ++ s.closing := by
  cases s with
  | negation => exact absurd rfl hs
  | _ => rfl

theorem closing_ne_nil (s : Suffix) : s.closing ≠ [] := by cases s <;> nofun

/-- Behind a chain stands the last character of its last suffix. -/
theorem getLast?_chained (s : Suffix) (token : List Char) :
    (chained token [s]).getLast? = s.closing.getLast? :=
  List.getLast?_append_of_ne_nil _ s.closing_ne_nil

/-- A suffix is taken off a token that ends with it. -/
theorem strip?_chained (s : Suffix) (token : List Char) :
    s.strip? (chained token [s]) = some token := by
  cases s <;> simp [strip?, chained, decorate, opening, closing, List.isSuffixOf, List.isPrefixOf]

/-- A suffix that a token does not end with is not taken off. -/
theorem strip?_eq_none (h : s.closing.reverse.isPrefixOf token.reverse = false) :
    s.strip? token = none := by
  have hsuffix : s.closing.isSuffixOf (token.drop s.opening.length) = false := by
    rw [Bool.eq_false_iff, ne_eq, List.isSuffixOf_iff_suffix]
    intro hinside
    have hwhole := List.isSuffixOf_iff_suffix.2 (hinside.trans (List.drop_suffix _ _))
    rw [List.isSuffixOf, h] at hwhole
    cases hwhole
  simp [strip?, hsuffix]

/-- The last suffix of a token, if the question mark of an optional one does not belong to a longer
suffix. -/
theorem split?_chained (htoken : token ≠ [])
    (hlonger : s = optional → token.getLast? ≠ some '*' ∧ token.getLast? ≠ some '+') :
    split? (chained token [s]) = some (token, s) := by
  have hstrip := strip?_chained s token
  -- The suffixes that are tried before this one end in other signs.
  have hother : ∀ s' : Suffix, s'.closing.reverse.isPrefixOf
      (s.closing.reverse ++ (token.reverse ++ s.opening.reverse)) = false →
        s'.strip? (chained token [s]) = none := by
    intro s' h
    refine strip?_eq_none ?_
    simpa [chained, decorate, List.reverse_append] using h
  have hfirst : all.findSome? (fun s' => (s'.strip? (chained token [s])).map (·, s')) =
      some (token, s) := by
    rcases List.exists_cons_of_ne_nil (mt List.reverse_eq_nil_iff.1 htoken) with
      ⟨c, front, hreverse⟩
    rw [hreverse] at hother
    cases s with
    | lazyStar => simp [all, hstrip]
    | optionalPlus => simp [all, hstrip, hother lazyStar (by simp [closing, List.isPrefixOf])]
    | optional =>
        rcases hlonger rfl with ⟨hstar, hplus⟩
        rw [← List.head?_reverse, hreverse, List.head?_cons, ne_eq, Option.some.injEq]
          at hstar hplus
        simp [all, hstrip,
          hother lazyStar (by simp [closing, List.isPrefixOf, Ne.symm hstar]),
          hother optionalPlus (by simp [closing, List.isPrefixOf, Ne.symm hplus])]
    | plus =>
        simp [all, hstrip, hother lazyStar (by simp [closing, List.isPrefixOf]),
          hother optionalPlus (by simp [closing, List.isPrefixOf]),
          hother optional (by simp [closing, List.isPrefixOf])]
    | star =>
        simp [all, hstrip, hother lazyStar (by simp [closing, List.isPrefixOf]),
          hother optionalPlus (by simp [closing, List.isPrefixOf]),
          hother optional (by simp [closing, List.isPrefixOf]),
          hother plus (by simp [closing, List.isPrefixOf])]
    | negation =>
        simp [all, hstrip, hother lazyStar (by simp [closing, List.isPrefixOf]),
          hother optionalPlus (by simp [closing, List.isPrefixOf]),
          hother optional (by simp [closing, List.isPrefixOf]),
          hother plus (by simp [closing, List.isPrefixOf]),
          hother star (by simp [closing, List.isPrefixOf])]
  rw [split?, hfirst]
  cases token with
  | nil => exact absurd rfl htoken
  | cons c token => rfl

/-- A question mark is taken off together with a star or a plus in front of it. -/
theorem exists_split?_optional {c : Char} (hc : c = '*' ∨ c = '+') (htoken : token ≠ []) :
    ∃ long : Suffix, split? (chained (token ++ [c]) [optional]) = some (token, long) ∧
      long.modifiers = (if c = '*' then star else plus).modifiers.merge optional.modifiers := by
  have htwo : ∀ long : Suffix, long ≠ optional → long.decorate token = token ++ [c] ++ ['?'] →
      split? (chained (token ++ [c]) [optional]) = some (token, long) := by
    intro long hlong hsame
    have hchained : chained (token ++ [c]) [optional] = chained token [long] := hsame.symm
    rw [hchained]
    exact split?_chained htoken fun h => absurd h hlong
  rcases hc with rfl | rfl
  · exact ⟨lazyStar, htwo lazyStar (by decide) (by simp [decorate, opening, closing]), rfl⟩
  · exact ⟨optionalPlus, htwo optionalPlus (by decide) (by simp [decorate, opening, closing]), rfl⟩

/-- A suffix makes a token longer. -/
theorem length_lt_decorate (s : Suffix) (token : List Char) :
    token.length < (s.decorate token).length := by
  have hclosing := List.length_pos_iff.2 s.closing_ne_nil
  simp only [decorate, List.length_append]
  omega

/-- Suffixes take nothing away from a token. -/
theorem length_le_chained (token : List Char) (suffixes : List Suffix) :
    token.length ≤ (chained token suffixes).length := by
  induction suffixes generalizing token with
  | nil => exact Nat.le_refl _
  | cons s suffixes ih => exact (length_lt_decorate s token).le.trans (ih _)

theorem length_lt_chained (token : List Char) (hne : suffixes ≠ []) :
    token.length < (chained token suffixes).length := by
  cases suffixes with
  | nil => exact absurd rfl hne
  | cons s suffixes => exact (length_lt_decorate s token).trans_le (length_le_chained _ suffixes)

theorem chained_ne_nil (htoken : token ≠ []) (suffixes : List Suffix) :
    chained token suffixes ≠ [] :=
  List.ne_nil_of_length_pos
    ((List.length_pos_iff.2 htoken).trans_le (length_le_chained token suffixes))

/-- Of a chain that stands behind something else than a suffix, the last suffix is taken off first or
the last two, where they spell a longer one. -/
theorem exists_split?_chained (hne : suffixes ≠ []) (htoken : token ≠ [])
    (hlast : token.getLast? ≠ some '*' ∧ token.getLast? ≠ some '+') :
    ∃ init last s, suffixes = init ++ last ∧ last ≠ [] ∧
      split? (chained token suffixes) = some (chained token init, s) ∧
        s.modifiers = merged last := by
  have hmerged : ∀ s : Suffix, s.modifiers = merged [s] := fun s => (Modifiers.merge_none _).symm
  have hnonempty := chained_ne_nil htoken
  induction suffixes using List.reverseRecOn with
  | nil => exact absurd rfl hne
  | append_singleton init s _ =>
    by_cases hlonger : s = optional → (chained token init).getLast? ≠ some '*' ∧
        (chained token init).getLast? ≠ some '+'
    · refine ⟨init, [s], s, rfl, by simp, ?_, hmerged s⟩
      rw [chained_append]
      exact split?_chained (hnonempty init) hlonger
    · -- The question mark belongs to the star or the plus in front of it.
      rw [Classical.not_imp] at hlonger
      rcases hlonger with ⟨rfl, hlonger⟩
      cases init using List.reverseRecOn with
      | nil => exact absurd hlast hlonger
      | append_singleton before s _ =>
        rw [chained_append, getLast?_chained] at hlonger
        have htwo : ∀ c : Char, c = '*' ∨ c = '+' → s = (if c = '*' then star else plus) →
            s.decorate (chained token before) = chained token before ++ [c] →
              ∃ init last s', before ++ [s] ++ [optional] = init ++ last ∧ last ≠ [] ∧
                split? (chained token (before ++ [s] ++ [optional])) = some (chained token init, s') ∧
                  s'.modifiers = merged last := by
          intro c hc hs hdecorate
          rcases exists_split?_optional hc (hnonempty before) with ⟨long, hsplit, hlong⟩
          refine ⟨before, [s, optional], long, by simp, by simp, ?_, by rw [hlong, hs]; rfl⟩
          rw [chained_append, chained_append]
          show split? (chained (s.decorate (chained token before)) [optional]) = _
          rw [hdecorate, hsplit]
        cases s with
        | star => exact htwo '*' (.inl rfl) rfl (decorate_of_ne (s := star) nofun _)
        | plus => exact htwo '+' (.inr rfl) rfl (decorate_of_ne (s := plus) nofun _)
        | lazyStar | optionalPlus | optional | negation => simp [closing] at hlonger

end Suffix

namespace Registry

variable {names : Registry} {token : List Char} {suffixes : List Suffix}

/-- A chain of suffixes leaves its modifiers, unless the token is registered with some of them. -/
theorem resolveFrom_chained (htoken : token ≠ [])
    (hlast : token.getLast? ≠ some '*' ∧ token.getLast? ≠ some '+')
    (hfree : ∀ init, init <+: suffixes → init ≠ [] →
      names.get? (String.ofList (Suffix.chained token init)) = none) (m : Modifiers) :
    names.resolveFrom m (Suffix.chained token suffixes) =
      names.resolveFrom (m.merge (Suffix.merged suffixes)) token := by
  induction hlength : suffixes.length using Nat.strong_induction_on generalizing suffixes m with
  | _ n ih =>
    by_cases hne : suffixes = []
    · subst hne
      exact congrArg (names.resolveFrom · token) (Modifiers.merge_none m).symm
    · rcases Suffix.exists_split?_chained hne htoken hlast with
        ⟨init, last, s, rfl, hlastne, hsplit, hmodifiers⟩
      have hunregistered := hfree _ List.prefix_rfl hne
      rw [resolveFrom]
      simp only [hunregistered]
      rw [hsplit]
      dsimp only
      have hshorter : init.length < n := by
        rw [← hlength, List.length_append]
        exact Nat.lt_add_of_pos_right (List.length_pos_iff.2 hlastne)
      rw [ih _ hshorter (fun init' hinit => hfree init' (hinit.trans (List.prefix_append _ _))) _ rfl]
      rw [hmodifiers, Modifiers.merge_assoc, Suffix.merge_merged_comm, ← Suffix.merged_append]

end Registry

end RegexComposition

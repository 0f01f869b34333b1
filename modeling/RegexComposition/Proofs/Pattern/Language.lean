import Mathlib.Computability.Language
import Mathlib.Tactic.IntervalCases
import RegexComposition.Pattern.Matcher

/-!
# The language of a pattern

A pattern without assertions, lookaround and references matches exactly the words of a language,
whatever has to match behind it.

Main results:

- `Pattern.language` and `Pattern.IsRegular`: the language, and the patterns that have one.
- `Quantifier.rounds`: the words that are a possible number of rounds.
- `Pattern.accepts_run`: the matcher finds a way exactly if a word of the language stands in the
  text and the continuation finds a way behind it.
-/

namespace RegexComposition

open scoped Computability

/-! ## Words in a text -/

namespace Text

variable {t : Text} {i : Nat} {u v w : List Char} {L M : Language Char} {K : Nat → Prop}

/-- The word stands in the text at a position. -/
def HasAt (t : Text) (i : Nat) (w : List Char) : Prop := w <+: t.chars.toList.drop i

/-- A word of the language stands in the text at a position, and the condition holds behind it. -/
def Matches (t : Text) (L : Language Char) (K : Nat → Prop) (i : Nat) : Prop :=
  ∃ w ∈ L, t.HasAt i w ∧ K (i + w.length)

/-- A word stands where its halves stand one behind the other. -/
theorem hasAt_append : t.HasAt i (u ++ v) ↔ t.HasAt i u ∧ t.HasAt (i + u.length) v := by
  unfold HasAt
  constructor
  · rintro ⟨rest, hrest⟩
    rw [List.append_assoc] at hrest
    refine ⟨⟨v ++ rest, hrest⟩, rest, ?_⟩
    rw [← List.drop_drop, ← hrest, List.drop_left]
  · rintro ⟨⟨rest, hrest⟩, ⟨tail, htail⟩⟩
    refine ⟨tail, ?_⟩
    rw [← List.drop_drop, ← hrest, List.drop_left] at htail
    rw [List.append_assoc, htail, hrest]

/-- A word of one character stands where this character is next. -/
theorem hasAt_singleton {c : Char} : t.HasAt i [c] ↔ t.next? .forward i = some c := by
  have hhead : t.next? .forward i = (t.chars.toList.drop i).head? := by
    simp [next?]
  rw [hhead, HasAt]
  cases t.chars.toList.drop i with
  | nil => simp
  | cons d rest => simp [eq_comm]

/-- A word is not longer than what is left of the text. -/
theorem HasAt.length_le (h : t.HasAt i w) : w.length ≤ t.remaining .forward i := by
  have hlength := List.IsPrefix.length_le h
  simpa [remaining, size] using hlength

@[simp]
theorem matches_one : t.Matches 1 K i ↔ K i := by
  constructor
  · rintro ⟨w, rfl, _, hK⟩
    exact hK
  · intro hK
    exact ⟨[], rfl, List.nil_prefix, hK⟩

@[simp]
theorem matches_add : t.Matches (L + M) K i ↔ t.Matches L K i ∨ t.Matches M K i := by
  simp only [Matches, Language.mem_add, or_and_right, exists_or]

@[simp]
theorem matches_mul : t.Matches (L * M) K i ↔ t.Matches L (t.Matches M K) i := by
  constructor
  · rintro ⟨_, ⟨u, hu, v, hv, rfl⟩, hat, hK⟩
    rw [hasAt_append] at hat
    rw [List.length_append, ← Nat.add_assoc] at hK
    exact ⟨u, hu, hat.1, v, hv, hat.2, hK⟩
  · rintro ⟨u, hu, hat, v, hv, hat', hK⟩
    refine ⟨u ++ v, Language.append_mem_mul hu hv, hasAt_append.2 ⟨hat, hat'⟩, ?_⟩
    rw [List.length_append, ← Nat.add_assoc]
    exact hK

/-- A word that is not empty leads to another position. -/
theorem matches_sub_one : t.Matches (L - 1) K i ↔ t.Matches L (fun j => j ≠ i ∧ K j) i := by
  constructor
  · rintro ⟨w, ⟨hw, hne⟩, hat, hK⟩
    have hlength : w.length ≠ 0 := fun h => hne (List.eq_nil_of_length_eq_zero h)
    exact ⟨w, hw, hat, by omega, hK⟩
  · rintro ⟨w, hw, hat, hne, hK⟩
    refine ⟨w, ⟨hw, fun hnil => ?_⟩, hat, hK⟩
    obtain rfl : w = [] := hnil
    exact hne rfl

end Text

/-! ## Rounds -/

namespace Quantifier

variable {L : Language Char} {n : Nat} {w : List Char}

/-- The words that fall into a possible number of words of a language. -/
def rounds (q : Quantifier) (L : Language Char) : Language Char :=
  {w | ∃ n, q.min ≤ n ∧ (∀ max ∈ q.max, n ≤ max) ∧ w ∈ L ^ n}

/-- The words that fall into words of a language that are not empty, as many as the budget
allows. -/
def furtherRounds (L : Language Char) : (budget : Nat) → Language Char
  | 0 => 1
  | budget + 1 => 1 + (L - 1) * furtherRounds L budget

/-- A round that reads nothing can be left out. -/
theorem mem_pow_sub_one (h : w ∈ L ^ n) : ∃ m ≤ n, w ∈ (L - 1) ^ m := by
  induction n generalizing w with
  | zero => exact ⟨0, Nat.le_refl _, h⟩
  | succ n ih =>
      rw [pow_succ'] at h
      rcases h with ⟨u, hu, v, hv, rfl⟩
      rcases ih hv with ⟨m, hm, hv'⟩
      by_cases hnil : u = []
      · subst hnil
        exact ⟨m, Nat.le_succ_of_le hm, hv'⟩
      · refine ⟨m + 1, Nat.succ_le_succ hm, ?_⟩
        rw [pow_succ']
        exact Language.append_mem_mul ⟨hu, hnil⟩ hv'

/-- Each round that reads something reads one character at least. -/
theorem le_length_of_mem_pow (h : w ∈ (L - 1) ^ n) : n ≤ w.length := by
  induction n generalizing w with
  | zero => exact Nat.zero_le _
  | succ n ih =>
      rw [pow_succ'] at h
      rcases h with ⟨u, ⟨_, hne⟩, v, hv, rfl⟩
      have hlength : u.length ≠ 0 := fun h => hne (List.eq_nil_of_length_eq_zero h)
      have htail := ih hv
      rw [List.length_append]
      omega

theorem mem_furtherRounds : w ∈ furtherRounds L n ↔ ∃ m ≤ n, w ∈ (L - 1) ^ m := by
  induction n generalizing w with
  | zero => simp [furtherRounds]
  | succ n ih =>
      rw [furtherRounds, Language.mem_add]
      constructor
      · rintro (hnil | ⟨u, hu, v, hv, rfl⟩)
        · exact ⟨0, Nat.zero_le _, hnil⟩
        · rcases ih.1 hv with ⟨m, hm, hv'⟩
          refine ⟨m + 1, Nat.succ_le_succ hm, ?_⟩
          rw [pow_succ']
          exact Language.append_mem_mul hu hv'
      · rintro ⟨m, hm, hw⟩
        cases m with
        | zero => exact .inl hw
        | succ m =>
            rw [pow_succ'] at hw
            rcases hw with ⟨u, hu, v, hv, rfl⟩
            exact .inr (Language.append_mem_mul hu (ih.2 ⟨m, Nat.le_of_succ_le_succ hm, hv⟩))

/-- The required rounds and the further ones are a possible number of rounds. -/
theorem matches_rounds {t : Text} {K : Nat → Prop} {i : Nat} (q : Quantifier)
    (hq : q.isPossible = true) :
    t.Matches (L ^ q.min)
        (fun j => t.Matches (furtherRounds L (q.budget (t.remaining .forward j))) K j) i ↔
      t.Matches (q.rounds L) K i := by
  constructor
  · rintro ⟨u, hu, hat, v, hv, hat', hK⟩
    rcases mem_furtherRounds.1 hv with ⟨m, hm, hv'⟩
    have hpow : v ∈ L ^ m := by
      rcases Language.mem_pow.1 hv' with ⟨words, hwords, hlength, hall⟩
      exact Language.mem_pow.2 ⟨words, hwords, hlength, fun word hword => (hall word hword).1⟩
    have hmax : ∀ max ∈ q.max, q.min + m ≤ max := by
      intro max hmax
      have hqmax : q.max = some max := hmax
      rw [isPossible, hqmax, decide_eq_true_eq] at hq
      rw [budget, hqmax] at hm
      have hle : m ≤ max - q.min := Nat.le_trans hm (Nat.min_le_left _ _)
      omega
    have hword : u ++ v ∈ L ^ (q.min + m) := by
      rw [pow_add]
      exact Language.append_mem_mul hu hpow
    refine ⟨u ++ v, ⟨q.min + m, Nat.le_add_right _ _, hmax, hword⟩,
      Text.hasAt_append.2 ⟨hat, hat'⟩, ?_⟩
    rw [List.length_append, ← Nat.add_assoc]
    exact hK
  · rintro ⟨w, ⟨n, hmin, hmax, hw⟩, hat, hK⟩
    obtain ⟨m, rfl⟩ := Nat.exists_eq_add_of_le hmin
    rw [pow_add] at hw
    rcases hw with ⟨u, hu, v, hv, rfl⟩
    -- Without the rounds that read nothing the text that is left bounds their number.
    rcases mem_pow_sub_one hv with ⟨j, hj, hv'⟩
    rw [Text.hasAt_append] at hat
    rw [List.length_append, ← Nat.add_assoc] at hK
    have hremaining := Nat.le_trans (le_length_of_mem_pow hv') hat.2.length_le
    have hbudget : j ≤ q.budget (t.remaining .forward (i + u.length)) := by
      unfold budget
      split
      · next max heq =>
          have hle := hmax max heq
          exact Nat.le_min_of_le_of_le (by omega) hremaining
      · exact hremaining
    exact ⟨u, hu, hat.1, v, mem_furtherRounds.2 ⟨j, hbudget, hv'⟩, hat.2, hK⟩

/-- Any number of rounds. -/
theorem rounds_star (greedy : Bool) : rounds ⟨0, none, greedy⟩ L = L∗ := by
  ext w
  rw [Language.kstar_eq_iSup_pow, Language.mem_iSup]
  constructor
  · rintro ⟨n, _, _, hw⟩
    exact ⟨n, hw⟩
  · rintro ⟨n, hw⟩
    exact ⟨n, Nat.zero_le n, nofun, hw⟩

/-- At least one round. -/
theorem rounds_plus (greedy : Bool) : rounds ⟨1, none, greedy⟩ L = L * L∗ := by
  ext w
  rw [Language.kstar_eq_iSup_pow, Language.mul_iSup, Language.mem_iSup]
  constructor
  · rintro ⟨n, hmin, _, hw⟩
    obtain ⟨m, rfl⟩ := Nat.exists_eq_add_of_le' hmin
    rw [pow_succ'] at hw
    exact ⟨m, hw⟩
  · rintro ⟨n, hw⟩
    rw [← pow_succ'] at hw
    exact ⟨n + 1, Nat.le_add_left 1 n, nofun, hw⟩

/-- At most one round. -/
theorem rounds_optional (greedy : Bool) : rounds ⟨0, some 1, greedy⟩ L = L + 1 := by
  ext w
  rw [Language.mem_add]
  constructor
  · rintro ⟨n, _, hmax, hw⟩
    have hn : n ≤ 1 := hmax 1 rfl
    interval_cases n
    · exact .inr hw
    · rw [pow_one] at hw
      exact .inl hw
  · rintro (hw | hw)
    · refine ⟨1, Nat.zero_le 1, fun max hmax => ?_, ?_⟩
      · obtain rfl := Option.some.inj hmax
        exact Nat.le_refl 1
      · rwa [pow_one]
    · exact ⟨0, Nat.le_refl 0, fun max _ => Nat.zero_le max, hw⟩

end Quantifier

/-! ## The matcher -/

/-- The continuation finds a way exactly from the positions where the condition holds. -/
def Continuation.Accepts (k : Continuation) (K : Nat → Prop) : Prop :=
  ∀ p, (k p).isSome = true ↔ K p.position

section Rounds

variable {t : Text} {L : Language Char} {round : Continuation → Continuation} {k : Continuation}
variable {K : Nat → Prop}

/-- The required rounds match words one behind the other. -/
theorem accepts_requiredRounds
    (hround : ∀ k K, Continuation.Accepts k K → (round k).Accepts (t.Matches L K))
    (hk : k.Accepts K) (n : Nat) : Continuation.Accepts (fun p => requiredRounds round k n p)
      (t.Matches (L ^ n) K) := by
  induction n with
  | zero =>
      intro p
      rw [pow_zero, Text.matches_one]
      exact hk p
  | succ n ih =>
      intro p
      rw [pow_succ', Text.matches_mul]
      exact hround _ _ ih p

/-- The further rounds match words that are not empty. -/
theorem accepts_optionalRounds
    (hround : ∀ k K, Continuation.Accepts k K → (round k).Accepts (t.Matches L K))
    (hk : k.Accepts K) (greedy : Bool) (budget : Nat) :
    Continuation.Accepts (fun p => optionalRounds round greedy k budget p)
      (t.Matches (Quantifier.furtherRounds L budget) K) := by
  induction budget with
  | zero =>
      intro p
      rw [Quantifier.furtherRounds, Text.matches_one]
      exact hk p
  | succ budget ih =>
      intro p
      have hnext : Continuation.Accepts
          (fun q => if q.position = p.position then none
            else optionalRounds round greedy k budget q)
          (fun j => j ≠ p.position ∧ t.Matches (Quantifier.furtherRounds L budget) K j) := by
        intro q
        dsimp only
        by_cases hq : q.position = p.position
        · simp [hq]
        · rw [if_neg hq, ih q]
          exact ⟨fun h => ⟨hq, h⟩, fun h => h.2⟩
      have hmore := hround _ _ hnext p
      rw [← Text.matches_sub_one, ← Text.matches_mul] at hmore
      rw [Quantifier.furtherRounds, Text.matches_add, Text.matches_one, ← hk p, ← hmore]
      simp only [optionalRounds]
      cases greedy with
      | true =>
          rw [if_pos rfl]
          cases hround : round _ p <;> simp
      | false =>
          rw [if_neg Bool.false_ne_true]
          cases hfirst : k p <;> simp

end Rounds

namespace Pattern

/-- The words that the pattern matches; for patterns that are not regular it means nothing. -/
def language : Pattern → Language Char
  | empty => 1
  | char set => {w | ∃ c, set.contains c = true ∧ w = [c]}
  | seq p q => p.language * q.language
  | either p q => p.language + q.language
  | group _ p => p.language
  | repeated q p => q.rounds p.language
  | look _ _ _ | assertion _ | backreference _ _ => 0

/-- The pattern has no assertions, no lookaround and no references, and all its repetitions are
possible. -/
def IsRegular : Pattern → Prop
  | empty | char _ => True
  | seq p q | either p q => p.IsRegular ∧ q.IsRegular
  | group _ p => p.IsRegular
  | repeated q p => q.isPossible = true ∧ p.IsRegular
  | look _ _ _ | assertion _ | backreference _ _ => False

/-- The language of a sequence. -/
theorem language_sequence (ps : List Pattern) :
    (sequence ps).language = (ps.map language).prod := by
  induction ps with
  | nil => rfl
  | cons p ps ih =>
      rw [List.map_cons, List.prod_cons, ← ih]
      rfl

/-- The language of alternatives. -/
theorem language_alternation (ps : List Pattern) (last : Pattern) :
    (alternation ps last).language = (ps.map language).sum + last.language := by
  induction ps with
  | nil => exact (zero_add last.language).symm
  | cons p ps ih =>
      rw [List.map_cons, List.sum_cons, add_assoc, ← ih]
      rfl

/-- Sequences of regular patterns are regular. -/
theorem isRegular_sequence {ps : List Pattern} :
    (sequence ps).IsRegular ↔ ∀ p ∈ ps, p.IsRegular := by
  induction ps with
  | nil => simp [sequence, IsRegular]
  | cons p ps ih =>
      rw [List.forall_mem_cons, ← ih]
      rfl

/-- Alternatives are regular if all of them are. -/
theorem isRegular_alternation {ps : List Pattern} {last : Pattern} :
    (alternation ps last).IsRegular ↔ (∀ p ∈ ps, p.IsRegular) ∧ last.IsRegular := by
  induction ps with
  | nil => simp [alternation]
  | cons p ps ih =>
      rw [List.forall_mem_cons, and_assoc, ← ih]
      rfl

/-- The matcher finds a way exactly if a word of the language stands in the text and the
continuation finds a way behind it. -/
theorem accepts_run {t : Text} {p : Pattern} {k : Continuation} {K : Nat → Prop}
    (hp : p.IsRegular) (hk : k.Accepts K) :
    Continuation.Accepts (fun q => p.run t .forward k q) (t.Matches p.language K) := by
  induction p generalizing k K with
  | empty =>
      intro q
      rw [language, Text.matches_one]
      exact hk q
  | char set =>
      intro q
      simp only [run]
      constructor
      · intro h
        split at h
        · next c hnext =>
            split at h
            · next hc =>
                exact ⟨[c], ⟨c, hc, rfl⟩, Text.hasAt_singleton.2 hnext, (hk _).1 h⟩
            · cases h
        · cases h
      · rintro ⟨_, ⟨c, hc, rfl⟩, hat, hK⟩
        rw [Text.hasAt_singleton] at hat
        rw [hat]
        dsimp only
        rw [if_pos hc]
        exact (hk (q.move .forward)).2 hK
  | seq first second ihfirst ihsecond =>
      intro q
      rw [language, Text.matches_mul]
      exact ihfirst hp.1 (ihsecond hp.2 hk) q
  | either first second ihfirst ihsecond =>
      intro q
      rw [language, Text.matches_add, ← ihfirst hp.1 hk q, ← ihsecond hp.2 hk q]
      simp only [run]
      cases hfirst : first.run t .forward k q <;> simp
  | group i body ih =>
      intro q
      -- What the group records does not matter to a continuation that only asks for the position.
      have hrecord : Continuation.Accepts (fun r => k (r.record .forward i q)) K :=
        fun r => hk (r.record .forward i q)
      exact ih hp hrecord q
  | repeated q body ih =>
      intro p
      have hround : ∀ k K, Continuation.Accepts k K →
          Continuation.Accepts (fun p => body.run t .forward k (p.forget body.groups))
            (t.Matches body.language K) :=
        fun k K hk p => ih hp.2 hk (p.forget body.groups)
      rw [language, ← Quantifier.matches_rounds q hp.1]
      refine accepts_requiredRounds hround (fun p => ?_) q.min p
      exact accepts_optionalRounds hround hk q.greedy _ p
  | look d negated body => exact hp.elim
  | assertion a => exact hp.elim
  | backreference mode i => exact hp.elim

end Pattern

end RegexComposition

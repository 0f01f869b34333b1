import RegexComposition.Proofs.Pattern.Language
import RegexComposition.Proofs.Pattern.Passage

/-!
# Patterns for one word

A pattern that matches one word only goes on at one place at most, whatever has to match behind
it.

Main results:

- `Pattern.IsWord`: the patterns that match a given word and nothing else.
- `Pattern.IsWord.seq`, `Pattern.IsWord.group`, `Pattern.isWord_char`: how they are built.
-/

namespace RegexComposition

namespace Pattern

variable {u v w : List Char} {p q : Pattern}

/-- The pattern matches the word and nothing else.  What its groups record by that does not depend
on what has to match behind it, and the other groups keep their records. -/
def IsWord (w : List Char) (p : Pattern) : Prop :=
  ∀ (t : Text) (place : Place), ∃ captures : Captures,
    (∀ i ∉ p.groups, captures.get? i = place.captures.get? i) ∧
    ∀ k : Continuation,
      (t.HasAt place.position w →
        p.run t .forward k place = k ⟨place.position + w.length, captures⟩) ∧
      (¬ t.HasAt place.position w → p.run t .forward k place = none)

theorem isWord_empty : empty.IsWord [] := by
  intro t place
  exact ⟨place.captures, fun i _ => rfl, fun k => ⟨fun _ => rfl, fun h => (h List.nil_prefix).elim⟩⟩

/-- A set of one character. -/
theorem isWord_char {set : CharSet} {c : Char} (h : ∀ d : Char, set.contains d = true ↔ d = c) :
    (char set).IsWord [c] := by
  intro t place
  refine ⟨place.captures, fun i _ => rfl, fun k => ⟨fun hat => ?_, fun hat => ?_⟩⟩
  · rw [Text.hasAt_singleton] at hat
    rw [run, hat]
    dsimp only
    rw [if_pos ((h c).2 rfl)]
    rfl
  · rw [run]
    cases hnext : t.next? .forward place.position with
    | none => rfl
    | some d =>
        have hd : ¬ set.contains d = true := by
          intro hcontains
          obtain rfl := (h d).1 hcontains
          exact hat (Text.hasAt_singleton.2 hnext)
        exact if_neg hd

/-- Two words one after the other. -/
theorem IsWord.seq (hp : p.IsWord u) (hq : q.IsWord v) : (Pattern.seq p q).IsWord (u ++ v) := by
  intro t place
  rcases hp t place with ⟨c, hc, hfirst⟩
  rcases hq t ⟨place.position + u.length, c⟩ with ⟨c', hc', hsecond⟩
  refine ⟨c', fun i hi => ?_, fun k => ?_⟩
  · rw [groups, List.mem_append, not_or] at hi
    rw [hc' i hi.2]
    exact hc i hi.1
  · rw [Text.hasAt_append, run]
    have hafter := hsecond k
    dsimp only at hafter
    constructor
    · rintro ⟨hu, hv⟩
      rw [(hfirst _).1 hu, hafter.1 hv, List.length_append, Nat.add_assoc]
    · intro h
      by_cases hu : t.HasAt place.position u
      · rw [(hfirst _).1 hu]
        exact hafter.2 fun hv => h ⟨hu, hv⟩
      · exact (hfirst _).2 hu

/-- A word in a group. -/
theorem IsWord.group (hp : p.IsWord w) (i : Nat) : (Pattern.group i p).IsWord w := by
  intro t place
  rcases hp t place with ⟨c, hc, hrun⟩
  refine ⟨c.record i (Span.between .forward place.position (place.position + w.length)),
    fun j hj => ?_, fun k => hrun _⟩
  rw [groups, List.mem_cons, not_or] at hj
  rw [Captures.get?_record_of_ne hj.1]
  exact hc j hj.2

/-- A pattern alone. -/
theorem IsWord.singleton (h : p.IsWord w) : (sequence [p]).IsWord w := by
  have hseq := h.seq isWord_empty
  rw [List.append_nil] at hseq
  exact hseq

/-- Patterns behind others are what the others go on with, in either direction. -/
theorem run_sequence_append (ps qs : List Pattern) (t : Text) (d : Direction) (k : Continuation)
    (place : Place) : (sequence (ps ++ qs)).run t d k place =
      (Pattern.seq (sequence ps) (sequence qs)).run t d k place := by
  induction ps generalizing k place with
  | nil => cases d <;> rfl
  | cons p ps ih =>
      cases d with
      | forward =>
          have hrest : (fun q => (sequence (ps ++ qs)).run t .forward k q) =
              fun q => (Pattern.seq (sequence ps) (sequence qs)).run t .forward k q :=
            funext fun q => ih k q
          show p.run t .forward (fun q => (sequence (ps ++ qs)).run t .forward k q) place = _
          rw [hrest]
          rfl
      | backward => exact ih (fun q => p.run t .backward k q) place

/-- Words that lists of patterns match can stand one after the other. -/
theorem isWord_sequence_append {ps qs : List Pattern} (hps : (sequence ps).IsWord u)
    (hqs : (sequence qs).IsWord v) : (sequence (ps ++ qs)).IsWord (u ++ v) := by
  have hgroups : (sequence (ps ++ qs)).groups =
      (Pattern.seq (sequence ps) (sequence qs)).groups := by
    simp [groups]
  intro t place
  rw [hgroups]
  simp only [run_sequence_append]
  exact hps.seq hqs t place

end Pattern

end RegexComposition

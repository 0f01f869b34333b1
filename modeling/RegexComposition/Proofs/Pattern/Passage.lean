import Mathlib.Tactic.Common
import RegexComposition.Pattern.Matcher

/-!
# Passages of the matcher

When the matcher finds a way it has passed from the place where it started to one at which its
continuation went on.  On this passage it has moved in its direction, stayed inside the text and
left alone what other groups have recorded.

Main results:

- `Place.Leads`: what is known of a passage.
- `IsPassage`, `Pattern.passes_of_run`: what every step of the matcher keeps is kept by every way that
  it finds.
- `Pattern.resumes_of_run`: every way that the matcher finds has such a passage.
-/

namespace RegexComposition

namespace Captures

/-- Records of other groups can be left out. -/
theorem lookup_filter {keep : Nat × Span → Bool} {i : Nat}
    (h : ∀ r, keep r = false → i ≠ r.1) (records : List (Nat × Span)) :
    (records.filter keep).lookup i = records.lookup i := by
  induction records with
  | nil => rfl
  | cons r records ih =>
      cases hkeep : keep r with
      | true => rw [List.filter_cons_of_pos hkeep, List.lookup_cons, List.lookup_cons, ih]
      | false =>
          have hne : (i == r.1) = false := beq_false_of_ne (h r hkeep)
          rw [List.filter_cons_of_neg (by simp [hkeep]), ih, List.lookup_cons, hne]

/-- A record for one group leaves the other groups alone. -/
theorem get?_record_of_ne {c : Captures} {i j : Nat} (h : i ≠ j) (span : Span) :
    (c.record j span).get? i = c.get? i := by
  have hne : (i == j) = false := beq_false_of_ne h
  rw [record, get?, List.lookup_cons, hne]
  refine lookup_filter (fun r hr hir => h ?_) c.records
  rw [hir]
  simpa using hr

/-- Forgetting some groups leaves the others alone. -/
theorem get?_forget_of_notMem {c : Captures} {i : Nat} {groups : List Nat} (h : i ∉ groups) :
    (c.forget groups).get? i = c.get? i := by
  unfold forget
  split
  · rfl
  · refine lookup_filter (fun r hr hir => h ?_) c.records
    rw [hir]
    simpa using hr

/-- Forgetting a group leaves nothing of it. -/
theorem get?_forget_of_mem {c : Captures} {i : Nat} {groups : List Nat} (h : i ∈ groups) :
    (c.forget groups).get? i = none := by
  unfold forget
  split
  · cases h
  · rw [get?, List.lookup_eq_none_iff]
    intro r hr
    have hkept : r.1 ∉ groups := by simpa using (List.mem_filter.1 hr).2
    exact bne_iff_ne.2 fun hir => hkept (hir ▸ h)

end Captures

/-! ## Passages -/

/-- The second position is not in front of the first one. -/
def Direction.Ordered : Direction → Nat → Nat → Prop
  | .forward, i, j => i ≤ j
  | .backward, i, j => j ≤ i

/-- A passage in a direction moves that way, stays inside the text and leaves alone the groups that
are not listed. -/
structure Place.Leads (t : Text) (d : Direction) (groups : List Nat) (p q : Place) : Prop where
  ordered : d.Ordered p.position q.position
  bounded : p.position ≤ t.size → q.position ≤ t.size
  captures : ∀ i ∉ groups, q.captures.get? i = p.captures.get? i

namespace Place.Leads

variable {t : Text} {d : Direction} {groups groups' : List Nat} {p q r : Place}

theorem refl (t : Text) (d : Direction) (groups : List Nat) (p : Place) :
    p.Leads t d groups p := by
  refine ⟨?_, id, fun _ _ => rfl⟩
  cases d with
  | forward => exact Nat.le_refl _
  | backward => exact Nat.le_refl _

theorem trans (h : p.Leads t d groups q) (h' : q.Leads t d groups r) :
    p.Leads t d groups r := by
  refine ⟨?_, fun hp => h'.bounded (h.bounded hp), fun i hi => ?_⟩
  · cases d with
    | forward => exact Nat.le_trans h.ordered h'.ordered
    | backward => exact Nat.le_trans h'.ordered h.ordered
  · rw [h'.captures i hi, h.captures i hi]

/-- More groups can be listed. -/
theorem mono (h : p.Leads t d groups q) (hgroups : ∀ i ∈ groups, i ∈ groups') :
    p.Leads t d groups' q :=
  ⟨h.ordered, h.bounded, fun i hi => h.captures i fun hmem => hi (hgroups i hmem)⟩

/-- The position stays, and some of the listed groups change. -/
theorem of_captures (t : Text) (d : Direction) (hposition : q.position = p.position)
    (hcaptures : ∀ i ∉ groups, q.captures.get? i = p.captures.get? i) :
    p.Leads t d groups q := by
  refine ⟨?_, fun hp => hposition ▸ hp, hcaptures⟩
  rw [hposition]
  exact (refl t d groups p).ordered

/-- The position moves, and the captures stay. -/
theorem of_position {i : Nat} (hordered : d.Ordered p.position i)
    (hbounded : p.position ≤ t.size → i ≤ t.size) :
    p.Leads t d groups { p with position := i } :=
  ⟨hordered, hbounded, fun _ _ => rfl⟩

/-- At the end a group records a span. -/
theorem record (h : p.Leads t d groups q) (i : Nat) (source : Place) :
    p.Leads t d (i :: groups) (q.record d i source) := by
  have hrecord : q.Leads t d (i :: groups) (q.record d i source) := by
    refine of_captures t d rfl fun j hj => ?_
    refine Captures.get?_record_of_ne (fun hji => hj ?_) _
    rw [hji]
    exact List.mem_cons_self
  exact (h.mono fun j hj => List.mem_cons_of_mem i hj).trans hrecord

end Place.Leads

/-- A character that is next can be passed. -/
theorem Text.ordered_of_next? {t : Text} {d : Direction} {i : Nat} {c : Char}
    (h : t.next? d i = some c) :
    d.Ordered i (d.move i) ∧ (i ≤ t.size → d.move i ≤ t.size) := by
  cases d with
  | forward =>
      have hi : i < t.size := (Array.getElem?_eq_some_iff.1 h).1
      exact ⟨Nat.le_succ i, fun _ => hi⟩
  | backward =>
      exact ⟨Nat.sub_le i 1, fun hi => Nat.le_trans (Nat.sub_le i 1) hi⟩

/-- Characters that count as equal to those of a group can be passed. -/
theorem Text.ordered_of_follow {t : Text} {mode : CaseMode} {d : Direction} {chars : List Char}
    {i j : Nat} (h : t.follow mode d chars i = some j) :
    d.Ordered i j ∧ (i ≤ t.size → j ≤ t.size) := by
  induction chars generalizing i with
  | nil =>
      obtain rfl : i = j := Option.some.inj h
      exact ⟨(Place.Leads.refl t d [] ⟨i, Captures.empty⟩).ordered, id⟩
  | cons c chars ih =>
      rw [follow] at h
      split at h
      · next e hnext =>
          split at h
          · rcases ordered_of_next? hnext with ⟨hordered, hbounded⟩
            rcases ih h with ⟨hordered', hbounded'⟩
            have hfirst : Place.Leads t d [] ⟨i, Captures.empty⟩ ⟨d.move i, Captures.empty⟩ :=
              Place.Leads.of_position hordered hbounded
            have hrest : Place.Leads t d [] ⟨d.move i, Captures.empty⟩ ⟨j, Captures.empty⟩ :=
              Place.Leads.of_position hordered' hbounded'
            exact ⟨(hfirst.trans hrest).ordered, (hfirst.trans hrest).bounded⟩
          · cases h
      · cases h

/-! ## Ways that the matcher finds -/

/-- A relation between a place in front of a pattern with the given groups and one behind it, which
every step of the matcher keeps. -/
structure IsPassage (t : Text) (L : Direction → List Nat → Place → Place → Prop) : Prop where
  refl : ∀ d groups p, L d groups p p
  trans : ∀ {d groups p q r}, L d groups p q → L d groups q r → L d groups p r
  mono : ∀ {d groups groups' p q}, L d groups p q → (∀ i ∈ groups, i ∈ groups') → L d groups' p q
  char : ∀ {d c p}, t.next? d p.position = some c → L d [] p (p.move d)
  follow : ∀ {mode d chars p i}, t.follow mode d chars p.position = some i →
    L d [] p { p with position := i }
  record : ∀ {d groups p q}, L d groups p q → ∀ i, L d (i :: groups) p (q.record d i p)
  forget : ∀ d groups p, L d groups p (p.forget groups)
  look : ∀ {d groups p q}, L d groups p q → ∀ d', L d' groups p { p with captures := q.captures }

/-- The continuation goes on at some place that the relation leads to. -/
def Continuation.Passes (k : Continuation) (L : Direction → List Nat → Place → Place → Prop)
    (d : Direction) (groups : List Nat) (p r : Place) : Prop :=
  ∃ q, k q = some r ∧ L d groups p q

section Rounds

variable {t : Text} {L : Direction → List Nat → Place → Place → Prop} {d : Direction}
variable {groups : List Nat} {round : Continuation → Continuation} {k : Continuation} {p r : Place}

/-- There is a passage through the required rounds. -/
theorem passes_of_requiredRounds (hL : IsPassage t L)
    (hround : ∀ k p, round k p = some r → k.Passes L d groups p r) {n : Nat}
    (h : requiredRounds round k n p = some r) : k.Passes L d groups p r := by
  induction n generalizing p with
  | zero => exact ⟨p, h, hL.refl d groups p⟩
  | succ n ih =>
      rcases hround _ p h with ⟨q, hq, hpasses⟩
      rcases ih hq with ⟨q', hq', hpasses'⟩
      exact ⟨q', hq', hL.trans hpasses hpasses'⟩

/-- There is a passage through the further rounds. -/
theorem passes_of_optionalRounds (hL : IsPassage t L)
    (hround : ∀ k p, round k p = some r → k.Passes L d groups p r) {greedy : Bool} {budget : Nat}
    (h : optionalRounds round greedy k budget p = some r) : k.Passes L d groups p r := by
  induction budget generalizing p with
  | zero => exact ⟨p, h, hL.refl d groups p⟩
  | succ budget ih =>
      have hnext : round (fun q => if q.position = p.position then none
          else optionalRounds round greedy k budget q) p = some r → k.Passes L d groups p r := by
        intro hnext
        rcases hround _ p hnext with ⟨q, hq, hpasses⟩
        dsimp only at hq
        split at hq
        · cases hq
        · rcases ih hq with ⟨q', hq', hpasses'⟩
          exact ⟨q', hq', hL.trans hpasses hpasses'⟩
      have hstop : k p = some r → k.Passes L d groups p r :=
        fun hk => ⟨p, hk, hL.refl d groups p⟩
      simp only [optionalRounds] at h
      split at h
      · split at h
        · next hfound => exact hnext (hfound.trans h)
        · exact hstop h
      · split at h
        · next hfound => exact hstop (hfound.trans h)
        · exact hnext h

end Rounds

namespace Pattern

/-- Every way that the matcher finds has a passage through the pattern. -/
theorem passes_of_run {t : Text} {L : Direction → List Nat → Place → Place → Prop}
    (hL : IsPassage t L) {p : Pattern} {d : Direction} {k : Continuation} {q r : Place}
    (h : p.run t d k q = some r) : k.Passes L d p.groups q r := by
  induction p generalizing d k q r with
  | empty => exact ⟨q, h, hL.refl d _ q⟩
  | char set =>
      rw [run] at h
      split at h
      · next c hnext =>
          split at h
          · exact ⟨q.move d, h, hL.char hnext⟩
          · cases h
      · cases h
  | seq first second ihfirst ihsecond =>
      have hfirst : ∀ i ∈ first.groups, i ∈ (seq first second).groups :=
        fun i hi => List.mem_append_left _ hi
      have hsecond : ∀ i ∈ second.groups, i ∈ (seq first second).groups :=
        fun i hi => List.mem_append_right _ hi
      cases d with
      | forward =>
          rcases ihfirst h with ⟨q', hq', hpasses⟩
          rcases ihsecond hq' with ⟨q'', hq'', hpasses'⟩
          exact ⟨q'', hq'', hL.trans (hL.mono hpasses hfirst) (hL.mono hpasses' hsecond)⟩
      | backward =>
          rcases ihsecond h with ⟨q', hq', hpasses⟩
          rcases ihfirst hq' with ⟨q'', hq'', hpasses'⟩
          exact ⟨q'', hq'', hL.trans (hL.mono hpasses hsecond) (hL.mono hpasses' hfirst)⟩
  | either first second ihfirst ihsecond =>
      rw [run] at h
      split at h
      · next hfound =>
          rcases ihfirst (hfound.trans h) with ⟨q', hq', hpasses⟩
          exact ⟨q', hq', hL.mono hpasses fun i hi => List.mem_append_left _ hi⟩
      · rcases ihsecond h with ⟨q', hq', hpasses⟩
        exact ⟨q', hq', hL.mono hpasses fun i hi => List.mem_append_right _ hi⟩
  | group i body ih =>
      rcases ih h with ⟨q', hq', hpasses⟩
      exact ⟨q'.record d i q, hq', hL.record hpasses i⟩
  | repeated quantifier body ih =>
      -- A round starts by forgetting the groups of the body, which is a step of its own.
      have hround : ∀ k p, body.run t d k (p.forget body.groups) = some r →
          k.Passes L d body.groups p r := by
        intro k p hrun
        rcases ih hrun with ⟨q', hq', hpasses⟩
        exact ⟨q', hq', hL.trans (hL.forget d body.groups p) hpasses⟩
      rcases passes_of_requiredRounds hL hround h with ⟨q', hq', hpasses⟩
      rcases passes_of_optionalRounds hL hround hq' with ⟨q'', hq'', hpasses'⟩
      exact ⟨q'', hq'', hL.trans hpasses hpasses'⟩
  | look direction negated body ih =>
      rw [run] at h
      split at h
      · next found hfound =>
          split at h
          · cases h
          · rcases ih hfound with ⟨q', hq', hpasses⟩
            obtain rfl : q' = found := Option.some.inj hq'
            exact ⟨_, h, hL.look hpasses d⟩
      · split at h
        · exact ⟨q, h, hL.refl d _ q⟩
        · cases h
  | assertion a =>
      rw [run] at h
      split at h
      · exact ⟨q, h, hL.refl d _ q⟩
      · cases h
  | backreference mode i =>
      rw [run] at h
      split at h
      · exact ⟨q, h, hL.refl d _ q⟩
      · dsimp only at h
        split at h
        · next position hfollow => exact ⟨_, h, hL.follow hfollow⟩
        · cases h

end Pattern

/-! ## Passages through the text -/

/-- The steps of the matcher move in its direction, stay inside the text and leave other groups
alone. -/
theorem Place.isPassage_leads (t : Text) :
    IsPassage t fun d groups p q => p.Leads t d groups q where
  refl d groups p := Place.Leads.refl t d groups p
  trans h h' := h.trans h'
  mono h hgroups := h.mono hgroups
  char hnext := by
    rcases Text.ordered_of_next? hnext with ⟨hordered, hbounded⟩
    exact Place.Leads.of_position hordered hbounded
  follow hfollow := by
    rcases Text.ordered_of_follow hfollow with ⟨hordered, hbounded⟩
    exact Place.Leads.of_position hordered hbounded
  record h i := h.record i _
  forget d groups p :=
    Place.Leads.of_captures t d rfl fun _ hj => Captures.get?_forget_of_notMem hj
  look h d := Place.Leads.of_captures t d rfl h.captures

/-- The continuation goes on at some place to which there is a passage. -/
def Continuation.Resumes (k : Continuation) (t : Text) (d : Direction) (groups : List Nat)
    (p r : Place) : Prop :=
  ∃ q, k q = some r ∧ p.Leads t d groups q

/-- Every way that the matcher finds has a passage through the text. -/
theorem Pattern.resumes_of_run {t : Text} {p : Pattern} {d : Direction} {k : Continuation}
    {q r : Place} (h : p.run t d k q = some r) : k.Resumes t d p.groups q r :=
  passes_of_run (Place.isPassage_leads t) h

end RegexComposition

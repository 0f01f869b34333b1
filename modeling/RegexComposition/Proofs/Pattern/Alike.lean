import RegexComposition.Proofs.Pattern.Word

/-!
# Patterns that match alike

Two patterns match alike if they find ways to the same positions in every text, whatever has to
match behind them.  Without references this does not depend on the captures, so groups may be
numbered differently and may even be missing.

Main results:

- `Continuation.Agrees`, `Pattern.Alike`: the relation on continuations and on patterns.
- `Pattern.Alike.seq`, `Pattern.Alike.either`, `Pattern.Alike.repeated` and the like: it is kept by
  all ways of building patterns.
- `Pattern.Alike.sequence_append`: lists of terms can be put one behind the other.
-/

namespace RegexComposition

/-! ## Continuations -/

/-- From places with the same position the two continuations find ways to the same position. -/
def Continuation.Agrees (k k' : Continuation) : Prop :=
  ∀ q q' : Place, q.position = q'.position →
    (k q).map Place.position = (k' q').map Place.position

namespace Continuation.Agrees

variable {k k' k'' : Continuation}

theorem symm (h : Agrees k k') : Agrees k' k := fun q q' hq => (h q' q hq.symm).symm

theorem trans (h : Agrees k k') (h' : Agrees k' k'') : Agrees k k'' :=
  fun q q' hq => (h q q rfl).trans (h' q q' hq)

theorem some : Agrees Option.some Option.some := fun _ _ hq => congrArg Option.some hq

end Continuation.Agrees

/-- From places for which the first relation holds the two continuations find ways to places for
which the second one holds. -/
def Continuation.Relates (R S : Place → Place → Prop) (k k' : Continuation) : Prop :=
  ∀ q q' : Place, R q q' → Option.Rel S (k q) (k' q')

/-- The first of two ways that is there leads to related places. -/
theorem rel_or {S : Place → Place → Prop} {a a' b b' : Option Place} :
    Option.Rel S a a' → Option.Rel S b b' →
      Option.Rel S (match a with | some r => some r | none => b)
        (match a' with | some r => some r | none => b') := by
  intro ha hb
  cases ha with
  | none => exact hb
  | some hr => exact .some hr

section Relations

variable {R S : Place → Place → Prop} {round round' : Continuation → Continuation}
variable {k k' : Continuation}

/-- Required rounds are related if single rounds are. -/
theorem relates_requiredRounds
    (hround : ∀ k k', Continuation.Relates R S k k' →
      Continuation.Relates R S (round k) (round' k'))
    (hk : k.Relates R S k') (n : Nat) :
    Continuation.Relates R S (fun p => requiredRounds round k n p)
      (fun p => requiredRounds round' k' n p) := by
  induction n with
  | zero => exact hk
  | succ n ih =>
      intro p p' hp
      exact hround _ _ ih p p' hp

/-- Further rounds are related if single rounds are, and related places have one position. -/
theorem relates_optionalRounds (hR : ∀ p p', R p p' → p.position = p'.position)
    (hround : ∀ k k', Continuation.Relates R S k k' →
      Continuation.Relates R S (round k) (round' k'))
    (hk : k.Relates R S k') (greedy : Bool) (budget : Nat) :
    Continuation.Relates R S (fun p => optionalRounds round greedy k budget p)
      (fun p => optionalRounds round' greedy k' budget p) := by
  induction budget with
  | zero => exact hk
  | succ budget ih =>
      intro p p' hp
      have hnext : Continuation.Relates R S
          (fun q => if q.position = p.position then none
            else optionalRounds round greedy k budget q)
          (fun q => if q.position = p'.position then none
            else optionalRounds round' greedy k' budget q) := by
        intro q q' hq
        dsimp only
        rw [hR q q' hq, hR p p' hp]
        split
        · exact .none
        · exact ih q q' hq
      have hmore := hround _ _ hnext p p' hp
      simp only [optionalRounds]
      cases greedy with
      | true => exact rel_or hmore (hk p p' hp)
      | false => exact rel_or (hk p p' hp) hmore

end Relations

/-- The two places have the same position. -/
def Place.SamePosition (p p' : Place) : Prop := p.position = p'.position

/-- Two ways lead to the same position if they lead to places with the same position. -/
theorem rel_samePosition_iff {a a' : Option Place} :
    Option.Rel Place.SamePosition a a' ↔ a.map Place.position = a'.map Place.position := by
  cases a <;> cases a' <;> simp [Option.rel_some_some, Place.SamePosition]

/-- Continuations agree if they are related by the positions. -/
theorem Continuation.agrees_iff_relates {k k' : Continuation} :
    k.Agrees k' ↔ k.Relates Place.SamePosition Place.SamePosition k' := by
  simp only [Agrees, Relates, rel_samePosition_iff]
  rfl

/-- The first of two ways that is there leads to the same position. -/
theorem map_position_or {a a' b b' : Option Place}
    (ha : a.map Place.position = a'.map Place.position)
    (hb : b.map Place.position = b'.map Place.position) :
    (match a with | some r => some r | none => b).map Place.position =
      (match a' with | some r => some r | none => b').map Place.position := by
  rw [← rel_samePosition_iff] at ha hb ⊢
  exact rel_or ha hb

section Rounds

variable {round round' : Continuation → Continuation} {k k' : Continuation}

/-- Required rounds agree if single rounds do. -/
theorem agrees_requiredRounds
    (hround : ∀ k k', Continuation.Agrees k k' → Continuation.Agrees (round k) (round' k'))
    (hk : k.Agrees k') (n : Nat) : Continuation.Agrees (fun p => requiredRounds round k n p)
      (fun p => requiredRounds round' k' n p) := by
  simp only [Continuation.agrees_iff_relates] at hround hk ⊢
  exact relates_requiredRounds hround hk n

/-- Further rounds agree if single rounds do. -/
theorem agrees_optionalRounds
    (hround : ∀ k k', Continuation.Agrees k k' → Continuation.Agrees (round k) (round' k'))
    (hk : k.Agrees k') (greedy : Bool) (budget : Nat) :
    Continuation.Agrees (fun p => optionalRounds round greedy k budget p)
      (fun p => optionalRounds round' greedy k' budget p) := by
  simp only [Continuation.agrees_iff_relates] at hround hk ⊢
  exact relates_optionalRounds (fun _ _ hp => hp) hround hk greedy budget

end Rounds

/-! ## Patterns -/

namespace Pattern

variable {p p' p'' q q' : Pattern} {ps ps' qs qs' : List Pattern}

/-- The patterns find ways to the same positions in front of continuations that do. -/
def Alike (p p' : Pattern) : Prop :=
  ∀ (t : Text) (d : Direction) (k k' : Continuation), k.Agrees k' →
    Continuation.Agrees (p.run t d k) (p'.run t d k')

theorem alike_empty : empty.Alike empty := fun _ _ _ _ hk => hk

theorem alike_char (set : CharSet) : (char set).Alike (char set) := by
  intro t d k k' hk q q' hq
  simp only [run, hq]
  cases t.next? d q'.position with
  | none => rfl
  | some c =>
      dsimp only
      split
      · exact hk _ _ (congrArg d.move hq)
      · rfl

theorem alike_assertion (a : Assertion) : (assertion a).Alike (assertion a) := by
  intro t d k k' hk q q' hq
  simp only [run, hq]
  split
  · exact hk q q' hq
  · rfl

namespace Alike

theorem symm (h : p.Alike p') : p'.Alike p := fun t d k k' hk => (h t d k' k hk.symm).symm

theorem trans (h : p.Alike p') (h' : p'.Alike p'') : p.Alike p'' :=
  fun t d k k' hk => (h t d k k' hk).trans (h' t d k' k' (hk.symm.trans hk))

theorem seq (hp : p.Alike p') (hq : q.Alike q') : (Pattern.seq p q).Alike (Pattern.seq p' q') := by
  intro t d k k' hk
  cases d with
  | forward => exact hp t _ _ _ (hq t _ _ _ hk)
  | backward => exact hq t _ _ _ (hp t _ _ _ hk)

theorem either (hp : p.Alike p') (hq : q.Alike q') :
    (Pattern.either p q).Alike (Pattern.either p' q') := by
  intro t d k k' hk r r' hr
  exact map_position_or (hp t d k k' hk r r' hr) (hq t d k k' hk r r' hr)

/-- The group on one side records something, which nothing looks at. -/
theorem group_left (hp : p.Alike p') (i : Nat) : (Pattern.group i p).Alike p' := by
  intro t d k k' hk r r' hr
  exact hp t d (fun s => k (s.record d i r)) k' (fun q q' hq => hk _ q' hq) r r' hr

theorem group (hp : p.Alike p') (i j : Nat) : (Pattern.group i p).Alike (Pattern.group j p') :=
  (hp.group_left i).trans ((hp.symm.trans hp).group_left j).symm

theorem repeated (hp : p.Alike p') (quantifier : Quantifier) :
    (Pattern.repeated quantifier p).Alike (Pattern.repeated quantifier p') := by
  intro t d k k' hk r r' hr
  have hround : ∀ k k', Continuation.Agrees k k' → Continuation.Agrees
      (fun q => p.run t d k (q.forget p.groups)) (fun q => p'.run t d k' (q.forget p'.groups)) :=
    fun k k' hk q q' hq => hp t d k k' hk _ _ hq
  have hoptional : Continuation.Agrees
      (fun q => optionalRounds (fun next q => p.run t d next (q.forget p.groups))
        quantifier.greedy k (quantifier.budget (t.remaining d q.position)) q)
      (fun q => optionalRounds (fun next q => p'.run t d next (q.forget p'.groups))
        quantifier.greedy k' (quantifier.budget (t.remaining d q.position)) q) := by
    intro q q' hq
    dsimp only
    rw [hq]
    exact agrees_optionalRounds hround hk quantifier.greedy _ q q' hq
  exact agrees_requiredRounds hround hoptional quantifier.min r r' hr

theorem look (hp : p.Alike p') (direction : Direction) (negated : Bool) :
    (Pattern.look direction negated p).Alike (Pattern.look direction negated p') := by
  intro t d k k' hk r r' hr
  have hbody := hp t direction _ _ Continuation.Agrees.some r r' hr
  simp only [run]
  cases hleft : p.run t direction Option.some r with
  | none =>
      rw [hleft] at hbody
      cases hright : p'.run t direction Option.some r' with
      | none =>
          dsimp only
          split
          · exact hk r r' hr
          · rfl
      | some s' =>
          rw [hright] at hbody
          cases hbody
  | some s =>
      rw [hleft] at hbody
      cases hright : p'.run t direction Option.some r' with
      | none =>
          rw [hright] at hbody
          cases hbody
      | some s' =>
          dsimp only
          split
          · rfl
          · exact hk _ _ hr

/-- Sequences of patterns that match alike one by one. -/
theorem sequence (h : List.Forall₂ Alike ps ps') :
    (Pattern.sequence ps).Alike (Pattern.sequence ps') := by
  induction h with
  | nil => exact alike_empty
  | cons hp _ ih => exact hp.seq ih

/-- Alternatives that match alike one by one. -/
theorem alternation (h : List.Forall₂ Alike ps ps') (hlast : q.Alike q') :
    (Pattern.alternation ps q).Alike (Pattern.alternation ps' q') := by
  induction h with
  | nil => exact hlast
  | cons hp _ ih => exact hp.either ih

/-- Terms behind others match like what both lists match one after the other. -/
theorem sequence_append (h : (Pattern.sequence ps).Alike p) (h' : (Pattern.sequence qs).Alike q) :
    (Pattern.sequence (ps ++ qs)).Alike (Pattern.seq p q) := by
  intro t d k k' hk r r' hr
  rw [run_sequence_append]
  exact h.seq h' t d k k' hk r r' hr

/-- A single term matches like its pattern. -/
theorem singleton_iff : (Pattern.sequence [p]).Alike p' ↔ p.Alike p' := by
  have hrun : ∀ (t : Text) (d : Direction) (k : Continuation),
      (Pattern.sequence [p]).run t d k = p.run t d k := by
    intro t d k
    cases d with
    | forward => rfl
    | backward => rfl
  simp only [Alike, hrun]

end Alike

end Pattern

end RegexComposition

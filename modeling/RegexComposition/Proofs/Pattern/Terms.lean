import RegexComposition.Proofs.Pattern.Context

/-!
# Terms behind others

Most texts that a source is put together from add terms to the innermost frame and leave its
finished alternatives alone.  What is known about these terms carries over to groups around them
and to further terms behind them.

Main results:

- `Frame.Gains`: the frame has got terms with a property.
- `Frame.Gains.trans`, `Frame.Gains.body`, `Frame.Gains.enclosed`: how this is put together.
- `GroupKind.term`: what a group is in the frame around it.
-/

namespace RegexComposition

namespace Frame

variable {Φ Ψ Χ : List Pattern → Prop} {f f' f'' : Frame} {kind : GroupKind} {modes : Modes}

/-- The frame has got further terms, for which the property holds. -/
def Gains (Φ : List Pattern → Prop) (f f' : Frame) : Prop :=
  f'.branches = f.branches ∧ ∃ terms, f'.terms = terms ++ f.terms ∧ Φ terms.reverse

namespace Gains

theorem refl (h : Φ []) (f : Frame) : Gains Φ f f := ⟨rfl, [], rfl, h⟩

theorem mono (h : Gains Φ f f') (hΦ : ∀ ps, Φ ps → Ψ ps) : Gains Ψ f f' := by
  rcases h with ⟨hbranches, terms, hterms, hps⟩
  exact ⟨hbranches, terms, hterms, hΦ _ hps⟩

/-- Terms can be added behind others. -/
theorem trans (h : Gains Φ f f') (h' : Gains Ψ f' f'')
    (hΧ : ∀ ps qs, Φ ps → Ψ qs → Χ (ps ++ qs)) : Gains Χ f f'' := by
  rcases h with ⟨hbranches, terms, hterms, hps⟩
  rcases h' with ⟨hbranches', terms', hterms', hqs⟩
  refine ⟨hbranches'.trans hbranches, terms' ++ terms, ?_, ?_⟩
  · rw [hterms', hterms, List.append_assoc]
  · rw [List.reverse_append]
    exact hΧ _ _ hps hqs

/-- A single term is added. -/
theorem push {p : Pattern} (h : Φ [p]) (f : Frame) (follows : Quantifiable) :
    Gains Φ f (f.push p follows) := ⟨rfl, [p], rfl, h⟩

/-- What is added to a frame in which nothing has been read is its body. -/
theorem body {index : Nat} (h : Gains Φ (Frame.start kind index modes) f) :
    ∃ ps, Φ ps ∧ f.body = Pattern.sequence ps := by
  rcases h with ⟨hbranches, terms, hterms, hps⟩
  refine ⟨terms.reverse, hps, ?_⟩
  rw [Frame.body, hbranches, hterms]
  simp [Frame.start, Pattern.alternation]

end Gains

end Frame

/-- The term that a group of the kind is in the frame around it. -/
def GroupKind.term (kind : GroupKind) (index : Nat) (body : Pattern) : Pattern :=
  match kind with
  | .capturing _ => .group index body
  | .plain | .modified _ _ => body
  | .look direction negated => .look direction negated body

namespace Frame

variable {Φ Ψ : List Pattern → Prop} {f f' : Frame} {kind : GroupKind} {modes : Modes}
variable {R : Frame → Frame → Prop}

/-- A text in parentheses is a single term of the frame around it. -/
theorem exists_push_of_encloses (h : Encloses modes kind R f f') :
    ∃ index inner, R (Frame.start kind index modes) inner ∧ inner.kind = kind ∧
      f' = f.push (kind.term inner.index inner.body) inner.closeFollows := by
  rcases h with ⟨index, inner, hrel, ⟨hkind, _, _⟩, rfl⟩
  have hstart : inner.kind = kind := hkind
  refine ⟨index, inner, hrel, hstart, ?_⟩
  rw [Frame.close, ← hstart]
  rfl

/-- Terms in parentheses are a term. -/
theorem Gains.enclosed (h : Encloses modes kind (Gains Φ) f f')
    (hΨ : ∀ i ps, Φ ps → Ψ [kind.term i (Pattern.sequence ps)]) : Gains Ψ f f' := by
  rcases exists_push_of_encloses h with ⟨index, inner, hrel, -, rfl⟩
  rcases hrel.body with ⟨ps, hps, hbody⟩
  rw [hbody]
  exact Gains.push (hΨ _ _ hps) f _

end Frame

end RegexComposition

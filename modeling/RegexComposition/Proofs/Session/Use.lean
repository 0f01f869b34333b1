import RegexComposition.Proofs.Fragment.Resemblance
import RegexComposition.Proofs.Session.Conduct

/-!
# Using fragments

Fragments are shared, and using one does write to its nodes: they are put into others, adopted and
marked.  None of this changes what the fragment is compiled into.  Only alternatives and settings
do, and these are added and changed by calls of their own.

Main results:

- `Action.OnlyUses`: neither an alternative is added nor a setting changed.
- `Moment.Acts.keeps`: such an action keeps all fragments.
- `Obeys.use_preserves`: so does a whole program, whatever it makes of a fragment.
-/

namespace RegexComposition

variable {σ τ α β : Type}

open Chronicle

/-- The action neither adds an alternative nor changes a setting. -/
def Action.OnlyUses : Action → Prop
  | .make _ _ | .name _ _ _ _ | .skip _ _ => True
  | .branch _ _ _ | .restyle _ => False

/-- Marking a fragment as skipped keeps all fragments. -/
theorem Graph.keeps_skipped (g : Graph) (id : FragmentId) :
    g.Keeps (g.modify id ({ · with skipped := true })) :=
  keeps_modify g id fun _ => ⟨rfl, rfl, rfl, rfl⟩

/-- An action that only uses fragments keeps them all. -/
theorem Moment.Acts.keeps {p p' : Moment} {a : Action} (h : p.Acts a p') (ha : a.OnlyUses) :
    p.workspace.graph.Keeps p'.workspace.graph := by
  cases h with
  | @make r kind id g hplaces => exact hplaces.extends_graph.keeps.trans (g.keeps_adopt r id)
  | @name r c name id names => exact p.workspace.graph.keeps_adopt r id
  | @skip r target names =>
      have hextends := p.workspace.extends_skipTarget r target
      exact (hextends.graph.keeps.trans (Graph.keeps_skipped _ _)).trans (Graph.keeps_adopt _ _ _)
  | branch => exact ha.elim
  | restyle => exact ha.elim

namespace Obeys

/-- Take any moment of any program and a fragment that exists at this moment, and let another
program go on from there that only uses fragments, in whatever it does itself and lets functions
do.  Afterwards every node below the fragment is compiled as before, there are no other nodes below
it, and the fragment has the same source and the same flags. -/
theorem use_preserves {m : Session (Chronicle σ) α} {memory : σ}
    (hm : Obeys (fun _ _ => True) m (start memory)) {p : Moment}
    (hp : p ∈ history (m.after (start memory)).2) {id : FragmentId}
    (hid : p.workspace.graph.Has id) {s : SessionState (Chronicle τ)}
    (hs : s.workspace = p.workspace) {m' : Session (Chronicle τ) β}
    (hm' : Obeys (fun _ a => a.OnlyUses) m' s) :
    p.workspace.graph.Preserves (m'.after s).2.workspace.graph id ∧
      (∀ other, (m'.after s).2.workspace.graph.Reaches id other ↔
        p.workspace.graph.Reaches id other) ∧
      (m'.after s).2.workspace.graph.source id = p.workspace.graph.source id ∧
      ∀ given default, (m'.after s).2.workspace.graph.resolveFlags id given default =
        p.workspace.graph.resolveFlags id given default := by
  have hsound : p.workspace.IsSound :=
    (hm.forall_history (P := fun _ => True) (fun _ _ _ _ _ _ => trivial)
      (fun _ _ _ _ _ _ _ => trivial) trivial p hp).1
  have hpath := hm'.path (hs ▸ hsound)
  have hkeeps : p.workspace.graph.Keeps (now (m'.after s).2).workspace.graph := by
    refine hpath.preserves (P := fun q => p.workspace.graph.Keeps q.workspace.graph)
      (hs ▸ hsound) ?_ ?_ ?_
    · intro q w hq _ hextends _
      exact hq.trans hextends.graph.keeps
    · intro q a q' hq _ ha hacts
      exact hq.trans (hacts.keeps ha)
    · rw [now, hs]
      exact Graph.Keeps.refl _
  have hpreserves := hkeeps.preserves hsound.isClosed hid
  exact ⟨hpreserves, fun _ => hpreserves.reaches_iff, hpreserves.source, hpreserves.resolveFlags⟩

end Obeys

/-! ## A number -/

open Obeys

/-- Makes an optional number with an alternative that shares a leaf with it. -/
def makeNumber : Session (Chronicle Unit) FragmentId := do
  let b ← Builder.create none
  let _ ← Chronicle.register b .alias "digit" (.native (.ofSource "\\d"))
  let number ← b.combine [.name "digit+"]
  Session.addAlternative number [.name "digit", .literal (.text "x")]
  Session.setOptional number true
  return number

/-- Skips a number while it is being registered, and looks ahead for what comes before a character
that is none. -/
def useNumber (b : Builder) (number : FragmentId) : Session (Chronicle Unit) NativePattern := do
  let _ ← Chronicle.register b .group "number" (.function fun b => do
    let _ ← b.skip (.fragment number)
    return number)
  b.lookaround .forward true [.upTo .ahead none, .name "[^number]"]

theorem obeys_makeNumber : Obeys (fun _ _ => True) makeNumber (start ()) := by
  refine .bind_of_eq ⟨⟨0⟩, none⟩ (.create none) rfl ?_
  refine .bind_of_eq ⟨0⟩ (.register_plain ?_ trivial (by simp) fun _ _ _ => trivial) rfl ?_
  · decide
  refine .bind_of_eq ⟨2⟩ (.combine_plain ?_ ?_ (by simp) fun _ _ _ => trivial) ?_ ?_
  · decide
  · simp [Argument.IsPlain]
  · decide +kernel
  refine .bind_of_eq () (.addAlternative_plain ?_ ?_ (by simp) fun _ _ _ _ _ _ => trivial) ?_ ?_
  · decide +kernel
  · simp [Argument.IsPlain]
  · decide +kernel
  exact (Obeys.setOptional trivial true).bind fun _ _ _ => .pure _

theorem obeys_useNumber : Obeys (fun _ a => a.OnlyUses) (useNumber ⟨⟨0⟩, none⟩ ⟨2⟩)
    (makeNumber.after (start ())).2 := by
  have hnumber : (makeNumber.after (start ())).2.workspace.graph.Has ⟨2⟩ := by decide +kernel
  refine .bind_of_eq ⟨2⟩ (.register ?_ ?_ fun _ _ _ _ _ => trivial) (by decide +kernel) ?_
  · exact fun _ => .of_function ⟨2⟩ (by decide +kernel) (by decide +kernel) (by decide +kernel)
  · intro _ make s' hcalls
    obtain ⟨rfl, rfl⟩ := hcalls.single
    refine .bind (.skip_plain ?_ trivial ?_ fun _ _ _ => trivial) fun _ _ _ => .pure _
    · decide +kernel
    · intro id hid
      obtain rfl := Argument.fragment.inj hid
      exact hnumber
  · refine .lookaround (.combine_plain ?_ ?_ (by simp) fun _ _ _ => trivial) .forward true
    · decide +kernel
    · simp [Argument.IsPlain]

/-- The number has been put into other fragments, marked as skipped and adopted again, and five
nodes have been added. -/
theorem use_preserves_number :
    let before := (makeNumber.after (start ())).2
    let afterwards := ((useNumber ⟨⟨0⟩, none⟩ ⟨2⟩).after before).2
    before.workspace.graph.size = 5 ∧ afterwards.workspace.graph.size = 10 ∧
      afterwards.workspace.graph.node ⟨2⟩ ≠ before.workspace.graph.node ⟨2⟩ ∧
      before.workspace.graph.Preserves afterwards.workspace.graph ⟨2⟩ ∧
      afterwards.workspace.graph.source ⟨2⟩ = .ok "(((((\\d))+)|((\\d)(x))))?" := by
  intro before afterwards
  have hnow : now before ∈ history before := List.mem_append_right _ List.mem_cons_self
  have hnumber : (now before).workspace.graph.Has ⟨2⟩ := by decide +kernel
  obtain ⟨hpreserves, -, hsource, -⟩ :=
    use_preserves obeys_makeNumber hnow hnumber rfl obeys_useNumber
  refine ⟨by decide +kernel, by decide +kernel, by decide +kernel, hpreserves, ?_⟩
  rw [hsource]
  decide +kernel

end RegexComposition

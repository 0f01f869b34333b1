import RegexComposition.Proofs.Fragment.LeafFlags
import RegexComposition.Proofs.Session.Insertion

/-!
# The flags of a combination

Below a forward reference the flags of all later arguments are visited before it is their turn.
They are visited once more when it is, so references change nothing.

Main results:

- `Builder.InsertsReferences`: forward references among the arguments of a list.
- `Builder.InsertsReferences.exists_slots`: they are resolved with the arguments.
- `Builder.aggregated_flags`: the flags of a fragment, and of arguments with further references.
-/

namespace RegexComposition

namespace Builder

open Session

variable {σ : Type} {b : Builder} {args args' : List (Argument σ)} {s s' : SessionState σ}
variable {slots : List Slot} {root : FragmentId}

/-- The second list has the arguments of the first one and any number of forward references without
patterns among them. -/
inductive InsertsReferences : List (Argument σ) → List (Argument σ) → Prop
  | nil : InsertsReferences [] []
  | keep (v : Argument σ) {args args' : List (Argument σ)} :
      InsertsReferences args args' → InsertsReferences (v :: args) (v :: args')
  | insert (direction : UntilDirection) {args args' : List (Argument σ)} :
      InsertsReferences args args' → InsertsReferences args (.upTo direction none :: args')

namespace InsertsReferences

/-- The references are resolved with the arguments.  They change no state, make no fragments and
bring no flags. -/
theorem exists_slots (h : InsertsReferences args args')
    (hslots : (args.mapM b.classify).after s = (.ok slots, s')) : ∃ slots',
    (args'.mapM b.classify).after s = (.ok slots', s') ∧
      (∀ g, flagsOf g slots' = flagsOf g slots) ∧
      ∀ id, .product id ∈ slots' → .product id ∈ slots := by
  induction h generalizing s slots with
  | nil => exact ⟨slots, hslots, fun _ => rfl, fun _ hid => hid⟩
  | keep v _ ih =>
      rcases exists_of_after_cons hslots with ⟨slot, later, s₁, hclassify, hlater, rfl⟩
      rcases ih hlater with ⟨later', hlater', hflags, hproducts⟩
      refine ⟨slot :: later', after_mapM_cons hclassify hlater', fun g => ?_, fun id hid => ?_⟩
      · cases slot <;> simp [flagsOf, hflags]
      · rcases List.mem_cons.1 hid with rfl | hid
        · exact List.mem_cons_self
        · exact List.mem_cons_of_mem _ (hproducts id hid)
  | insert direction _ ih =>
      rcases ih hslots with ⟨slots', hslots', hflags, hproducts⟩
      refine ⟨.forward direction :: slots', after_mapM_cons rfl hslots', hflags, fun id hid => ?_⟩
      exact hproducts id (by simpa using hid)

end InsertsReferences

/-- A fragment without flags of its own, which nobody gives flags, has each flag of its leaves where
it comes first, and the global flag in front of them if it is not among them.  Forward references
among the arguments of a combination change nothing about its flags, as long as no combination is
nested too deep. -/
theorem aggregated_flags (σ : Type) :
    (∀ (g : Graph) (id : FragmentId), g.NestsWithin (maxNesting + 1) id →
      (g.node id).flags = none → ∃ flags, g.resolveFlags id none none = .ok flags ∧
        flags.toList =
          let fs := (NativePattern.flagsOf (g.leaves (maxNesting + 1) id)).eraseDups
          if .global ∈ fs then fs else .global :: fs) ∧
    ∀ (b : Builder) (args args' : List (Argument σ)) (s s' : SessionState σ) (root : FragmentId),
      s.workspace.IsSound → (∀ v ∈ args, v.IsPlain) →
      (∀ id, .fragment id ∈ args → s.workspace.graph.Has id) → InsertsReferences args args' →
      (b.combine args).after s = (.ok root, s') → ∃ root' s'',
        (b.combine args').after s = (.ok root', s'') ∧
        (s'.workspace.graph.NestsWithin (maxNesting + 1) root →
          s''.workspace.graph.NestsWithin (maxNesting + 1) root' → ∀ default, ∃ flags,
            s'.workspace.graph.resolveFlags root none default = .ok flags ∧
            s''.workspace.graph.resolveFlags root' none default = .ok flags) := by
  constructor
  · intro g id hnests hflags
    exact Graph.exists_resolveFlags_eq hnests hflags
  · intro b args args' s s' root hs hargs hids hinserts hcombine
    rcases exists_of_after_bind hcombine with ⟨products, s₁, hproducts, -⟩
    rcases exists_of_after_bind hproducts with ⟨slots, s₂, hslots, -⟩
    obtain ⟨-, hclosed, hhas⟩ := extends_of_slots hs hargs hids hslots
    rcases exists_combine_of_slots hslots hclosed hhas with ⟨_, _, heq, hassembles, hroot⟩
    cases heq.symm.trans hcombine
    -- With the references the same fragments are assembled in the same state.
    rcases hinserts.exists_slots hslots with ⟨slots', hslots', hflags, hsubset⟩
    rcases exists_combine_of_slots hslots' hclosed fun id hid => hhas id (hsubset id hid) with
      ⟨root', s'', hcombine', hassembles', hroot'⟩
    refine ⟨root', s'', hcombine', fun hnests hnests' default => ?_⟩
    have hresolve := hassembles.resolveFlags_eq hroot
      ((hassembles.nestsWithin_root_iff hroot).1 hnests) default
    have hresolve' := hassembles'.resolveFlags_eq hroot'
      ((hassembles'.nestsWithin_root_iff hroot').1 hnests') default
    rw [hflags] at hresolve'
    exact ⟨_, hresolve, hresolve'⟩

/-- Among the patterns `a` with the flag `i` and `b` with the flag `m` two references change nothing
about the flags. -/
theorem aggregated_flags_between :
    let b : Builder := ⟨⟨0⟩, none⟩
    let s : SessionState Unit := ((create none).after ⟨Workspace.empty, ()⟩).2
    let first : Argument Unit := .native ⟨"a", .ofList [.caseInsensitive]⟩
    let last : Argument Unit := .native ⟨"b", .ofList [.multiline]⟩
    let args' : List (Argument Unit) := [.upTo .ahead none, first, .upTo .behind none, last]
    ∃ root root' s' s'' flags, (b.combine [first, last]).after s = (.ok root, s') ∧
      (b.combine args').after s = (.ok root', s'') ∧
      s'.workspace.graph.resolveFlags root none none = .ok flags ∧
      s''.workspace.graph.resolveFlags root' none none = .ok flags ∧
      flags.toList = [.global, .caseInsensitive, .multiline] := by
  intro b s first last args'
  have hinserts : InsertsReferences [first, last] args' :=
    .insert .ahead (.keep first (.insert .behind (.keep last .nil)))
  have hsound : s.workspace.IsSound :=
    (Workspace.extends_addRegistry _).isSound Workspace.isSound_empty
      Workspace.isSound_empty.isClosed
  have hplain : ∀ v ∈ [first, last], v.IsPlain := by simp [first, last, Argument.IsPlain]
  -- What the two combinations are, without the references and with them.
  have hwithout : ∃ s', (b.combine [first, last]).after s = (.ok ⟨2⟩, s') ∧
      s'.workspace.graph.NestsWithin (maxNesting + 1) ⟨2⟩ ∧
      (s'.workspace.graph.node ⟨2⟩).flags = none ∧
      NativePattern.flagsOf (s'.workspace.graph.leaves (maxNesting + 1) ⟨2⟩) =
        [.caseInsensitive, .multiline] :=
    ⟨((b.combine [first, last]).after s).2, Prod.ext (by decide +kernel) rfl,
      Graph.nestsWithin_of_older (by decide +kernel) (by decide), by decide +kernel,
      by decide +kernel⟩
  have hwith : ∃ s'', (b.combine args').after s = (.ok ⟨8⟩, s'') ∧
      s''.workspace.graph.NestsWithin (maxNesting + 1) ⟨8⟩ :=
    ⟨((b.combine args').after s).2, Prod.ext (by decide +kernel) rfl,
      Graph.nestsWithin_of_older (by decide +kernel) (by decide)⟩
  rcases hwithout with ⟨s', hcombine, hnests, hflags, hleaves⟩
  rcases hwith with ⟨s'', hcombine', hnests'⟩
  rcases (aggregated_flags Unit).1 _ ⟨2⟩ hnests hflags with ⟨flags, hresolve, hlist⟩
  rw [hleaves] at hlist
  rcases (aggregated_flags Unit).2 b _ _ s s' ⟨2⟩ hsound hplain (by simp [first, last]) hinserts
    hcombine with ⟨root', t, ht, hsame⟩
  cases hcombine'.symm.trans ht
  rcases hsame hnests hnests' none with ⟨flags', hfirst, hsecond⟩
  obtain rfl := Except.ok.inj (hresolve.symm.trans hfirst)
  exact ⟨_, _, s', s'', flags, hcombine, hcombine', hresolve, hsecond, hlist.trans (by decide)⟩

end Builder

end RegexComposition

import RegexComposition.Proofs.Fragment.Extension

/-!
# The ends of forward references

A forward reference has an end of its own: a mark for the end of the expression, made together with
the reference.  Nothing else refers to it, so nobody adds alternatives or modifiers to it.

Main results:

- `Graph.HasBareEnds`: the end of every forward reference is nothing but a mark.
- `Graph.HasBareEnds.addUpTo`, `Graph.HasBareEnds.adopt` and the like: everything that is done to
  other nodes keeps the ends bare.
-/

namespace RegexComposition

namespace Graph

variable {g g' : Graph} {id other : FragmentId} {kind : FragmentKind}

/-- The node is the end of a forward reference. -/
def IsEnding (g : Graph) (id : FragmentId) : Prop :=
  ∃ upTo ahead direction, (g.node upTo).kind = .upTo ahead id direction

/-- The end of every forward reference is a mark without alternatives and modifiers.  No program has
a handle on such an end, so all graphs of a session are like this (`Obeys.hasBareEnds`). -/
def HasBareEnds (g : Graph) : Prop := ∀ id, g.IsEnding id → g.IsPlain id .expressionEnd

/-! ## Which nodes are ends -/

/-- The ends are the same if all nodes are of the same kinds. -/
theorem isEnding_congr (h : ∀ id, (g'.node id).kind = (g.node id).kind) :
    g'.IsEnding id ↔ g.IsEnding id := by
  simp only [IsEnding, h]

theorem kind_setParent (g : Graph) (parent id other : FragmentId) :
    ((g.setParent parent id).node other).kind = (g.node other).kind :=
  @observe_modify ({ · with parent := some parent }) _ Node.kind (fun _ => rfl) g id other

theorem kind_foldl_setParent (g : Graph) (parent : FragmentId) (ids : List FragmentId)
    (other : FragmentId) :
    ((ids.foldl (·.setParent parent) g).node other).kind = (g.node other).kind := by
  induction ids generalizing g with
  | nil => rfl
  | cons id ids ih => exact (ih _).trans (kind_setParent g parent id other)

theorem kind_adopt (g : Graph) (registry : RegistryId) (root id : FragmentId) :
    ((g.adopt registry root).node id).kind = (g.node id).kind := by
  by_cases hid : g.Has id
  · exact ((keeps_adopt g registry root).node id hid).kind
  · have hid' : ¬ (g.adopt registry root).Has id := mt has_adopt.1 hid
    rw [node_of_not_has hid, node_of_not_has hid']

/-- A new node has an end only if it is a forward reference. -/
theorem isEnding_of_add (h : (g.add kind).2.IsEnding id) :
    g.IsEnding id ∨ ∃ ahead direction, kind = .upTo ahead id direction := by
  rcases h with ⟨upTo, ahead, direction, hkind⟩
  by_cases hupTo : g.Has upTo
  · left
    rw [node_add_of_lt hupTo] at hkind
    exact ⟨upTo, ahead, direction, hkind⟩
  · rcases eq_or_not_has_add kind hupTo with rfl | hnone
    · right
      rw [node_add_self] at hkind
      exact ⟨ahead, direction, hkind⟩
    · rw [node_of_not_has hnone] at hkind
      cases hkind

/-! ## What keeps the ends bare -/

theorem hasBareEnds_empty : empty.HasBareEnds := by
  rintro id ⟨upTo, ahead, direction, hkind⟩
  cases hkind

namespace HasBareEnds

/-- Ends stay bare if no node becomes one and all nodes are kept. -/
theorem of_keeps (h : g.HasBareEnds) (hkeeps : g.Keeps g')
    (hkind : ∀ id, (g'.node id).kind = (g.node id).kind) : g'.HasBareEnds := by
  intro id hid
  have hplain := h id ((isEnding_congr hkind).1 hid)
  exact hplain.of_keeps hkeeps

/-- A node that is no end may be changed, apart from its kind. -/
theorem modify {f : Node → Node} (h : g.HasBareEnds) (hid : ¬ g.IsEnding id)
    (hf : ∀ n, (f n).kind = n.kind) : (g.modify id f).HasBareEnds := by
  intro other hother
  have hending := (isEnding_congr (observe_modify hf g id)).1 hother
  have hne : other ≠ id := by
    rintro rfl
    exact hid hending
  have hplain := h other hending
  constructor
  · simpa using hplain.index_lt
  · rw [node_modify_of_ne hne]
    exact hplain.kind_eq
  · rw [node_modify_of_ne hne]
    exact hplain.alternatives_eq
  · rw [node_modify_of_ne hne]
    exact hplain.modifiers_eq
  · rw [node_modify_of_ne hne]
    exact hplain.flags_eq

/-- A new forward reference must have a bare end. -/
theorem add (h : g.HasBareEnds)
    (hkind : ∀ ahead ending direction, kind = .upTo ahead ending direction →
      g.IsPlain ending .expressionEnd) : (g.add kind).2.HasBareEnds := by
  intro id hid
  rcases isEnding_of_add hid with hold | ⟨ahead, direction, hnew⟩
  · exact (h id hold).of_keeps (keeps_add g kind)
  · exact (hkind ahead id direction hnew).of_keeps (keeps_add g kind)

theorem setParent (h : g.HasBareEnds) (parent id : FragmentId) :
    (g.setParent parent id).HasBareEnds :=
  h.of_keeps (keeps_setParent g parent id) (kind_setParent g parent id)

theorem adopt (h : g.HasBareEnds) (registry : RegistryId) (root : FragmentId) :
    (g.adopt registry root).HasBareEnds :=
  h.of_keeps (keeps_adopt g registry root) (kind_adopt g registry root)

theorem addNative (h : g.HasBareEnds) (pattern : NativePattern) :
    (g.addNative pattern).2.HasBareEnds :=
  h.add nofun

theorem addComposite (h : g.HasBareEnds) (children : List FragmentId) :
    (g.addComposite children).2.HasBareEnds := by
  have hadd : (g.add (.composite children)).2.HasBareEnds := h.add nofun
  exact hadd.of_keeps (keeps_foldl_setParent _ _ _) (kind_foldl_setParent _ _ _)

/-- The new composite is not the end of a forward reference. -/
theorem not_isEnding_addComposite (h : g.HasBareEnds) (children : List FragmentId) :
    ¬ (g.addComposite children).2.IsEnding (g.addComposite children).1 := by
  intro hid
  have hplain := h.addComposite children _ hid
  have hkind := (isPlain_addComposite g children).kind_eq
  rw [hplain.kind_eq] at hkind
  cases hkind

theorem addWrapper (h : g.HasBareEnds) (child : FragmentId) (modifiers : Modifiers) :
    (g.addWrapper child modifiers).2.HasBareEnds :=
  (h.addComposite [child]).modify (h.not_isEnding_addComposite [child]) fun _ => rfl

theorem addUpTo (h : g.HasBareEnds) (ahead : FragmentId) (direction : UntilDirection) :
    (g.addUpTo ahead direction).2.HasBareEnds := by
  have hending : (g.add .expressionEnd).2.HasBareEnds := h.add nofun
  have hupTo : ((g.add .expressionEnd).2.add
      (.upTo ahead (g.add .expressionEnd).1 direction)).2.HasBareEnds := by
    apply hending.add
    rintro _ ending _ hkind
    obtain rfl := (FragmentKind.upTo.inj hkind).2.1
    exact isPlain_add g .expressionEnd
  exact (hupTo.setParent _ ahead).setParent _ _

theorem pushAlternative (h : g.HasBareEnds) (hid : ¬ g.IsEnding id) (branch : FragmentId) :
    (g.pushAlternative id branch).HasBareEnds := by
  have hid' : ¬ (g.setParent id branch).IsEnding id :=
    mt (isEnding_congr (kind_setParent g id branch)).1 hid
  exact (h.setParent id branch).modify hid' fun _ => rfl

end HasBareEnds

end Graph

end RegexComposition

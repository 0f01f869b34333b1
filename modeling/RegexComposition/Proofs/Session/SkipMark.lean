import RegexComposition.Proofs.Capture.RecordNames
import RegexComposition.Proofs.Session.Conduct

/-!
# Skipped groups

The mark of a skipped group is put on its fragment, and a fragment can have several names.  A
fragment that is registered already is therefore wrapped before it is skipped.  Nothing looks at the
mark when a marked fragment gets another name, and nothing looks at other registries.

Main results:

- `Workspace.unmarkedNames`: the names whose fragments are not marked as skipped.
- `Moment.KeepsMarksApart`: no marked fragment gets a name, and no fragment registered elsewhere is
  marked.
- `Moment.IsTold`: the names without a mark are the ones that users have given.
- `Obeys.given_names_captured`: under this condition captures report just the given names.
- `given_name_skipped`: without the condition a given name is missing.
-/

namespace RegexComposition

variable {σ τ α : Type}

open Chronicle

/-! ## Names without a mark -/

/-- The names of one class whose fragments are not marked as skipped, in order. -/
def Workspace.unmarkedNames (w : Workspace) (r : RegistryId) (c : NameClass) : List String :=
  (((w.names r).table c).entries.filter fun entry => !(w.graph.node entry.2).skipped).map (·.1)

/-- The names of one class that users have given to a registry, in order. -/
def Moment.givenNames (p : Moment) (r : RegistryId) (c : NameClass) : List String :=
  (p.given.filter fun g => g.registry = r ∧ g.nameClass = c).map (·.name)

namespace Workspace

variable {w w' : Workspace} {r r' : RegistryId} {c c' : NameClass} {name : String}
variable {id : FragmentId} {names : Registry}

/-- The names without a mark depend on the names and on the marks of registered fragments. -/
theorem unmarkedNames_congr (hnames : w'.names r = w.names r)
    (hskipped : ∀ id, (w.names r).Registers id →
      (w'.graph.node id).skipped = (w.graph.node id).skipped) :
    w'.unmarkedNames r c = w.unmarkedNames r c := by
  unfold unmarkedNames
  rw [hnames]
  refine congrArg _ (List.filter_congr fun entry hentry => ?_)
  rw [hskipped entry.2 ⟨c, entry.1, hentry⟩]

theorem Extends.unmarkedNames (h : w.Extends w') (hw : w.IsSound) :
    w'.unmarkedNames r c = w.unmarkedNames r c :=
  unmarkedNames_congr (h.names r) fun id hid => h.graph.skipped (hw.has r id hid)

/-- A name without a mark is added if its fragment is not marked. -/
theorem unmarkedNames_named (hr' : w.HasRegistry r') (hw : w.graph.IsClosed)
    (hid : w.graph.Has id) (hnames : (w.names r').insert? c' name id = .ok names) :
    (w.named r' names id).unmarkedNames r c = w.unmarkedNames r c ++
      if r' = r ∧ c' = c ∧ (w.graph.node id).skipped = false then [name] else [] := by
  have hskipped : ∀ other, ((w.named r' names id).graph.node other).skipped =
      (w.graph.node other).skipped := Graph.skipped_adopt hw hid r'
  have hinserts := Registry.inserts_of_insert? hnames
  by_cases hr : r' = r
  · subst hr
    by_cases hc : c' = c
    · subst hc
      simp only [unmarkedNames, names_named hr', if_pos, hinserts.entries_same, hskipped,
        List.filter_append, List.map_append, true_and]
      cases hmark : (w.graph.node id).skipped <;> simp [hmark]
    · have htable := hinserts.table_other c (Ne.symm hc)
      simp only [unmarkedNames, names_named hr', if_pos, htable, hskipped, hc]
      simp
  · have hsame : (w.named r' names id).names r = w.names r := by
      rw [names_named hr', if_neg (Ne.symm hr)]
    rw [unmarkedNames_congr hsame fun other _ => hskipped other]
    simp [hr]

/-- A mark concerns no names but those of the marked fragment. -/
theorem unmarkedNames_marked (hid : ¬ (w.names r).Registers id) :
    (w.marked id).unmarkedNames r c = w.unmarkedNames r c := by
  refine unmarkedNames_congr rfl fun other hother => ?_
  have hne : other ≠ id := fun heq => hid (heq ▸ hother)
  rw [marked, Graph.node_modify_of_ne hne]

/-- A group that is skipped adds no name without a mark. -/
theorem unmarkedNames_skipped (hw : w.IsSound) (hr' : w.HasRegistry r') (hid : w.graph.Has id)
    (hnames : (w.names r').insert? c' name id = .ok names) (hfree : ¬ (w.names r).Registers id) :
    (w.skipped r' names id).unmarkedNames r c = w.unmarkedNames r c := by
  have hmark : ((w.marked id).graph.node id).skipped = true := by
    rw [marked, Graph.node_modify_self hid]
  have hsame : (w.skipped r' names id).unmarkedNames r c = (w.marked id).unmarkedNames r c ++
      if r' = r ∧ c' = c ∧ ((w.marked id).graph.node id).skipped = false then [name] else [] :=
    unmarkedNames_named hr' (hw.marked id).isClosed (has_marked.2 hid) hnames
  rw [hsame, hmark, unmarkedNames_marked hfree]
  simp

/-- A change that is no mark concerns no names. -/
theorem unmarkedNames_modify {f : Node → Node} (hf : ∀ n, (f n).skipped = n.skipped) :
    unmarkedNames { w with graph := w.graph.modify id f } r c = w.unmarkedNames r c :=
  unmarkedNames_congr rfl fun other _ => Graph.observe_modify hf w.graph id other

/-- A new node that is adopted concerns no names. -/
theorem unmarkedNames_adopt_placed {kind : FragmentKind} {g : Graph}
    (hplaces : w.graph.Places kind id g) (hw : w.IsSound) :
    unmarkedNames { w with graph := g.adopt r' id } r c = w.unmarkedNames r c := by
  refine unmarkedNames_congr rfl fun other hother => ?_
  have hbefore := hplaces.extends_graph.skipped (hw.has r other hother)
  rw [← hbefore]
  exact Graph.skipped_adopt hplaces.isClosed hplaces.has r' other

/-- An alternative concerns no names. -/
theorem unmarkedNames_branched {children : List FragmentId} (hw : w.IsSound)
    (hchildren : ∀ child ∈ children, w.graph.Has child) :
    (w.branched r' id children).unmarkedNames r c = w.unmarkedNames r c := by
  have hcombined : unmarkedNames { w with graph := (w.graph.combined r' children).2 } r c =
      w.unmarkedNames r c :=
    unmarkedNames_adopt_placed (Graph.places_addComposite hw.isClosed hchildren) hw
  rw [← hcombined]
  refine unmarkedNames_congr (w.names_branched r' r id children) fun other _ => ?_
  exact Graph.observe_pushAlternative Node.skipped (fun _ _ => rfl) (fun _ _ => rfl) _ _ _ other

end Workspace

/-! ## Actions -/

/-- No fragment that is marked as skipped gets a name, and no fragment is marked that is registered
in another registry only. -/
def Moment.KeepsMarksApart (p : Moment) : Action → Prop
  | .name _ _ _ id => (p.workspace.graph.node id).skipped = false
  | .skip r target =>
    ∀ r', (p.workspace.names r').Registers target → (p.workspace.names r).Registers target
  | .make _ _ | .branch _ _ _ | .restyle _ => True

namespace Moment

variable {p p' : Moment} {a : Action} {r : RegistryId} {c : NameClass}

/-- The names without a mark are those that users have given. -/
def IsTold (p : Moment) : Prop := ∀ r c, p.workspace.unmarkedNames r c = p.givenNames r c

/-- A name that has been given is the last one of its class. -/
theorem givenNames_append (w w' : Workspace) (given : List GivenName) (r r' : RegistryId)
    (c c' : NameClass) (name : String) :
    givenNames ⟨w', given ++ [⟨r', c', name⟩]⟩ r c = givenNames ⟨w, given⟩ r c ++
      if r' = r ∧ c' = c then [name] else [] := by
  simp only [givenNames, List.filter_append, List.map_append]
  by_cases h : r' = r ∧ c' = c <;> simp [h]

theorem Acts.isTold (h : p.Acts a p') (hp : p.workspace.IsSound) (ha : p.KeepsMarksApart a)
    (htold : p.IsTold) : p'.IsTold := by
  intro r c
  have htold := htold r c
  cases h with
  | make hplaces => rwa [Workspace.unmarkedNames_adopt_placed hplaces hp]
  | @name r' c' name id names hr' hid hnames =>
      have hmark : (p.workspace.graph.node id).skipped = false := ha
      rw [Workspace.unmarkedNames_named hr' hp.isClosed hid hnames,
        givenNames_append p.workspace, htold]
      simp only [hmark, and_true]
  | @skip r' target names hr' htarget hnames =>
      have hextends := p.workspace.extends_skipTarget r' target
      have hsound := hextends.isSound hp (Workspace.isClosed_skipTarget hp.isClosed htarget r')
      rw [← hextends.names r'] at hnames
      rw [Workspace.unmarkedNames_skipped hsound (Nat.lt_of_lt_of_le hr' hextends.size_le)
        (Workspace.has_skipTarget htarget r') hnames
        (Workspace.not_registers_skipTarget hp (ha r))]
      rw [hextends.unmarkedNames hp, htold]
      simp only [givenNames]
  | branch _ hchildren => rwa [Workspace.unmarkedNames_branched hp hchildren]
  | @restyle id f hf =>
      have hskipped := hf.observe Node.skipped fun _ _ _ => rfl
      rwa [Workspace.unmarkedNames_modify hskipped]

/-- A given name stands for a fragment without a mark. -/
theorem IsTold.exists_get? {p : Moment} (htold : p.IsTold) (hvalid : p.workspace.IsValid)
    {g : GivenName} (hg : g ∈ p.given) :
    ∃ id, (p.workspace.names g.registry).get? g.name = some id ∧
      (p.workspace.graph.node id).skipped = false := by
  have hname : g.name ∈ p.givenNames g.registry g.nameClass :=
    List.mem_map.2 ⟨g, List.mem_filter.2 ⟨hg, by simp⟩, rfl⟩
  rw [← htold] at hname
  obtain ⟨⟨name, id⟩, hentry, heq⟩ := List.mem_map.1 hname
  obtain ⟨hmem, hmark⟩ := List.mem_filter.1 hentry
  refine ⟨id, ?_, by simpa using hmark⟩
  rw [← heq]
  exact (hvalid g.registry).get?_eq_some hmem

end Moment

/-! ## Programs -/

/-- If no marked fragment gets a name, and no fragment registered elsewhere is marked, then at all
moments the fragments that go by a name that a user has given are not marked.  A capture that
succeeds gives records with exactly the given groups of the registry, in the order in which they
have been given, and so without any generated name. -/
theorem Obeys.given_names_captured {m : Session (Chronicle σ) α} {memory : σ}
    (hm : Obeys Moment.KeepsMarksApart m (start memory)) {p : Moment}
    (hp : p ∈ history (m.after (start memory)).2) :
    (∀ g ∈ p.given, ∃ id, (p.workspace.names g.registry).get? g.name = some id ∧
      (p.workspace.graph.node id).skipped = false) ∧
    ∀ (b : Builder) (text : String) (options : CaptureOptions) (s s' : SessionState τ)
      (records : List CaptureRecord), s.workspace = p.workspace →
      (b.capture text options).after s = (.ok records, s') →
      ∀ record ∈ records, record.names = p.givenNames b.registry .group := by
  obtain ⟨hvalid, htold⟩ : p.workspace.IsValid ∧ p.IsTold := by
    refine (hm.forall_history (P := fun p => p.workspace.IsValid ∧ p.IsTold) ?_ ?_ ?_ p hp).2
    · intro q w hq hsound hextends _
      refine ⟨fun r => ?_, fun r c => ?_⟩
      · rw [hextends.names r]
        exact hq.1 r
      · exact (hextends.unmarkedNames hsound).trans (hq.2 r c)
    · intro q a q' hq hsound ha hacts
      exact ⟨hacts.isValid hq.1, hacts.isTold hsound ha.1 hq.2⟩
    · exact ⟨Workspace.isValid_empty, fun r c => by cases c <;> rfl⟩
  refine ⟨fun g hg => htold.exists_get? hvalid hg, ?_⟩
  intro b text options s s' records hs hcapture record hrecord
  have hgraph : s.workspace.graph.capture text (s.workspace.names b.registry).groups options
      b.flags = .ok records := congrArg Prod.fst hcapture
  rw [Graph.names_of_capture hgraph hrecord, hs]
  exact htold b.registry .group

/-- Without a second registry every fragment may be skipped. -/
theorem Moment.keepsMarksApart_skip {p : Moment} (hsize : p.workspace.registries.size = 1)
    (target : FragmentId) : p.KeepsMarksApart (.skip ⟨0⟩ target) := by
  intro r' hregisters
  by_cases hr' : p.workspace.HasRegistry r'
  · have hindex : r'.index < p.workspace.registries.size := hr'
    obtain ⟨i⟩ := r'
    obtain rfl : i = 0 := by simpa [hsize] using hindex
    exact hregisters
  · rw [Workspace.names_of_not_hasRegistry hr'] at hregisters
    exact absurd hregisters (Registry.not_registers_empty target)

/-- Groups for a number with a unit, with a gap between them and a second number at the end that
are skipped. -/
def measure : Session (Chronicle Unit) Builder := do
  let b ← Builder.create none
  let _ ← Chronicle.register b .group "number" (.native (.ofSource "\\d"))
  let _ ← b.skip (.native (.ofSource " ?"))
  let _ ← Chronicle.register b .group "unit" (.native (.ofSource "kg|g"))
  let _ ← b.skip (.name "number")
  return b

theorem obeys_measure : Obeys Moment.KeepsMarksApart measure (start ()) := by
  refine .bind_of_eq ⟨⟨0⟩, none⟩ (.create none) rfl ?_
  refine .bind_of_eq ⟨0⟩ (.register_plain ?_ trivial (by simp) fun id s' hvalue => ?_) ?_ ?_
  · decide
  · obtain ⟨rfl, rfl⟩ := Session.eq_of_after (a := ⟨0⟩) hvalue (by decide +kernel)
    rfl
  · decide +kernel
  refine .bind_of_eq ⟨1⟩ (.skip_plain ?_ trivial (by simp) fun target s' hvalue => ?_) ?_ ?_
  · decide +kernel
  · obtain ⟨rfl, rfl⟩ := Session.eq_of_after (a := ⟨1⟩) hvalue (by decide +kernel)
    exact Moment.keepsMarksApart_skip (by decide +kernel) ⟨1⟩
  · decide +kernel
  refine .bind_of_eq ⟨2⟩ (.register_plain ?_ trivial (by simp) fun id s' hvalue => ?_) ?_ ?_
  · decide +kernel
  · obtain ⟨rfl, rfl⟩ := Session.eq_of_after (a := ⟨2⟩) hvalue (by decide +kernel)
    rfl
  · decide +kernel
  refine .bind (.skip_plain ?_ trivial (by simp) fun target s' hvalue => ?_) fun _ _ _ => .pure _
  · decide +kernel
  · obtain ⟨rfl, rfl⟩ := Session.eq_of_after (a := ⟨0⟩) hvalue (by decide +kernel)
    exact Moment.keepsMarksApart_skip (by decide +kernel) ⟨0⟩

theorem given_names_captured_measure :
    let s := (measure.after (start ())).2
    ∃ records s', (Builder.capture ⟨⟨0⟩, none⟩ "7 kg3" {}).after s = (.ok records, s') ∧
      records.length = 1 ∧ ∀ record ∈ records, record.names = ["number", "unit"] := by
  intro s
  have hnow : now s ∈ history s := List.mem_append_right _ List.mem_cons_self
  obtain ⟨-, hcaptured⟩ := Obeys.given_names_captured (τ := Chronicle Unit) obeys_measure hnow
  have hlength : ((Builder.capture ⟨⟨0⟩, none⟩ "7 kg3" {}).after s).1.toOption.map (·.length) =
      some 1 := by decide +kernel
  cases houtcome : (Builder.capture ⟨⟨0⟩, none⟩ "7 kg3" {}).after s with
  | mk result s' =>
      rw [houtcome] at hlength
      cases result with
      | error e => cases hlength
      | ok records =>
          refine ⟨records, s', rfl, Option.some.inj hlength, fun record hrecord => ?_⟩
          have hgiven : (now s).givenNames ⟨0⟩ .group = ["number", "unit"] := by decide +kernel
          rw [← hgiven]
          exact hcaptured _ _ _ s s' records rfl houtcome record hrecord

/-- Skips a fragment and then registers it as a group. -/
def skipThenName : Session (Chronicle Unit) Builder := do
  let b ← Builder.create none
  let id ← b.skip (.native (.ofSource "-"))
  let _ ← Chronicle.register b .group "g" (.fragment id)
  return b

/-- The group has been given a name, but its fragment is marked, so that no record has it. -/
theorem given_name_skipped :
    Obeys (fun _ _ => True) skipThenName (start ()) ∧
      let s := (skipThenName.after (start ())).2
      s.memory.given = [⟨⟨0⟩, .group, "g"⟩] ∧
        (s.workspace.names ⟨0⟩).get? "g" = some ⟨0⟩ ∧
        (s.workspace.graph.node ⟨0⟩).skipped = true ∧
        ((Builder.capture ⟨⟨0⟩, none⟩ "--" {}).after s).1.toOption.map (·.map (·.names)) =
          some [[]] := by
  constructor
  · refine .bind_of_eq ⟨⟨0⟩, none⟩ (.create none) rfl ?_
    refine .bind_of_eq ⟨0⟩ (.skip_plain ?_ trivial (by simp) fun _ _ _ => trivial) ?_ ?_
    · decide
    · decide +kernel
    refine .bind (.register_plain ?_ trivial ?_ fun _ _ _ => trivial) fun _ _ _ => .pure _
    · decide +kernel
    · intro id hid
      obtain rfl := Argument.fragment.inj hid
      decide +kernel
  · refine ⟨?_, ?_, ?_, ?_⟩
    · decide +kernel
    · decide +kernel
    · decide +kernel
    · decide +kernel

end RegexComposition

import Mathlib.Data.List.TakeWhile
import RegexComposition.Builder
import RegexComposition.Proofs.Fragment.Additions
import RegexComposition.Proofs.Fragment.UpTo
import RegexComposition.Proofs.Regex.GroupNames
import RegexComposition.Proofs.Session.Slots

/-!
# Forward references over literals

A forward reference in front of literals makes a regular expression that matches from as far left
as possible up to the text of the literals, and over it.  This is followed from the arguments
through the graph and the source to the first match.

Main results:

- `Graph.IsForward`: the fragment that the arguments become.
- `Graph.IsForward.regex_eq`: it is compiled into the source of a forward reference.
- `Regex.first_match_of_upTo`: the first match of such a regular expression.
- `Builder.first_match_upTo`: the first match of what the arguments are compiled into.
-/

namespace RegexComposition

/-! ## Emissions without marks -/

namespace Emission

/-- A mark in front of something other than closing parentheses vanishes. -/
theorem resolve_append_ofChars {text : List Char} {c : Char} (hc : c ∈ text) (hne : c ≠ ')')
    (e : Emission) : resolve (e ++ ofChars text) = chars (e ++ ofChars text) := by
  have htext : resolve (ofChars text) = text := (resolves_resolve _).eq_of_ofChars
  rw [resolve_append (by rwa [chars_ofChars]) hne, htext, chars_append, chars_ofChars]

/-- The source of a literal is enclosed. -/
theorem enclose_literal (l : Literal) : enclose (ofString l.source) =
    ofChars ('(' :: (l.source.toList ++ [')'])) := by
  have hhead : (chars (ofString l.source)).head? ≠ some '(' := by
    rw [ofString, chars_ofChars, Literal.source, escapeLiteral, String.toList_ofList]
    exact (escapes_escapeChars l.plainText.toList).head?_ne rfl (by decide)
  rw [enclose, if_neg hhead]
  simp [wrap, ofString, ofChars]

/-- Literals one after the other are enclosed one by one. -/
theorem sequence_literals {part : FragmentId → Emission} {ls : List Literal}
    {ids : List FragmentId} (h : List.Forall₂ (fun l id => part id = ofString l.source) ls ids) :
    sequence (ids.map part) = ofChars (Literal.groupsSource ls) := by
  induction h with
  | nil => rfl
  | @cons l id ls ids hpart _ ih =>
      have hsplit : sequence ((id :: ids).map part) =
          enclose (part id) ++ sequence (ids.map part) := by
        simp [sequence]
      rw [hsplit, hpart, enclose_literal, ih]
      simp [Literal.groupsSource, ofChars]

/-- A forward reference over literals with the literals behind it. -/
theorem resolve_upTo {ls : List Literal} (hls : ls ≠ []) :
    resolve (enclose (upTo .ahead (ofChars (Literal.groupsSource ls)) [.endMark]) ++
      ofChars (Literal.groupsSource ls)) = upToSource (Literal.groupsSource ls) := by
  rcases List.exists_cons_of_ne_nil hls with ⟨l, ls, rfl⟩
  have hmem : '(' ∈ Literal.groupsSource (l :: ls) := by simp [Literal.groupsSource]
  have hmark : Enclosure.startsWithGroupMark (Literal.groupsSource (l :: ls)) = false := rfl
  rw [resolve_append_ofChars hmem (by decide), upTo, chars_ofChars, hmark]
  have hends : chars [.endMark] = [] := rfl
  have hhead : ∀ e : Emission, (chars (wrap ".*?(?=" e ")")).head? ≠ some '(' := by
    intro e
    rw [chars_wrap]
    simp
  rw [enclose, if_neg (hhead _)]
  simp [upToSource, hends]

end Emission

/-! ## The graph -/

namespace Graph

variable {g g' : Graph} {root : FragmentId} {ls : List Literal}

/-- The node is a composite of a forward reference over literals and these literals. -/
def IsForward (g : Graph) (ls : List Literal) (root : FragmentId) : Prop :=
  ∃ ids reference ahead ending, g.IsPlain root (.composite (reference :: ids)) ∧
    g.IsPlain reference (.upTo ahead ending .ahead) ∧ g.IsPlain ahead (.composite ids) ∧
    g.IsPlain ending .expressionEnd ∧
    List.Forall₂ (fun l id => g.IsPlain id (.native (.ofSource l.source))) ls ids

/-- The emission of literals is that of their sources. -/
theorem forall₂_emission {ids : List FragmentId} (levels : Nat)
    (h : List.Forall₂ (fun l id => g.IsPlain id (.native (.ofSource l.source))) ls ids) :
    List.Forall₂ (fun l id => g.emission (levels + 1) id = Emission.ofString l.source) ls ids :=
  h.imp fun _ _ hplain => hplain.emission levels

theorem nestsWithin_of_forall₂ {ids : List FragmentId} (levels : Nat)
    (h : List.Forall₂ (fun l id => g.IsPlain id (.native (.ofSource l.source))) ls ids) :
    ∀ id ∈ ids, g.NestsWithin (levels + 1) id := by
  intro id hid
  induction h with
  | nil => cases hid
  | cons hplain _ ih =>
      rcases List.mem_cons.1 hid with rfl | hid
      · exact hplain.nestsWithin nofun
      · exact ih hid

namespace IsForward

variable (levels : Nat)

/-- The fragment has four levels. -/
theorem nestsWithin (h : g.IsForward ls root) : g.NestsWithin (levels + 4) root := by
  rcases h with ⟨ids, reference, ahead, ending, hroot, hreference, hahead, hending, hids⟩
  refine hroot.nestsWithin fun next hnext => ?_
  rcases List.mem_cons.1 hnext with rfl | hnext
  · refine hreference.nestsWithin fun next hnext => ?_
    rcases List.mem_cons.1 hnext with rfl | hnext
    · exact hahead.nestsWithin (nestsWithin_of_forall₂ levels hids)
    · obtain rfl := List.mem_singleton.1 hnext
      exact hending.nestsWithin nofun
  · exact nestsWithin_of_forall₂ (levels + 2) hids next hnext

theorem emission_eq (h : g.IsForward ls root) : g.emission (levels + 4) root =
    Emission.enclose (Emission.upTo .ahead (Emission.ofChars (Literal.groupsSource ls))
      [.endMark]) ++ Emission.ofChars (Literal.groupsSource ls) := by
  rcases h with ⟨ids, reference, ahead, ending, hroot, hreference, hahead, hending, hids⟩
  have hsequence : ∀ levels, Emission.sequence (ids.map (g.emission (levels + 1))) =
      Emission.ofChars (Literal.groupsSource ls) :=
    fun levels => Emission.sequence_literals (forall₂_emission levels hids)
  have hfirst : g.emission (levels + 3) reference = Emission.upTo .ahead
      (Emission.ofChars (Literal.groupsSource ls)) [.endMark] := by
    rw [hreference.emission, FragmentKind.emission, hahead.emission, hending.emission,
      FragmentKind.emission, hsequence, FragmentKind.emission]
  have hsplit : Emission.sequence ((reference :: ids).map (g.emission (levels + 3))) =
      Emission.enclose (g.emission (levels + 3) reference) ++
        Emission.sequence (ids.map (g.emission (levels + 3))) := by
    simp [Emission.sequence]
  rw [hroot.emission, FragmentKind.emission, hsplit, hfirst, hsequence]

/-- The literals have no flags. -/
theorem mapM_leafFlags {ids : List FragmentId}
    (h : List.Forall₂ (fun l id => g.IsPlain id (.native (.ofSource l.source))) ls ids) :
    ids.mapM (g.leafFlags (levels + 1)) = .ok (ids.map fun _ => []) := by
  induction h with
  | nil => rfl
  | @cons l id ls ids hplain _ ih =>
      rw [List.mapM_cons, hplain.leafFlags_native, ih]
      rfl

theorem leafFlags_eq (h : g.IsForward ls root) : g.leafFlags (levels + 4) root = .ok [] := by
  rcases h with ⟨ids, reference, ahead, ending, hroot, hreference, hahead, hending, hids⟩
  have hfirst := hreference.leafFlags_upTo (hahead.leafFlags_composite (mapM_leafFlags levels hids))
  have hchildren : (reference :: ids).mapM (g.leafFlags (levels + 3)) =
      .ok ((ids.map fun _ => []).flatten :: ids.map fun _ => []) := by
    rw [List.mapM_cons, hfirst, mapM_leafFlags (levels + 2) hids]
    rfl
  rw [hroot.leafFlags_composite hchildren]
  simp

/-- The source of the fragment. -/
theorem source_eq (h : g.IsForward ls root) (hls : ls ≠ []) :
    g.source root = .ok (String.ofList (upToSource (Literal.groupsSource ls))) := by
  have hnests : g.NestsWithin (maxNesting + 1) root := h.nestsWithin 509
  have hemission := h.emission_eq 509
  rw [source_of_nestsWithin hnests, show maxNesting + 1 = 509 + 4 from rfl, hemission,
    Emission.resolve_upTo hls]

/-- Without flags only the global flag remains. -/
theorem regex_eq (h : g.IsForward ls root) (hls : ls ≠ []) : g.regex root none none =
    Regex.compile (String.ofList (upToSource (Literal.groupsSource ls)))
      (Flags.ofList []).withGlobal := by
  have hflags : g.resolveFlags root none none = .ok (Flags.ofList []).withGlobal := by
    have hroot : (g.node root).flags = none := by
      rcases h with ⟨ids, reference, ahead, ending, hroot, -⟩
      exact hroot.flags_eq
    have hleaves : g.leafFlags (maxNesting + 1) root = .ok [] := h.leafFlags_eq 509
    rw [resolveFlags, hroot]
    dsimp only [Option.or]
    rw [hleaves]
    rfl
  exact regex_of_source (h.source_eq hls) hflags

end IsForward

end Graph

/-! ## The session -/

namespace Builder

variable {σ : Type}

/-- Each literal becomes a leaf. -/
theorem after_classify_literals (b : Builder) (ls : List Literal) (s : SessionState σ) :
    ∃ ids s', Session.after ((ls.map Argument.literal).mapM b.classify) s =
        (.ok (ids.map .product), s') ∧
      s.workspace.graph.Keeps s'.workspace.graph ∧
      List.Forall₂ (fun l id => s'.workspace.graph.IsPlain id (.native (.ofSource l.source)))
        ls ids := by
  induction ls generalizing s with
  | nil => exact ⟨[], s, rfl, Graph.Keeps.refl _, .nil⟩
  | cons l ls ih =>
      let added := s.workspace.graph.addNative (.ofSource l.source)
      rcases ih { s with workspace := { s.workspace with graph := added.2 } } with
        ⟨ids, s', hrest, hkeeps, hids⟩
      exact ⟨added.1 :: ids, s', after_mapM_cons rfl hrest, (Graph.keeps_add _ _).trans hkeeps,
        .cons ((Graph.isPlain_add _ _).of_keeps hkeeps) hids⟩

/-- Resolved arguments that are no forward references stay what they are. -/
theorem assemble_products (ids : List FragmentId) (g : Graph) :
    assemble (ids.map .product) g = (ids.map some, g) := by
  induction ids with
  | nil => rfl
  | cons id ids ih =>
      rw [List.map_cons, assemble, ih]
      rfl

/-- The arguments become the fragment of a forward reference. -/
theorem exists_after_combine (b : Builder) {ls : List Literal} (hls : ls ≠ [])
    (s : SessionState σ) : ∃ root s',
      Session.after (b.combine (.upTo .ahead none :: ls.map .literal)) s = (.ok root, s') ∧
      s'.workspace.graph.IsForward ls root := by
  rcases after_classify_literals b ls s with ⟨ids, s₁, hslots, -, hids⟩
  let slots : List Slot := ids.map .product
  have hproducts : Session.after (b.products (.upTo .ahead none :: ls.map .literal)) s =
      (.ok (assemble (.forward .ahead :: slots) s₁.workspace.graph).1,
        s₁.withGraph (assemble (.forward .ahead :: slots) s₁.workspace.graph).2) := by
    rw [after_products, after_mapM_cons rfl hslots]
  have hassemble : assemble slots s₁.workspace.graph = (ids.map some, s₁.workspace.graph) :=
    assemble_products ids _
  have hchildren : (assemble slots s₁.workspace.graph).1.filterMap id = ids := by
    rw [hassemble]
    simp
  have hne : (assemble slots s₁.workspace.graph).1.filterMap id ≠ [] := by
    rw [hchildren]
    rintro rfl
    cases hids
    exact hls rfl
  rcases exists_combine_of_products hproducts with ⟨root, s', hcombine, hkeeps, hroot⟩
  rcases exists_assemble_cons (.forward .ahead) slots s₁.workspace.graph with ⟨-, -, hforward⟩
  rcases exists_assemble_forward hne hkeeps with
    ⟨reference, ahead, ending, heq, hreference, hahead, hending⟩
  have hroot' : s'.workspace.graph.IsPlain root (.composite (reference :: ids)) := by
    rw [← hchildren]
    rwa [heq] at hroot
  rw [hchildren] at hahead
  rw [hassemble] at hforward
  exact ⟨root, s', hcombine, ids, reference, ahead, ending, hroot', hreference, hahead, hending,
    hids.imp fun _ _ hplain => hplain.of_keeps (hforward.trans hkeeps)⟩

/-- The regular expression of the arguments is that of the source of a forward reference. -/
theorem exists_after_compile (b : Builder) (hflags : b.flags = none) {ls : List Literal}
    (hls : ls ≠ []) (s : SessionState σ) : ∃ s',
      Session.after (b.compile (.upTo .ahead none :: ls.map .literal)) s =
        (Regex.compile (String.ofList (upToSource (Literal.groupsSource ls)))
          (Flags.ofList []).withGlobal, s') := by
  rcases exists_after_combine b hls s with ⟨root, s', hcombine, hroot⟩
  refine ⟨s', ?_⟩
  rw [after_compile_of_combine hcombine, hflags, hroot.regex_eq hls]

end Builder

/-! ## The first match -/

/-- A word stands somewhere in a text if it is a part of it. -/
theorem Text.infix_iff {text : String} {w : List Char} :
    w <:+: text.toList ↔ ∃ j ≤ (Text.ofString text).size, (Text.ofString text).HasAt j w := by
  constructor
  · rintro ⟨before, after, htext⟩
    have hsize : (Text.ofString text).size = text.toList.length := by simp [ofString, size]
    refine ⟨before.length, ?_, ?_⟩
    · rw [hsize, ← htext]
      simp
    · show w <+: text.toList.toArray.toList.drop before.length
      rw [← htext, List.append_assoc]
      simp
  · rintro ⟨j, -, hat⟩
    have hprefix : w <+: text.toList.drop j := hat
    exact hprefix.isInfix.trans (List.drop_suffix j text.toList).isInfix

/-- The first match of a pattern for everything up to a word: it starts as far left as possible and
goes up to the first place where the word stands, and over it. -/
theorem Regex.first_match_of_upTo {r : Regex} {ahead rest : Pattern} {w : List Char}
    (hpattern : r.program.pattern = Pattern.upTo 1 ahead rest) (hahead : ahead.IsWord w)
    (hrest : rest.IsWord w) (hone : 1 ∉ rest.groups) (hsticky : r.isSticky = false)
    (text : String) :
    ((r.occurrences (Text.ofString text)).head?.isSome = true ↔ w <:+: text.toList) ∧
      ∀ o ∈ (r.occurrences (Text.ofString text)).head?,
        ∃ i j, IsLeast {i | ∃ j, (Text.ofString text).Awaits w i j} i ∧
          IsLeast {j | (Text.ofString text).Awaits w i j} j ∧
          o.span = ⟨i, j + w.length⟩ ∧ o.captures.get? 1 = some ⟨i, j⟩ := by
  generalize ht : Text.ofString text = t
  rw [occurrences, hsticky, if_neg Bool.false_ne_true, Pattern.head?_occurrences, hpattern]
  constructor
  · rw [Option.isSome_map, Pattern.search_isSome, Text.infix_iff, ht]
    constructor
    · rintro ⟨i, -, hi, hmatch⟩
      rw [Pattern.matchAt_upTo_isSome hahead hrest hone (by omega)] at hmatch
      rcases hmatch with ⟨j, hj⟩
      exact ⟨j, hj.bounded, hj.hasAt⟩
    · rintro ⟨j, hj, hat⟩
      refine ⟨j, Nat.zero_le j, by omega, ?_⟩
      rw [Pattern.matchAt_upTo_isSome hahead hrest hone hj]
      exact ⟨j, Nat.le_refl j, hj, hat, (Text.onOneLine_iff hj).2 fun m _ _ => by omega⟩
  · intro o ho
    rcases Option.mem_map.1 ho with ⟨⟨i, place⟩, hsearch, rfl⟩
    rcases Pattern.matchAt_of_search hsearch with ⟨hmatch, -, hi⟩
    rcases Pattern.of_matchAt_upTo hahead hrest hone (by omega) hmatch with
      ⟨j, hj, hposition, hcapture⟩
    refine ⟨i, j, ⟨⟨j, hj.1⟩, ?_⟩, hj, ?_, hcapture⟩
    · -- Further to the left the search would have stopped.
      rintro i' ⟨j', hj'⟩
      by_contra hlt
      have hnone := Pattern.matchAt_eq_none_of_search hsearch (Nat.zero_le i') (Nat.not_le.1 hlt)
      have hsome : ((Pattern.upTo 1 ahead rest).matchAt t i').isSome = true :=
        (Pattern.matchAt_upTo_isSome hahead hrest hone
          (Nat.le_trans hj'.le hj'.bounded)).2 ⟨j', hj'⟩
      rw [hnone] at hsome
      cases hsome
    · rw [← hposition]

/-- A forward reference in front of literals, combined by a builder without flags, is compiled.
The first match exists exactly if the text of the literals occurs in the text.  It starts at the
first position from which an occurrence is reached on one line, and ends behind the first of these
occurrences; group 1 is what lies in front of it. -/
theorem Builder.first_match_upTo {σ : Type} (b : Builder) (hflags : b.flags = none)
    (ls : List Literal) (hls : ls ≠ []) (s : SessionState σ) : ∃ r s',
      Session.after (b.compile (.upTo .ahead none :: ls.map .literal)) s = (.ok r, s') ∧
      ∀ text : String,
        ((r.capturesIn text).head?.isSome = true ↔ Literal.joined ls <:+: text.toList) ∧
        ∀ m ∈ (r.capturesIn text).head?, ∃ i j,
          IsLeast {i | ∃ j, (Text.ofString text).Awaits (Literal.joined ls) i j} i ∧
          IsLeast {j | (Text.ofString text).Awaits (Literal.joined ls) i j} j ∧
          m.get? 0 = some (Match.ofSpan (Text.ofString text) none
            ⟨i, j + (Literal.joined ls).length⟩) ∧
          m.get? 1 = some (Match.ofSpan (Text.ofString text) none ⟨i, j⟩) := by
  rcases exists_after_compile b hflags hls s with ⟨s', hafter⟩
  have hsource : ∃ n, Fits (Modes.ofFlags (Flags.ofList []).withGlobal) n
      (Frame.GainsWord (Literal.joined ls)) (Literal.groupsSource ls) :=
    Fits.groupsSource rfl rfl ls
  rcases hsource with ⟨n, hfits⟩
  have hstops : Stops (Literal.groupsSource ls) := by
    rcases List.exists_cons_of_ne_nil hls with ⟨l, ls, rfl⟩
    simp [Literal.groupsSource, Stops]
  rcases Pattern.exists_upTo_of_compile hfits hstops rfl with
    ⟨r, ahead, rest, hcompile, hpattern, hahead, hrest, hone, m, hgroups⟩
  have hsticky : r.isSticky = false := by
    rw [Regex.isSticky, (Regex.of_compile hcompile).2.2]
    rfl
  refine ⟨r, s', hafter.trans (by rw [hcompile]), fun text => ?_⟩
  rcases Regex.first_match_of_upTo hpattern hahead hrest hone hsticky text with ⟨hiff, hfirst⟩
  rw [Regex.capturesIn, List.head?_map]
  refine ⟨by rw [Option.isSome_map]; exact hiff, fun found hfound => ?_⟩
  rcases Option.mem_map.1 hfound with ⟨o, ho, rfl⟩
  rcases hfirst o ho with ⟨i, j, hi, hj, hspan, hcapture⟩
  refine ⟨i, j, hi, hj, by rw [← hspan]; rfl, ?_⟩
  have hlength : 0 < r.program.groups.length := by
    rw [hgroups, List.length_replicate]
    omega
  have hunnamed : r.groupName? 1 = none :=
    Regex.groupName?_eq_none hcompile (by rw [hgroups]; exact fun _ => List.eq_of_mem_replicate) 1
  have hname : r.groupNames[0]?.join = none := hunnamed
  rw [Regex.get?_groupsOf hlength, hcapture, hname]
  rfl

/-- The match starts behind the line end, and the second occurrence is not needed. -/
theorem Builder.first_match_upTo_line :
    (∃ r s', Session.after (Builder.compile ⟨⟨0⟩, none⟩
        (.upTo .ahead none :: [Literal.text "b\\\\", .integer 1].map .literal))
        (⟨Workspace.empty, ()⟩ : SessionState Unit) = (.ok r, s') ∧
      ((r.capturesIn "a\nxb\\1b\\1").head?.isSome = true ↔
        "b\\1".toList <:+: "a\nxb\\1b\\1".toList)) ∧
    (Session.after (Builder.compile ⟨⟨0⟩, none⟩
        (.upTo .ahead none :: [Literal.text "b\\\\", .integer 1].map .literal))
        (⟨Workspace.empty, ()⟩ : SessionState Unit)).1.toOption.bind
      (fun r => (r.capturesIn "a\nxb\\1b\\1").head?.map (·.groups.take 2)) =
        some [some ⟨2, 6, none, "xb\\1"⟩, some ⟨2, 3, none, "x"⟩] := by
  refine ⟨?_, by decide +kernel⟩
  rcases first_match_upTo ⟨⟨0⟩, none⟩ rfl [.text "b\\\\", .integer 1] (by simp)
    (⟨Workspace.empty, ()⟩ : SessionState Unit) with ⟨r, s', hafter, hmatches⟩
  exact ⟨r, s', hafter, (hmatches _).1⟩

end RegexComposition

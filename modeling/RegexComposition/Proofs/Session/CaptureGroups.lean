import RegexComposition.Proofs.Fragment.NumberedGroups
import RegexComposition.Proofs.Session.Insertion

/-!
# Groups for arguments

The pattern with a group for every argument compiles each fragment alone, while arguments that are
compiled together leave out every mark for the end of the expression but the last one and put
parentheses around those sources only that do not start with one.  Where neither makes a difference,
both match the same.

Main results:

- `Emission.resolve_sequence`: the source of a composite from the sources of its children.
- `Graph.EndsInReference`: fragments whose source has an end anchor only when it stands alone.
- `Builder.after_captureGroups`: the pattern with a group for every argument.
- `Builder.captureGroups_matches`: it is accepted, and matches like the arguments.
- `Builder.captureGroups_anchored`: a forward reference need not match the same.
-/

namespace RegexComposition

/-! ## The marks of a composite -/

namespace Emission

/-- The source of an emission starts with a parenthesis if its characters do. -/
theorem head?_resolve_iff (e : Emission) :
    (resolve e).head? = some '(' ↔ e.chars.head? = some '(' := by
  constructor
  · intro h
    rcases resolve_cases e with heq | ⟨front, k, he, heq⟩
    · rwa [heq] at h
    · rw [heq] at h
      rw [he, chars_of_anchored]
      cases hfront : front.chars with
      | nil =>
          rw [hfront] at h
          cases h
      | cons c rest =>
          rw [hfront] at h
          exact h
  · intro h
    rcases exists_resolve h with ⟨rest, hrest⟩
    rw [hrest]
    rfl

/-- Parentheses around an emission leave its marks as they are. -/
theorem resolve_parenthesized (e : Emission) :
    resolve (wrap "(" e ")") = '(' :: (resolve e ++ [')']) := by
  have hchars : chars (wrap "(" e ")") = '(' :: (chars e ++ [')']) := by simp
  have hreverse : (wrap "(" e ")").reverse = .char ')' :: (e.reverse ++ [.char '(']) := by
    simp [wrap, ofString, ofChars]
  have htake : (.char ')' :: (e.reverse ++ [.char '('])).takeWhile isClosing =
      .char ')' :: e.reverse.takeWhile isClosing := by
    have hopening : isClosing (.char '(') = false := rfl
    have hclosing : isClosing (.char ')') = true := rfl
    rw [List.takeWhile_cons_of_pos hclosing, List.takeWhile_append]
    split
    · next hall => simp [hopening, List.IsPrefix.eq_of_length (List.takeWhile_prefix _) hall]
    · rfl
  have hdrop : (.char ')' :: (e.reverse ++ [.char '('])).dropWhile isClosing =
      e.reverse.dropWhile isClosing ++ [.char '('] := by
    have hopening : isClosing (.char '(') = false := rfl
    have hclosing : isClosing (.char ')') = true := rfl
    rw [List.dropWhile_cons_of_pos hclosing, List.dropWhile_append]
    split
    · next hnone => simp [List.isEmpty_iff.1 hnone, hopening]
    · rfl
  unfold resolve
  dsimp only
  rw [hreverse, hchars, htake, hdrop]
  cases e.reverse.dropWhile isClosing with
  | nil => rfl
  | cons s rest =>
      cases s with
      | char c => rfl
      | endMark =>
        simp [chars, char?, ← List.replicate_succ', List.map_const', List.replicate_succ]

/-- An enclosed emission has its own source, in parentheses unless it starts with one. -/
theorem resolve_enclose (e : Emission) : resolve (enclose e) =
    if (resolve e).head? = some '(' then resolve e else '(' :: (resolve e ++ [')']) := by
  rw [enclose]
  by_cases hhead : e.chars.head? = some '('
  · rw [if_pos hhead, if_pos ((head?_resolve_iff e).2 hhead)]
  · rw [if_neg hhead, if_neg (mt (head?_resolve_iff e).1 hhead), resolve_parenthesized]

/-- If no mark of an emission becomes an end anchor, none does when it is enclosed. -/
theorem chars_enclose {e : Emission} (h : resolve e = chars e) :
    chars (enclose e) = resolve (enclose e) := by
  rw [resolve_enclose, h]
  unfold enclose
  split
  · rfl
  · simp

/-- If only in the last part a mark becomes an end anchor, the sources of the parts stand one behind
the other. -/
theorem resolve_sequence {parts : List Emission}
    (h : ∀ e ∈ parts.dropLast, resolve e = chars e) :
    resolve (sequence parts) = parts.flatMap fun e => resolve (enclose e) := by
  induction parts with
  | nil => rfl
  | cons e parts ih =>
      cases parts with
      | nil => simp [sequence]
      | cons e' parts =>
          have hhead : (chars (sequence (e' :: parts))).head? = some '(' := by
            rw [sequence, List.flatMap_cons, chars_append, List.head?_append, head?_enclose]
            rfl
          have hfirst := h e (by simp)
          have hrest := ih fun e'' he => h e'' (by
            rw [List.dropLast_cons_cons]
            exact List.mem_cons_of_mem e he)
          have hsequence : sequence (e :: e' :: parts) = enclose e ++ sequence (e' :: parts) := by
            rw [sequence, List.flatMap_cons]
            rfl
          rw [hsequence, resolve_append_of_head? _ hhead, hrest, chars_enclose hfirst]
          rfl

end Emission

namespace Graph

variable {g g' : Graph} {root : FragmentId} {ids : List FragmentId} {own : FragmentId → Regex}

/-- A forward reference ends the fragment: only closing parentheses follow its mark for the end of the
expression, which becomes an end anchor when the fragment is compiled alone. -/
def EndsInReference (g : Graph) (id : FragmentId) : Prop :=
  Emission.resolve (g.part id) ≠ Emission.chars (g.part id)

/-- Alone the fragment has an accepted source without named groups and references. -/
def IsAcceptedAlone (g : Graph) (flags : Flags) (id : FragmentId) : Prop :=
  ∃ source r, g.source id = .ok source ∧ Regex.compile source flags = .ok r ∧
    r.IsPart (Program.grammar source flags) flags

/-- The source of a fragment that is not nested too deep for a part of another one. -/
theorem resolve_part {id : FragmentId} {source : String} (hnests : g.NestsWithin maxNesting id)
    (hsource : g.source id = .ok source) : Emission.resolve (g.part id) = source.toList := by
  rw [source_of_nestsWithin (hnests.mono (Nat.le_succ _)),
    emission_of_le hnests (Nat.le_succ _)] at hsource
  rw [← Except.ok.inj hsource, String.toList_ofList]
  rfl

/-- A composite of fragments of another graph has their sources, if none but the last ends in a forward
reference. -/
theorem resolve_sequence_part (hown : ∀ id ∈ ids,
      Emission.resolve (g.part id) = (own id).source.toList)
    (hends : ∀ id ∈ ids.dropLast, ¬ g.EndsInReference id) :
    Emission.resolve (Emission.sequence (ids.map g.part)) =
      (ids.map own).flatMap Regex.composed := by
  have hlast : ∀ e ∈ (ids.map g.part).dropLast, Emission.resolve e = e.chars := by
    rw [← List.map_dropLast]
    intro e he
    rcases List.mem_map.1 he with ⟨id, hid, rfl⟩
    exact not_not.1 (hends id hid)
  rw [Emission.resolve_sequence hlast, List.flatMap_map, List.flatMap_map]
  refine List.flatMap_congr fun id hid => ?_
  rw [Emission.resolve_enclose, hown id hid]
  rfl

/-- The regular expression of a composite of fragments of another graph, if these are not nested too
deep. -/
theorem regex_composite (hroot : g'.IsPlain root (.composite ids))
    (hpreserves : ∀ id ∈ ids, g.Preserves g' id) (hnests : ∀ id ∈ ids, g.NestsWithin maxNesting id)
    (default : Option Flags) : g'.regex root none default =
      Regex.compile
        (String.ofList (Emission.resolve (Emission.sequence (ids.map g.part))))
        (default.getD (Flags.ofList (ids.flatMap g.partFlags))).withGlobal := by
  have hnests' : ∀ id ∈ ids, g'.NestsWithin maxNesting id := fun id hid =>
    (hpreserves id hid).nestsWithin_iff.2 (hnests id hid)
  have hsource : g'.source root =
      .ok (String.ofList (Emission.resolve (Emission.sequence (ids.map g.part)))) := by
    have hparts : ids.map (g'.emission maxNesting) = ids.map g.part := List.map_congr_left
      fun id hid => (hpreserves id hid).emission_eq_part (hnests' id hid) (Nat.le_refl _)
    rw [source_of_nestsWithin (hroot.nestsWithin hnests'), hroot.emission, FragmentKind.emission,
      hparts]
  have hleaves : ids.mapM (g'.leafFlags maxNesting) = .ok (ids.map g.partFlags) :=
    mapM_of_forall₂ (List.forall₂_map_right_iff.2 (List.forall₂_same.2 fun id hid =>
      (hpreserves id hid).leafFlags_eq_partFlags (hnests' id hid) (Nat.le_refl _)))
  refine regex_of_source hsource ?_
  rw [resolveFlags, hroot.flags_eq]
  cases default with
  | some flags => rfl
  | none =>
      rw [hroot.leafFlags_composite hleaves, ← List.flatMap_def]
      rfl

/-- Otherwise the composite is refused for its depth. -/
theorem regex_composite_eq_error (hroot : g'.IsPlain root (.composite ids))
    (hpreserves : ∀ id ∈ ids, g.Preserves g' id)
    (hdeep : ¬ ∀ id ∈ ids, g.NestsWithin maxNesting id) (default : Option Flags) :
    g'.regex root none default = .error (.nestingTooDeep maxNesting) := by
  have hroot' : ¬ g'.NestsWithin (maxNesting + 1) root := by
    refine fun hnests => hdeep fun id hid => (hpreserves id hid).nestsWithin_iff.1 (hnests id ?_)
    rw [Node.links, hroot.kind_eq]
    exact List.mem_append_right _ hid
  rw [regex, source, emit_eq_error hroot']
  rfl

end Graph

/-! ## The groups of arguments -/

namespace Builder

open Session

variable {σ : Type} {b : Builder} {g : Graph} {own : FragmentId → Regex} {flags : Flags}
variable {position : Nat} {products : List (Option FragmentId)}

/-- The fragments among the products. -/
theorem mem_products_iff {child : FragmentId} :
    child ∈ products.filterMap id ↔ some child ∈ products := by
  simp

/-- The sources of the arguments that have a fragment, with the positions of these arguments. -/
def numberedItems (own : FragmentId → Regex) (position : Nat)
    (products : List (Option FragmentId)) : List (Nat × Regex) :=
  (products.zipIdx position).filterMap fun product =>
    product.1.map fun child => (product.2, own child)

theorem numberedItems_some {child : FragmentId} :
    numberedItems own position (some child :: products) =
      (position, own child) :: numberedItems own (position + 1) products := rfl

/-- They are the sources of the fragments. -/
theorem map_snd_numberedItems : (numberedItems own position products).map Prod.snd =
    (products.filterMap id).map own := by
  induction products generalizing position with
  | nil => rfl
  | cons product products ih =>
      cases product with
      | none => exact ih
      | some child => rw [numberedItems_some, List.map_cons, ih]; rfl

/-- Arguments have different positions. -/
theorem nodup_map_fst_numberedItems : ((numberedItems own position products).map Prod.fst).Nodup := by
  have hsublist : ((numberedItems own position products).map Prod.fst).Sublist
      (List.range' position products.length) := by
    induction products generalizing position with
    | nil => exact List.Sublist.refl _
    | cons product products ih =>
        rw [List.length_cons, List.range'_succ]
        cases product with
        | none => exact ih.cons position
        | some child => exact ih.cons_cons position
  exact hsublist.nodup List.nodup_range'

/-- The groups are made of the sources. -/
theorem numberedGroups_eq
    (h : ∀ child, some child ∈ products → g.source child = .ok (own child).source) :
    numberedGroups g position products =
      .ok (numberedText (numberedItems own position products)) := by
  induction products generalizing position with
  | nil => rfl
  | cons product products ih =>
      have hrest := @ih (position + 1) fun child hchild => h child (List.mem_cons_of_mem _ hchild)
      cases product with
      | none => exact hrest
      | some child =>
          rw [numberedGroups, h child List.mem_cons_self, hrest, numberedItems_some,
            numberedText_cons]
          rfl

/-! ## The session -/

variable {args : List (Argument σ)} {s s₁ : SessionState σ}

/-- The pattern with a group for every argument. -/
theorem after_captureGroups {source : String}
    (hproducts : (b.products args).after s = (.ok products, s₁))
    (hsource : numberedGroups s₁.workspace.graph 1 products = .ok source) :
    (b.captureGroups args).after s = (.ok (.ofSource (Enclosure.stripPlain source)), s₁) := by
  simp only [captureGroups, after_bind, hproducts, after_graph, after_ofExcept, hsource]
  rfl

/-- The flags of a combination: those of the builder, or else those of the fragments. -/
def combinedFlags (b : Builder) (g : Graph) (ids : List FragmentId) : Flags :=
  (b.flags.getD (Flags.ofList (ids.flatMap g.partFlags))).withGlobal

/-- What the fragments of arguments are compiled into. -/
theorem after_compile_of_products (hproducts : (b.products args).after s = (.ok products, s₁))
    (hclosed : s₁.workspace.graph.IsClosed)
    (hhas : ∀ child, some child ∈ products → s₁.workspace.graph.Has child) : ∃ s',
    ((∀ child ∈ products.filterMap id, s₁.workspace.graph.NestsWithin maxNesting child) →
      (b.compile args).after s =
        (Regex.compile (String.ofList (Emission.resolve (Emission.sequence
          ((products.filterMap id).map s₁.workspace.graph.part))))
          (b.combinedFlags s₁.workspace.graph (products.filterMap id)), s')) ∧
    (¬ (∀ child ∈ products.filterMap id, s₁.workspace.graph.NestsWithin maxNesting child) →
      (b.compile args).after s = (.error (.nestingTooDeep maxNesting), s')) := by
  rcases exists_combine_of_products hproducts with ⟨root, s', hcombine, hkeeps, hroot⟩
  have hpreserves : ∀ child ∈ products.filterMap id,
      s₁.workspace.graph.Preserves s'.workspace.graph child :=
    fun child hchild => hkeeps.preserves hclosed (hhas child (mem_products_iff.1 hchild))
  rw [after_compile_of_combine hcombine]
  exact ⟨s', fun hnests => congrArg (·, _) (Graph.regex_composite hroot hpreserves hnests b.flags),
    fun hdeep => congrArg (·, _) (Graph.regex_composite_eq_error hroot hpreserves hdeep b.flags)⟩

end Builder

namespace Builder

open Session

variable {σ : Type} {b : Builder} {args : List (Argument (Chronicle σ))}
variable {s s₁ : SessionState (Chronicle σ)} {products : List (Option FragmentId)}

/-- The flags are those of the combination, no fragment but the last ends in a forward reference, and
there is a single fragment or none has an open bar. -/
structure CombinesAlike (b : Builder) (g : Graph) (own : FragmentId → Regex)
    (ids : List FragmentId) (flags : Flags) : Prop where
  flags : b.combinedFlags g ids = flags
  unended : ∀ child ∈ ids.dropLast, ¬ g.EndsInReference child
  unopened : ids.length = 1 ∨ ∀ child ∈ ids, (own child).hasOpenBar = false

/-- Take any builder and arguments whose fragments, compiled alone, have sources that are accepted
under some flags, have neither named groups nor references nor the escape `\k`, and are no groups with
modifiers.  The pattern with a group for every argument has no flags, and under these it is accepted.
If the sources refer to no groups of the pattern, it matches like their concatenation.  So do the
arguments when they are compiled under these flags, if no fragment but the last ends in a forward
reference and there is a single fragment or none has an open bar.  Fragments that are nested too deep
for a combination are refused by it. -/
theorem captureGroups_matches (hs : s.workspace.IsSound) (hadmits : b.Admits args s)
    (hcalls : ∀ make s', b.Calls make s' args s → Obeys (fun _ _ => True) (make b) s')
    (hproducts : (b.products args).after s = (.ok products, s₁)) {own : FragmentId → Regex}
    {flags : Flags} (hown : ∀ child, some child ∈ products →
      s₁.workspace.graph.source child = .ok (own child).source ∧ (own child).IsNumberable flags) :
    ∃ p r numbered s', (b.captureGroups args).after s = (.ok p, s₁) ∧ p.flags = ∅ ∧
      Regex.compile p.source flags = .ok r ∧
      numberedGroups s₁.workspace.graph 1 products = .ok numbered ∧
      ((∀ child, some child ∈ products →
          (own child).IsPart (Program.grammar numbered flags) flags) →
        (∃ r', Regex.compile (Regex.concatenation ((products.filterMap id).map own)) flags = .ok r' ∧
          ∀ text, r.matchesIn text = r'.matchesIn text) ∧
        ((∀ child ∈ products.filterMap id, s₁.workspace.graph.NestsWithin maxNesting child) →
          b.CombinesAlike s₁.workspace.graph own (products.filterMap id) flags →
            ∃ r', (b.compile args).after s = (.ok r', s') ∧ r'.flags = flags ∧
              ∀ text, r.matchesIn text = r'.matchesIn text)) ∧
      (¬ (∀ child ∈ products.filterMap id, s₁.workspace.graph.NestsWithin maxNesting child) →
        (b.compile args).after s = (.error (.nestingTooDeep maxNesting), s')) := by
  obtain ⟨hpath, hhas⟩ := path_products hs hadmits fun make s' hmake hbefore =>
    (hcalls make s' hmake).path (hbefore.isSound hs)
  rw [hproducts] at hpath
  have hclosed := (hpath.isSound hs).isClosed
  rcases after_compile_of_products hproducts hclosed (hhas products s₁ hproducts) with
    ⟨s', hrun, hdeep⟩
  have hnumbered : numberedGroups s₁.workspace.graph 1 products =
      .ok (numberedText (numberedItems own 1 products)) :=
    numberedGroups_eq fun child hchild => (hown child hchild).1
  have hitems : ∀ part ∈ (numberedItems own 1 products).map Prod.snd, part.IsNumberable flags := by
    rw [map_snd_numberedItems]
    exact List.forall_mem_map.2 fun child hchild => (hown child (mem_products_iff.1 hchild)).2
  rcases Regex.matchesIn_numbered (List.forall_mem_map.1 hitems) nodup_map_fst_numberedItems with
    ⟨r, hcompile, hmatches⟩
  rw [map_snd_numberedItems] at hmatches
  refine ⟨_, r, _, s', after_captureGroups hproducts hnumbered, rfl, hcompile, hnumbered,
    fun hparts => ?_, hdeep⟩
  have hall : ∀ part ∈ (products.filterMap id).map own, part.IsPart
      (Program.grammar (numberedText (numberedItems own 1 products)) flags) flags :=
    List.forall_mem_map.2 fun child hchild => hparts child (mem_products_iff.1 hchild)
  refine ⟨(hmatches hall).1, fun hnests hcombines => ?_⟩
  have hbars : ((products.filterMap id).map own).length = 1 ∨
      ∀ part ∈ (products.filterMap id).map own, part.hasOpenBar = false := by
    rw [List.length_map, List.forall_mem_map]
    exact hcombines.unopened
  have hresolve : ∀ child ∈ products.filterMap id,
      Emission.resolve (s₁.workspace.graph.part child) = (own child).source.toList := by
    intro child hchild
    exact Graph.resolve_part (hnests child hchild) (hown child (mem_products_iff.1 hchild)).1
  rcases (hmatches hall).2 hbars with ⟨r', hr', hsame⟩
  refine ⟨r', ?_, (Regex.eq_of_compile hr').2, hsame⟩
  rw [hrun hnests, Graph.resolve_sequence_part hresolve hcombines.unended, hcombines.flags, hr']

/-- The groups for the arguments `a|b` and `(?:c)` match like these. -/
theorem captureGroups_matches_special :
    let b : Builder := ⟨⟨0⟩, none⟩
    let s : SessionState (Chronicle Unit) := ((create none).after (Chronicle.start ())).2
    let args : List (Argument (Chronicle Unit)) :=
      [.native (.ofSource "a|b"), .native (.ofSource "(?:c)")]
    let flags := Flags.withGlobal ∅
    ∃ p r r' s₁ s', (b.captureGroups args).after s = (.ok p, s₁) ∧
      Regex.compile p.source flags = .ok r ∧ (b.compile args).after s = (.ok r', s') ∧
      r'.flags = flags ∧ ∀ text, r.matchesIn text = r'.matchesIn text := by
  intro b s args flags
  have hsound : s.workspace.IsSound := Obeys.isSound_create none ()
  have hplain : ∀ v ∈ args, v.IsPlain := by simp [args, Argument.IsPlain]
  have hadmits : b.Admits args s := .of_forall (by decide) hplain (by simp [args])
  -- What the two arguments are in the graph, and what their sources are compiled into.
  have hproducts : ∃ first last s₁,
      (b.products args).after s = (.ok [some first, some last], s₁) ∧ first ≠ last ∧
      s₁.workspace.graph.source first = .ok "a|b" ∧
      s₁.workspace.graph.source last = .ok "(?:c)" ∧
      numberedGroups s₁.workspace.graph 1 [some first, some last] =
        .ok "(?<group_1>a|b)(?:c)" ∧
      b.combinedFlags s₁.workspace.graph [first, last] = flags ∧
      ¬ s₁.workspace.graph.EndsInReference first ∧
      ∀ child ∈ [first, last], (s₁.workspace.graph.node child).links = [] :=
    ⟨_, _, _, rfl, by decide +kernel, by decide +kernel, by decide +kernel, by decide +kernel,
      by decide +kernel, not_not.2 (by decide +kernel), by decide +kernel⟩
  have hregexes : ∃ first last : Regex, (first.source = "a|b" ∧ last.source = "(?:c)") ∧
      ∀ r ∈ [first, last], r.IsNumberable flags ∧ r.hasOpenBar = false ∧
        r.IsPart (Program.grammar "(?<group_1>a|b)(?:c)" flags) flags :=
    ⟨(Regex.accepted flags ["a|b", "(?:c)"])[0], (Regex.accepted flags ["a|b", "(?:c)"])[1],
      by decide +kernel, by decide +kernel⟩
  rcases hproducts with ⟨first, last, s₁, hproducts, hne, hfirst, hlast, hnumbered, hflags, hends,
    hlinks⟩
  rcases hregexes with ⟨r₁, r₂, ⟨hr₁, hr₂⟩, hregexes⟩
  let own : FragmentId → Regex := fun child => if child = first then r₁ else r₂
  have hownfirst : own first = r₁ := if_pos rfl
  have hownlast : own last = r₂ := if_neg hne.symm
  have hown : ∀ child, some child ∈ [some first, some last] →
      s₁.workspace.graph.source child = .ok (own child).source ∧ (own child).IsNumberable flags ∧
        (own child).hasOpenBar = false ∧
        (own child).IsPart (Program.grammar "(?<group_1>a|b)(?:c)" flags) flags := by
    intro child hchild
    rcases List.mem_pair.1 hchild with h | h <;> obtain rfl := Option.some.inj h
    · rw [hownfirst, hr₁]
      exact ⟨hfirst, hregexes r₁ (by simp)⟩
    · rw [hownlast, hr₂]
      exact ⟨hlast, hregexes r₂ (by simp)⟩
  have hnests : ∀ child ∈ [first, last], s₁.workspace.graph.NestsWithin maxNesting child := by
    intro child hchild next hnext
    rw [hlinks child hchild] at hnext
    cases hnext
  have hcombines : b.CombinesAlike s₁.workspace.graph own [first, last] flags := by
    refine ⟨hflags, fun child hchild => ?_, .inr fun child hchild => (hown child ?_).2.2.1⟩
    · obtain rfl := List.mem_singleton.1 hchild
      exact hends
    · exact List.mem_map_of_mem (f := some) hchild
  rcases captureGroups_matches hsound hadmits (fun _ _ hmake => .of_calls hmake hplain) hproducts
    fun child hchild => ⟨(hown child hchild).1, (hown child hchild).2.1⟩ with
    ⟨p, r, numbered, s', hcapture, -, hcompile, hnumbered', halike, -⟩
  obtain rfl := Except.ok.inj (hnumbered.symm.trans hnumbered')
  rcases (halike fun child hchild => (hown child hchild).2.2.2).2 hnests hcombines with
    ⟨r', hcompile', hr', hmatches⟩
  exact ⟨p, r, r', s₁, s', hcapture, hcompile, hcompile', hr', hmatches⟩

/-- A forward reference to `x` in front of `x`.  Its own source ends in an end anchor, which stands in
front of the second group of the pattern but vanishes when the arguments are compiled together. -/
theorem captureGroups_anchored :
    let b : Builder := ⟨⟨0⟩, none⟩
    let args : List (Argument Unit) := [.upTo .ahead none, .native (.ofSource "x")]
    let s : SessionState Unit := ⟨Workspace.empty, ()⟩
    let flags := Flags.withGlobal ∅
    ∃ first last s₁, (b.products args).after s = (.ok [some first, some last], s₁) ∧
      (∀ child ∈ [first, last], s₁.workspace.graph.IsAcceptedAlone flags child) ∧
      ∃ p r r' s', (b.captureGroups args).after s = (.ok p, s₁) ∧
        Regex.compile p.source flags = .ok r ∧ (b.compile args).after s = (.ok r', s') ∧
        r'.flags = flags ∧ r.matchesIn "axb" = [] ∧ r'.matchesIn "axb" = [⟨0, 2, none, "ax"⟩] := by
  intro b args s flags
  have hproducts : ∃ s₁, (b.products args).after s = (.ok [some ⟨3⟩, some ⟨0⟩], s₁) ∧
      s₁.workspace.graph.source ⟨3⟩ = .ok ".*?(?=(x)$)" ∧
      s₁.workspace.graph.source ⟨0⟩ = .ok "x" ∧
      numberedGroups s₁.workspace.graph 1 [some ⟨3⟩, some ⟨0⟩] =
        .ok "(.*?(?=(x)$))(?<group_2>x)" :=
    ⟨_, rfl, by decide +kernel, by decide +kernel, by decide +kernel⟩
  have hcombined : ∃ s', (b.compile args).after s = (s'.workspace.graph.regex ⟨4⟩ none none, s') ∧
      s'.workspace.graph.source ⟨4⟩ = .ok "(.*?(?=(x)))(x)" ∧
      s'.workspace.graph.resolveFlags ⟨4⟩ none none = .ok flags :=
    ⟨_, rfl, by decide +kernel, by decide +kernel⟩
  have halone : ∀ r ∈ Regex.accepted flags [".*?(?=(x)$)", "x"],
      r.IsPart (Program.grammar r.source flags) flags := by
    decide +kernel
  have hcompile : ∃ r r', Regex.compile "(.*?(?=(x)$))(?<group_2>x)" flags = .ok r ∧
      Regex.compile "(.*?(?=(x)))(x)" flags = .ok r' ∧ r'.flags = flags ∧
      r.matchesIn "axb" = [] ∧ r'.matchesIn "axb" = [⟨0, 2, none, "ax"⟩] :=
    ⟨_, _, rfl, rfl, rfl, by decide +kernel, by decide +kernel⟩
  rcases hproducts with ⟨s₁, hproducts, hfirst, hlast, hnumbered⟩
  rcases hcombined with ⟨s', hrun, hsource, hresolve⟩
  rcases hcompile with ⟨r, r', hr, hr', hflags, hnone, hfound⟩
  rw [Graph.regex_of_source hsource hresolve, hr'] at hrun
  have hcapture := after_captureGroups hproducts hnumbered
  have hstrip : Enclosure.stripPlain "(.*?(?=(x)$))(?<group_2>x)" =
      "(.*?(?=(x)$))(?<group_2>x)" := by decide +kernel
  rw [hstrip] at hcapture
  refine ⟨⟨3⟩, ⟨0⟩, s₁, hproducts, ?_, _, r, r', s', hcapture, hr, hrun, hflags, hnone, hfound⟩
  intro child hchild
  rcases List.mem_pair.1 hchild with rfl | rfl
  · exact ⟨_, _, hfirst, rfl, halone _ List.mem_cons_self⟩
  · exact ⟨_, _, hlast, rfl, halone _ (List.mem_cons_of_mem _ List.mem_cons_self)⟩

end Builder

end RegexComposition

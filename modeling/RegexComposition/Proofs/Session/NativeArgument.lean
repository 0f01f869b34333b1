import RegexComposition.Proofs.Flags.Insertion
import RegexComposition.Proofs.Fragment.Additions
import RegexComposition.Proofs.Fragment.Concatenation
import RegexComposition.Proofs.Fragment.Leaf
import RegexComposition.Proofs.Pattern.Renumbering
import RegexComposition.Proofs.Session.Calls

/-!
# Native patterns as arguments

A single native pattern is compiled into its own source under its own flags.  Unless it starts with a
parenthesis it is put into a capturing group, so that a number in it counts one group more.  It is
accepted there, and it matches as it does alone as long as it refers to groups by their names.

Main results:

- `Regex.compile_congr`: the global flag does not matter for what is compiled.
- `Builder.after_compile_native`: what a single native pattern is compiled into.
- `Builder.native_argument_matches`: it is accepted and matches as it does alone.
- `Builder.native_argument_misreads`: with a number that counts groups it need not.
-/

namespace RegexComposition

namespace Regex

variable {source : String} {flags flags' : Flags} {r : Regex}

/-- The global flag does not matter for what a source is compiled into. -/
theorem compile_congr (hflags : ∀ f, f ≠ .global → flags'.contains f = flags.contains f)
    (h : compile source flags = .ok r) : compile source flags' = .ok { r with flags := flags' } := by
  have hread : Program.read source flags' = Program.read source flags := by
    simp [Program.read, Modes.ofFlags, hflags]
  obtain ⟨rfl, -⟩ := eq_of_compile h
  rcases of_compile h with ⟨hprogram, hnames, -⟩
  rw [compile, hread, hprogram]
  dsimp only
  rw [← hnames]

end Regex

/-! ## A single native pattern -/

namespace Builder

open Session

variable {σ : Type} {b : Builder} {p : NativePattern} {r : Regex}

/-- A single native pattern becomes a composite of a leaf. -/
theorem after_combine_native (b : Builder) (p : NativePattern) (s : SessionState σ) :
    ∃ root child s', (b.combine [.native p]).after s = (.ok root, s') ∧
      s'.workspace.graph.IsPlain root (.composite [child]) ∧
      s'.workspace.graph.IsPlain child (.native p) := by
  let leaf := s.workspace.graph.addNative p
  let root := leaf.2.addComposite [leaf.1]
  refine ⟨root.1, leaf.1, _, rfl, ?_, ?_⟩
  · exact (Graph.isPlain_addComposite _ _).of_keeps (Graph.keeps_adopt _ _ _)
  · exact (Graph.isPlain_add _ _).of_keeps
      ((Graph.keeps_addComposite _ _).trans (Graph.keeps_adopt _ _ _))

/-- A composite of an accepted leaf has the source of the leaf as its part, and the flags of the
leaf. -/
theorem regex_native {g : Graph} {root child : FragmentId} (hroot : g.IsPlain root (.composite [child]))
    (hchild : g.IsPlain child (.native p)) (hsource : r.source = p.source) :
    g.regex root none none = Regex.compile (String.ofList r.composed)
      (Flags.ofList p.flags.toList).withGlobal := by
  have hcomposed : g.IsComposedOf root [r] := by
    refine ⟨⟨[child], hroot.kind_eq, .cons ?_ .nil⟩, hroot.alternatives_eq, hroot.modifiers_eq⟩
    have hleaf : g.IsLeaf child p := ⟨hchild.kind_eq, hchild.alternatives_eq, hchild.modifiers_eq⟩
    rw [hsource]
    exact hleaf.emit_eq _
  have hflags : g.resolveFlags root none none =
      .ok (Flags.ofList p.flags.toList).withGlobal := by
    have hleaves : g.leafFlags (maxNesting + 1) root = .ok [p.flags.toList].flatten :=
      hroot.leafFlags_composite (mapM_of_forall₂ (.cons (hchild.leafFlags_native _) .nil))
    rw [Graph.resolveFlags, hroot.flags_eq]
    dsimp only [Option.or]
    rw [hleaves, List.flatten_singleton]
    rfl
  rw [Graph.regex_of_source hcomposed.source_eq hflags, List.flatMap_singleton]

/-- A single native pattern is compiled as it stands, or in parentheses. -/
theorem after_compile_native (hb : b.flags = none) (hsource : r.source = p.source)
    (s : SessionState σ) : ∃ s', (b.compile [.native p]).after s =
      (Regex.compile (String.ofList r.composed) (Flags.ofList p.flags.toList).withGlobal, s') := by
  rcases after_combine_native b p s with ⟨root, child, s', hcombine, hroot, hchild⟩
  refine ⟨s', ?_⟩
  simp only [compile, after_bind, hcombine, after_graph, after_ofExcept, hb,
    regex_native hroot hchild hsource]

/-- Take any native pattern that is accepted under its own flags, and a builder without flags.  As the
only argument the pattern is accepted too.  It has the same matches as it has alone if it starts with
a parenthesis or if, read with one capturing group around it, it refers to groups by their names
only. -/
theorem native_argument_matches (hb : b.flags = none)
    (h : Regex.compile p.source p.flags = .ok r) (s : SessionState σ) :
    ∃ r' s', (b.compile [.native p]).after s = (.ok r', s') ∧
      (p.source.toList.head? = some '(' ∨
          (Program.grammar ("(" ++ p.source ++ ")") p.flags).RefersByNames p.source.toList →
        ∀ text, r'.matchesIn text = r.matchesIn text) := by
  obtain ⟨hsource, hown⟩ := Regex.eq_of_compile h
  have hflags : ∀ f, f ≠ .global →
      ((Flags.ofList p.flags.toList).withGlobal).contains f = p.flags.contains f := by
    intro f hf
    rw [Flags.ofList_toList, Flags.contains_withGlobal hf]
  -- Whatever the source is compiled into, the flags of the leaf change nothing.
  have reaches : ∀ {r₀ : Regex}, Regex.compile (String.ofList r.composed) p.flags = .ok r₀ →
      ∃ r' s', (b.compile [.native p]).after s = (.ok r', s') ∧
        r'.program = r₀.program ∧ r'.isSticky = r.isSticky := by
    intro r₀ hcompile
    rcases after_compile_native hb hsource s with ⟨s', hafter⟩
    rw [Regex.compile_congr hflags hcompile] at hafter
    refine ⟨_, s', hafter, rfl, ?_⟩
    rw [Regex.isSticky, Regex.isSticky, hown]
    exact hflags .sticky (by decide)
  by_cases hhead : p.source.toList.head? = some '('
  · have hcompile : Regex.compile (String.ofList r.composed) p.flags = .ok r := by
      rw [Regex.composed, hsource, if_pos hhead, String.ofList_toList]
      exact h
    rcases reaches hcompile with ⟨r', s', hafter, hprogram, hsticky⟩
    refine ⟨r', s', hafter, fun _ => Regex.matchesIn_eq_of_endsAlike ?_ hsticky⟩
    rw [hprogram]
    exact fun _ _ => rfl
  · have hcomposed : r.composed = '(' :: (p.source.toList ++ [')']) := by
      rw [Regex.composed, hsource, if_neg hhead, Regex.grouped, hsource]
      rfl
    have hcaptured : "(" ++ p.source ++ ")" = String.ofList ('(' :: (p.source.toList ++ [')'])) :=
      String.toList_injective (by simp)
    rw [hcomposed] at reaches
    rw [or_iff_right hhead, hcaptured]
    by_cases hnames : (Program.grammar (String.ofList ('(' :: (p.source.toList ++ [')'])))
        p.flags).RefersByNames p.source.toList
    · rcases Regex.exists_compile_captured h hnames with ⟨r₀, hcompile, hends⟩
      rcases reaches hcompile with ⟨r', s', hafter, hprogram, hsticky⟩
      refine ⟨r', s', hafter, fun _ => Regex.matchesIn_eq_of_endsAlike ?_ hsticky⟩
      rw [hprogram]
      exact fun t i => (hends t i).symm
    · rcases Regex.exists_compile_enclosed h OpensWith.capturing with ⟨r₀, hcompile⟩
      rcases reaches hcompile with ⟨r', s', hafter, -⟩
      exact ⟨r', s', hafter, fun hnames' => absurd hnames' hnames⟩

/-- The group `n` is the second one in the argument, and is found by its name there. -/
theorem native_argument_matches_byName : ∃ r r' s',
    Regex.compile "x(?<n>a)\\k<n>" (Flags.ofList [.sticky]) = .ok r ∧
    ((⟨⟨0⟩, none⟩ : Builder).compile [.native ⟨"x(?<n>a)\\k<n>", Flags.ofList [.sticky]⟩]).after
      (⟨Workspace.empty, ()⟩ : SessionState Unit) = (.ok r', s') ∧
    ∀ text, r'.matchesIn text = r.matchesIn text := by
  have hcompile : ∃ r, Regex.compile "x(?<n>a)\\k<n>" (Flags.ofList [.sticky]) = .ok r := ⟨_, rfl⟩
  rcases hcompile with ⟨r, hcompile⟩
  rcases native_argument_matches (p := ⟨"x(?<n>a)\\k<n>", Flags.ofList [.sticky]⟩)
    (b := ⟨⟨0⟩, none⟩) rfl hcompile (⟨Workspace.empty, ()⟩ : SessionState Unit) with
    ⟨r', s', hafter, hmatches⟩
  exact ⟨r, r', s', hcompile, hafter, hmatches (.inr (by decide))⟩

/-- In parentheses the number in `a(b)\1` counts these, and no longer refers to `(b)`. -/
theorem native_argument_misreads : ∃ r r' s',
    Regex.compile "a(b)\\1" ∅ = .ok r ∧
    ((⟨⟨0⟩, none⟩ : Builder).compile [.native (.ofSource "a(b)\\1")]).after
      (⟨Workspace.empty, ()⟩ : SessionState Unit) = (.ok r', s') ∧
    r.matchesIn "abb" = [⟨0, 3, none, "abb"⟩] ∧ r'.matchesIn "abb" = [⟨0, 2, none, "ab"⟩] :=
  ⟨_, _, _, rfl, rfl, by decide, by decide +kernel⟩

end Builder

end RegexComposition

import Mathlib.Algebra.Order.BigOperators.Group.List
import RegexComposition.Proofs.Fragment.Emission
import RegexComposition.Proofs.Fragment.Nesting
import RegexComposition.Proofs.Pattern.Stripping
import RegexComposition.Proofs.Regex.Ranges

/-!
# Composites as concatenations

A composite puts the sources of its children one behind the other, each in parentheses unless it
starts with one.  It matches like the children in non-capturing groups, if no child starts with a
parenthesis and has a bar outside of all groups, and if no number in a child becomes a reference.

Main results:

- `ReadsIn.flatMap`, `Fits.flatMap`: many texts one behind the other.
- `Graph.IsComposedOf`: a composite whose children have given sources.
- `Graph.matchesIn_composite`: it has the matches of the concatenation.
- `Graph.matchesIn_composite_ne`: without the two conditions it need not have them.
-/

namespace RegexComposition

/-! ## Many texts -/

section Many

variable {ι : Type} {items : List ι} {count : ι → Nat} {pattern : ι → Pattern}
variable {text : ι → List Char} {modes : Modes} {g : Grammar}

/-- Texts that all stop every reader do so one behind the other. -/
theorem Stops.flatMap (h : ∀ i ∈ items, Stops (text i)) : Stops (items.flatMap text) := by
  induction items with
  | nil => exact Stops.nil
  | cons i items ih =>
      rw [List.flatMap_cons]
      exact (h i List.mem_cons_self).append (ih fun j hj => h j (List.mem_cons_of_mem i hj))

/-- Texts that fit everywhere do so one behind the other. -/
theorem Fits.flatMap (h : ∀ i ∈ items, Fits modes (count i) (fun _ _ => True) (text i))
    (hstops : ∀ i ∈ items, Stops (text i)) :
    Fits modes (items.map count).sum (fun _ _ => True) (items.flatMap text) := by
  induction items with
  | nil => exact Fits.nil fun _ => trivial
  | cons i items ih =>
      have hrest : ∀ j ∈ items, Stops (text j) := fun j hj => hstops j (List.mem_cons_of_mem i hj)
      rw [List.map_cons, List.sum_cons, List.flatMap_cons]
      exact (h i List.mem_cons_self).append
        (ih (fun j hj => h j (List.mem_cons_of_mem i hj)) hrest) (Stops.flatMap hrest)
        fun _ _ _ _ _ => trivial

/-- Texts that add terms which match like given patterns add a sequence of these. -/
theorem ReadsIn.flatMap (h : ∀ i ∈ items, ReadsIn g modes (count i)
      (Frame.Gains fun ps => (Pattern.sequence ps).Alike (pattern i)) (text i))
    (hstops : ∀ i ∈ items, Stops (text i)) :
    ReadsIn g modes (items.map count).sum
      (Frame.Gains fun ps => (Pattern.sequence ps).Alike (Pattern.sequence (items.map pattern)))
      (items.flatMap text) := by
  induction items with
  | nil => exact ReadsIn.nil fun f => Frame.Gains.refl Pattern.alike_empty f
  | cons i items ih =>
      have hrest : ∀ j ∈ items, Stops (text j) := fun j hj => hstops j (List.mem_cons_of_mem i hj)
      rw [List.map_cons, List.sum_cons, List.flatMap_cons]
      exact (h i List.mem_cons_self).append
        (ih (fun j hj => h j (List.mem_cons_of_mem i hj)) hrest) (Stops.flatMap hrest)
        fun _ _ _ hgains hgains' => hgains.trans hgains' fun _ _ => Pattern.Alike.sequence_append

/-- Such texts are the source of a regular expression for the sequence. -/
theorem ReadsIn.compile_flatMap {flags : Flags}
    (h : ∀ i ∈ items, ReadsIn (Program.grammar (String.ofList (items.flatMap text)) flags)
      (Modes.ofFlags flags) (count i)
      (Frame.Gains fun ps => (Pattern.sequence ps).Alike (pattern i)) (text i))
    (hfits : ∀ i ∈ items, Fits (Modes.ofFlags flags) (count i) (fun _ _ => True) (text i))
    (hstops : ∀ i ∈ items, Stops (text i)) :
    ∃ r, Regex.compile (String.ofList (items.flatMap text)) flags = .ok r ∧
      r.program.pattern.Alike (Pattern.sequence (items.map pattern)) := by
  rcases (ReadsIn.flatMap h hstops).compile (Fits.flatMap hfits hstops).declared_eq with
    ⟨r, frame, hcompile, -, hpattern, hgains⟩
  rcases hgains.body with ⟨ps, halike, hbody⟩
  rw [← hbody, ← hpattern] at halike
  exact ⟨r, hcompile, halike⟩

end Many

/-! ## Parts of a composite -/

namespace Regex

/-- The source in a group that starts with the given mark. -/
def grouped (mark : List Char) (r : Regex) : List Char :=
  '(' :: (mark ++ (r.source.toList ++ [')']))

/-- The source as a part of a composite: in parentheses unless it starts with one. -/
def composed (r : Regex) : List Char :=
  if r.source.toList.head? = some '(' then r.source.toList else r.grouped []

/-- The number of groups of a part of a composite. -/
def composedGroups (r : Regex) : Nat :=
  if r.source.toList.head? = some '(' then r.program.groups.length
  else 1 + r.program.groups.length

/-- The sources one behind the other, each in a group that captures nothing. -/
def concatenation (parts : List Regex) : String :=
  String.join (parts.map fun r => "(?:" ++ r.source ++ ")")

/-- The regular expressions of those sources that are accepted. -/
def accepted (flags : Flags) (sources : List String) : List Regex :=
  sources.filterMap fun source => (compile source flags).toOption

/-- Whether the source starts with a parenthesis and has a bar outside of all groups. -/
def hasOpenBar (r : Regex) : Bool :=
  r.source.toList.head? == some '(' && r.program.pattern.isEither

theorem concatenation_eq (parts : List Regex) :
    concatenation parts = String.ofList (parts.flatMap (grouped ['?', ':'])) := by
  have hgrouped : ∀ r : Regex, ("(?:" ++ r.source ++ ")").toList = r.grouped ['?', ':'] := by
    intro r
    simp [grouped]
  apply String.toList_injective
  rw [concatenation, String.toList_join, List.flatMap_map, String.toList_ofList]
  exact congrArg (parts.flatMap ·) (funext hgrouped)

theorem length_groups_le_composedGroups (r : Regex) :
    r.program.groups.length ≤ r.composedGroups := by
  unfold composedGroups
  split <;> omega

theorem stops_grouped (mark : List Char) (r : Regex) : Stops (r.grouped mark) := by
  simp [grouped, Stops]

theorem stops_composed (r : Regex) : Stops r.composed := by
  unfold composed
  split
  · next hhead =>
      rcases List.head?_eq_some_iff.1 hhead with ⟨rest, hrest⟩
      rw [hrest]
      simp [Stops]
  · exact r.stops_grouped []

namespace IsPart

variable {g g' : Grammar} {flags : Flags} {r : Regex}

/-- The source in a group fits everywhere. -/
theorem fits_grouped {kind : GroupKind} {mark : List Char} {k : Nat} (h : r.IsPart g flags)
    (ho : OpensWith kind mark k) : Fits (Modes.ofFlags flags) (k + r.program.groups.length)
      (fun _ _ => True) (r.grouped mark) :=
  (h.fits.enclosed ho).mono fun _ _ _ => trivial

/-- A part of a composite fits everywhere. -/
theorem fits_composed (h : r.IsPart g flags) :
    Fits (Modes.ofFlags flags) r.composedGroups (fun _ _ => True) r.composed := by
  unfold composed composedGroups
  split
  · exact h.fits
  · exact h.fits_grouped OpensWith.capturing

end IsPart

namespace Blends

variable {g g' : Grammar} {flags : Flags} {r : Regex}

theorem isPart (h : r.Blends g flags) : r.IsPart g flags := by
  refine ⟨h.accepted, h.unnamed, fun token htoken => ?_⟩
  have hplain := h.plain token htoken
  cases token with
  | backreference => cases hplain
  | _ => rfl

/-- A part of a composite adds terms that match like its pattern. -/
theorem gains_composed (h : r.Blends g flags) (hg : g.CarriesTo g')
    (hcount : g'.groups.length ≤ g.groups.length) (hbar : r.hasOpenBar = false) :
    ReadsIn g' (Modes.ofFlags flags) r.composedGroups
      (Frame.Gains fun ps => (Pattern.sequence ps).Alike r.program.pattern) r.composed := by
  unfold composed composedGroups
  split
  · next hhead =>
      rw [hasOpenBar, hhead] at hbar
      exact h.gains hg hcount hbar
  · exact h.gains_enclosed hg hcount OpensWith.capturing fun i p hp => hp.group_left i

end Blends

section Sources

variable {parts : List Regex} {flags : Flags}

/-- The grammar of a composite. -/
theorem grammar_composed {g : Grammar} (hparts : ∀ r ∈ parts, r.IsPart g flags) :
    Program.grammar (String.ofList (parts.flatMap composed)) flags =
      ⟨flags.contains .unicode, List.replicate (parts.map composedGroups).sum none⟩ := by
  have hfits := Fits.flatMap (fun r hr => (hparts r hr).fits_composed)
    fun r _ => r.stops_composed
  exact Program.grammar_of_declared hfits.declared_eq

/-- The grammar of a concatenation. -/
theorem grammar_grouped {g : Grammar} (hparts : ∀ r ∈ parts, r.IsPart g flags) :
    Program.grammar (String.ofList (parts.flatMap (grouped ['?', ':']))) flags =
      ⟨flags.contains .unicode,
        List.replicate (parts.map fun r => 0 + r.program.groups.length).sum none⟩ := by
  have hfits := Fits.flatMap (fun r hr => (hparts r hr).fits_grouped OpensWith.plain)
    fun r _ => r.stops_grouped ['?', ':']
  exact Program.grammar_of_declared hfits.declared_eq

/-- The grammar reads sources without references as grammars without names do. -/
theorem Blends.carriesTo {g : Grammar} {r : Regex} (h : r.Blends g flags) (n : Nat) :
    g.CarriesTo ⟨flags.contains .unicode, List.replicate n none⟩ :=
  ⟨h.unicode.symm, fun hnamed => by simp [Grammar.hasGroupNames] at hnamed⟩

/-- A composite without open bars is compiled into a sequence of its parts, if these do not refer to
groups in a grammar with no fewer groups. -/
theorem exists_compile_composed_of_blends {g : Grammar} (hparts : ∀ r ∈ parts, r.Blends g flags)
    (hcount : (parts.map composedGroups).sum ≤ g.groups.length)
    (hbars : ∀ r ∈ parts, r.hasOpenBar = false) :
    ∃ r, compile (String.ofList (parts.flatMap composed)) flags = .ok r ∧
      r.program.pattern.Alike (Pattern.sequence (parts.map fun r => r.program.pattern)) := by
  have hall : ∀ r ∈ parts, r.IsPart g flags := fun r hr => (hparts r hr).isPart
  refine ReadsIn.compile_flatMap (fun r hr => ?_) (fun r hr => (hall r hr).fits_composed)
    fun r _ => r.stops_composed
  have hpart := hparts r hr
  rw [grammar_composed hall]
  exact hpart.gains_composed (hpart.carriesTo _) (by rwa [List.length_replicate]) (hbars r hr)

/-- A single part with an open bar is the whole source. -/
theorem exists_compile_composite {g : Grammar} (hparts : ∀ r ∈ parts, r.Blends g flags)
    (hcount : (parts.map composedGroups).sum ≤ g.groups.length)
    (hbars : parts.length = 1 ∨ ∀ r ∈ parts, r.hasOpenBar = false) :
    ∃ r, compile (String.ofList (parts.flatMap composed)) flags = .ok r ∧
      r.program.pattern.Alike (Pattern.sequence (parts.map fun r => r.program.pattern)) := by
  by_cases hopen : ∀ r ∈ parts, r.hasOpenBar = false
  · exact exists_compile_composed_of_blends hparts hcount hopen
  · rcases List.length_eq_one_iff.1 (hbars.resolve_right hopen) with ⟨r, rfl⟩
    have hpart := hparts r (List.mem_singleton.2 rfl)
    have hhead : r.source.toList.head? = some '(' := by
      simp only [List.mem_singleton, forall_eq, Bool.not_eq_false] at hopen
      exact beq_iff_eq.1 (Bool.and_eq_true_iff.1 hopen).1
    refine ⟨r, ?_, (Pattern.Alike.singleton_iff.2 hpart.alike_self).symm⟩
    rw [List.flatMap_singleton, composed, if_pos hhead, String.ofList_toList]
    exact hpart.accepted

/-- The concatenation of the parts is compiled into a sequence of them, too. -/
theorem exists_compile_concatenation_of_blends {g : Grammar}
    (hparts : ∀ r ∈ parts, r.Blends g flags)
    (hcount : (parts.map composedGroups).sum ≤ g.groups.length) :
    ∃ r, compile (concatenation parts) flags = .ok r ∧
      r.program.pattern.Alike (Pattern.sequence (parts.map fun r => r.program.pattern)) := by
  have hall : ∀ r ∈ parts, r.IsPart g flags := fun r hr => (hparts r hr).isPart
  rw [concatenation_eq]
  refine ReadsIn.compile_flatMap (fun r hr => ?_)
    (fun r hr => (hall r hr).fits_grouped OpensWith.plain) fun r _ => r.stops_grouped _
  have hpart := hparts r hr
  rw [grammar_grouped hall]
  refine hpart.gains_enclosed (hpart.carriesTo _) ?_ OpensWith.plain fun _ _ hp => hp
  -- A group around a source is counted in the composite only.
  rw [List.length_replicate]
  refine (List.sum_le_sum fun r _ => ?_).trans hcount
  rw [Nat.zero_add]
  exact r.length_groups_le_composedGroups

/-- The parts of a composite do not refer to its groups. -/
theorem blends_composed (hparts : ∀ r ∈ parts,
      r.IsPart (Program.grammar (String.ofList (parts.flatMap composed)) flags) flags) :
    (∀ r ∈ parts, r.Blends (Program.grammar (String.ofList (parts.flatMap composed)) flags) flags) ∧
      (parts.map composedGroups).sum ≤
        (Program.grammar (String.ofList (parts.flatMap composed)) flags).groups.length := by
  rw [grammar_composed hparts] at hparts ⊢
  rw [List.length_replicate]
  refine ⟨fun r hr => (hparts r hr).blends rfl (by simp [Grammar.hasGroupNames]) ?_, Nat.le_refl _⟩
  rw [List.length_replicate]
  exact r.length_groups_le_composedGroups.trans (List.le_sum_of_mem (List.mem_map_of_mem hr))

/-- A composite without open bars is compiled into a sequence of its parts. -/
theorem exists_compile_composed (hparts : ∀ r ∈ parts,
      r.IsPart (Program.grammar (String.ofList (parts.flatMap composed)) flags) flags)
    (hbars : ∀ r ∈ parts, r.hasOpenBar = false) :
    ∃ r, compile (String.ofList (parts.flatMap composed)) flags = .ok r ∧
      r.program.pattern.Alike (Pattern.sequence (parts.map fun r => r.program.pattern)) :=
  exists_compile_composed_of_blends (blends_composed hparts).1 (blends_composed hparts).2 hbars

/-- The concatenation of the parts of a composite is compiled into a sequence of them. -/
theorem exists_compile_concatenation (hparts : ∀ r ∈ parts,
      r.IsPart (Program.grammar (String.ofList (parts.flatMap composed)) flags) flags) :
    ∃ r, compile (concatenation parts) flags = .ok r ∧
      r.program.pattern.Alike (Pattern.sequence (parts.map fun r => r.program.pattern)) :=
  exists_compile_concatenation_of_blends (blends_composed hparts).1 (blends_composed hparts).2

end Sources

end Regex

/-! ## Composites -/

namespace Graph

variable {g : Graph} {root : FragmentId} {parts : List Regex} {flags : Flags} {source : String}

/-- The node is a composite without alternatives and modifiers, whose children are compiled into the
sources of the parts and leave no mark for the end of the expression. -/
structure IsComposedOf (g : Graph) (root : FragmentId) (parts : List Regex) : Prop where
  kind : ∃ children, (g.node root).kind = .composite children ∧
    List.Forall₂ (fun child part => g.emit maxNesting child = .ok (Emission.ofString part.source))
      children parts
  alternatives : (g.node root).alternatives = []
  modifiers : (g.node root).modifiers = Modifiers.none

/-- What is put together from the parts is the text of the composite. -/
theorem sequence_ofString (parts : List Regex) :
    Emission.sequence (parts.map fun r => Emission.ofString r.source) =
      Emission.ofChars (parts.flatMap Regex.composed) := by
  have henclose : ∀ r : Regex,
      Emission.enclose (Emission.ofString r.source) = Emission.ofChars r.composed := by
    intro r
    rw [Emission.enclose, Emission.ofString, Emission.chars_ofChars, Regex.composed]
    split
    · rfl
    · simp [Emission.wrap, Emission.ofString, Emission.ofChars, Regex.grouped]
  rw [Emission.sequence, List.flatMap_map, Emission.ofChars, List.map_flatMap]
  exact congrArg (parts.flatMap ·) (funext henclose)

/-- The source of a composite. -/
theorem IsComposedOf.source_eq (h : g.IsComposedOf root parts) :
    g.source root = .ok (String.ofList (parts.flatMap Regex.composed)) := by
  rcases h.kind with ⟨children, hkind, hemits⟩
  have hchildren : children.mapM (g.emit maxNesting) =
      .ok (parts.map fun r => Emission.ofString r.source) :=
    mapM_of_forall₂ (List.forall₂_map_right_iff.2 hemits)
  have hemit : g.emit (maxNesting + 1) root =
      .ok (Emission.ofChars (parts.flatMap Regex.composed)) := by
    rw [emit]
    simp only [hkind, h.alternatives, h.modifiers, hchildren, Modifiers.apply_none, List.mapM_nil]
    rw [← sequence_ofString]
    rfl
  have hresolve : Emission.resolve (Emission.ofChars (parts.flatMap Regex.composed)) =
      parts.flatMap Regex.composed :=
    (Emission.resolves_resolve _).eq_of_ofChars
  rw [source, hemit]
  exact congrArg (fun text => Except.ok (String.ofList text)) hresolve

/-- A composite whose children are accepted on their own, without named groups and without numbers
that refer to groups of the composite, is compiled.  It has the same matches as the concatenation of
its children, if it has one child only or none with an open bar. -/
theorem matchesIn_composite (h : g.IsComposedOf root parts) {given default : Option Flags}
    (hsource : g.source root = .ok source) (hflags : g.resolveFlags root given default = .ok flags)
    (hparts : ∀ r ∈ parts, r.IsPart (Program.grammar source flags) flags)
    (hbars : parts.length = 1 ∨ ∀ r ∈ parts, r.hasOpenBar = false) :
    ∃ r r', g.regex root given default = .ok r ∧
      Regex.compile (Regex.concatenation parts) flags = .ok r' ∧
      ∀ text, r.matchesIn text = r'.matchesIn text := by
  obtain rfl : String.ofList (parts.flatMap Regex.composed) = source :=
    Except.ok.inj (h.source_eq.symm.trans hsource)
  rcases Regex.exists_compile_concatenation hparts with ⟨r', hcompile', halike'⟩
  have hcomposite : ∃ r,
      Regex.compile (String.ofList (parts.flatMap Regex.composed)) flags = .ok r ∧
        r.program.pattern.Alike r'.program.pattern := by
    by_cases hopen : ∀ r ∈ parts, r.hasOpenBar = false
    · rcases Regex.exists_compile_composed hparts hopen with ⟨r, hcompile, halike⟩
      exact ⟨r, hcompile, halike.trans halike'.symm⟩
    · -- A single child with an open bar is the whole source.
      rcases List.length_eq_one_iff.1 (hbars.resolve_right hopen) with ⟨r, rfl⟩
      have hhead : r.source.toList.head? = some '(' := by
        simp only [List.mem_singleton, forall_eq, Bool.not_eq_false] at hopen
        exact beq_iff_eq.1 (Bool.and_eq_true_iff.1 hopen).1
      refine ⟨r, ?_, Pattern.Alike.singleton_iff.1 halike'.symm⟩
      have hsame : String.ofList ([r].flatMap Regex.composed) = r.source := by
        rw [List.flatMap_singleton, Regex.composed, if_pos hhead, String.ofList_toList]
      rw [hsame]
      exact (hparts r (List.mem_singleton.2 rfl)).accepted
  rcases hcomposite with ⟨r, hcompile, halike⟩
  refine ⟨r, r', ?_, hcompile', Regex.matchesIn_eq_of_alike halike ?_⟩
  · rw [regex_of_source hsource hflags]
    exact hcompile
  · rw [(Regex.of_compile hcompile).2.2, (Regex.of_compile hcompile').2.2]

/-- Children of several kinds: one with a bar, one that starts with a parenthesis, and one with a
number that refers to no group. -/
def glued : Graph := ⟨#[
  { kind := .native (.ofSource "a|b") },
  { kind := .native (.ofSource "(c)+d") },
  { kind := .native (.ofSource "\\7") },
  { kind := .composite [⟨0⟩, ⟨1⟩, ⟨2⟩] }]⟩

theorem matchesIn_composite_glued :
    (∀ r ∈ Regex.accepted (Flags.withGlobal ∅) ["a|b", "(c)+d", "\\7"], r.hasOpenBar = false ∧
      r.IsPart (Program.grammar "(a|b)(c)+d(\\7)" (Flags.withGlobal ∅)) (Flags.withGlobal ∅)) ∧
    ∃ r r', glued.regex ⟨3⟩ none none = .ok r ∧
      Regex.compile "(?:a|b)(?:(c)+d)(?:\\7)" (Flags.withGlobal ∅) = .ok r' ∧
      ∀ text, r.matchesIn text = r'.matchesIn text := by
  have hparts : ∀ r ∈ Regex.accepted (Flags.withGlobal ∅) ["a|b", "(c)+d", "\\7"],
      r.hasOpenBar = false ∧
        r.IsPart (Program.grammar "(a|b)(c)+d(\\7)" (Flags.withGlobal ∅)) (Flags.withGlobal ∅) := by
    decide +kernel
  have hcomposed : glued.IsComposedOf ⟨3⟩
      (Regex.accepted (Flags.withGlobal ∅) ["a|b", "(c)+d", "\\7"]) :=
    ⟨⟨_, rfl, .cons rfl (.cons rfl (.cons rfl .nil))⟩, rfl, rfl⟩
  exact ⟨hparts, matchesIn_composite hcomposed hcomposed.source_eq rfl
    (fun r hr => (hparts r hr).2) (.inr fun r hr => (hparts r hr).1)⟩

/-- A child with an open bar in front of another one, and a child with a number that refers to a
group of the composite only. -/
def misread : Graph := ⟨#[
  { kind := .native (.ofSource "(a)|b") },
  { kind := .native (.ofSource "c") },
  { kind := .composite [⟨0⟩, ⟨1⟩] },
  { kind := .native (.ofSource "\\1") },
  { kind := .composite [⟨3⟩] }]⟩

/-- Each part is accepted on its own, without named groups and references, and yet the composite
has other matches in the text than the concatenation. -/
def Deviates (g : Graph) (root : FragmentId) (text : String) : Prop :=
  ∃ parts flags r r', g.IsComposedOf root parts ∧ g.resolveFlags root none none = .ok flags ∧
    (∀ part ∈ parts, part.IsPart (Program.grammar part.source flags) flags) ∧
    g.regex root none none = .ok r ∧
    Regex.compile (Regex.concatenation parts) flags = .ok r' ∧
    r.matchesIn text ≠ r'.matchesIn text

theorem matchesIn_composite_ne : misread.Deviates ⟨2⟩ "ac" ∧ misread.Deviates ⟨4⟩ "\x01" := by
  have hbar : misread.IsComposedOf ⟨2⟩ (Regex.accepted (Flags.withGlobal ∅) ["(a)|b", "c"]) :=
    ⟨⟨_, rfl, .cons rfl (.cons rfl .nil)⟩, rfl, rfl⟩
  have hnumber : misread.IsComposedOf ⟨4⟩ (Regex.accepted (Flags.withGlobal ∅) ["\\1"]) :=
    ⟨⟨_, rfl, .cons rfl .nil⟩, rfl, rfl⟩
  exact ⟨⟨_, _, _, _, hbar, rfl, by decide +kernel, rfl, rfl, by decide +kernel⟩,
    ⟨_, _, _, _, hnumber, rfl, by decide +kernel, rfl, rfl, by decide +kernel⟩⟩

end Graph

end RegexComposition

import RegexComposition.Combination
import RegexComposition.Proofs.Fragment.Emission
import RegexComposition.Proofs.Pattern.Pairing

/-!
# The text of a forward reference

A forward reference repeats everything behind it inside of a lookahead.  Where the text without the
reference can be read, so can the text with it, because every part of it is read where the same part
is read without the reference.  What changes is the list of groups: the groups behind the reference
are there twice.

Main results:

- `GroupName.Repeats`: the groups of a text with and without a forward reference.
- `Builder.assembled`: what resolved arguments are compiled into.
- `Builder.readsEach_of_reads`: in an accepted source the arguments are read one by one.
- `Builder.ReadsEach.forward`: so they are with a forward reference among them.
- `Builder.exists_compile_forward`, `Builder.compile_forward_eq_error`: whether this is accepted is
  up to the names behind the reference.
-/

namespace RegexComposition

open Assembly Enclosure

/-! ## Groups that are there twice -/

/-- The second list has the groups of the first one, those of `later` once more somewhere, and
perhaps further groups without a name; a forward reference in front repeats both lists. -/
inductive GroupName.Repeats (later : List (Option String)) :
    List (Option String) → List (Option String) → Prop
  | here (k : Nat) : Repeats later later (List.replicate k none ++ (later ++ later))
  | behind (first : List (Option String)) {groups groups' : List (Option String)} :
      Repeats later groups groups' → Repeats later (first ++ groups) (first ++ groups')
  | twice (k : Nat) {groups groups' : List (Option String)} : Repeats later groups groups' →
      Repeats later (List.replicate k none ++ (groups ++ groups))
        (List.replicate k none ++ (groups' ++ groups'))

namespace GroupName.Repeats

variable {later groups groups' : List (Option String)}

/-- The groups do not become fewer. -/
theorem length_le (h : Repeats later groups groups') : groups.length ≤ groups'.length := by
  induction h with
  | here k => simp only [List.length_append]; omega
  | behind first _ ih => simpa using ih
  | twice k _ ih => simp only [List.length_append]; omega

/-- If no later group has a name, the names are the same. -/
theorem names_eq (h : Repeats later groups groups') (hlater : later.filterMap id = []) :
    groups'.filterMap id = groups.filterMap id := by
  induction h with
  | here k =>
      have hunnamed : (List.replicate k (none : Option String)).filterMap id = [] :=
        List.filterMap_eq_nil_iff.2 fun _ hname => List.eq_of_mem_replicate hname
      rw [List.filterMap_append, List.filterMap_append, hunnamed, hlater]
      rfl
  | behind first _ ih => simp only [List.filterMap_append, ih]
  | twice k _ ih => simp only [List.filterMap_append, ih]

/-- If a later group has a name, this name is there twice. -/
theorem not_nodup (h : Repeats later groups groups') (hlater : later.filterMap id ≠ []) :
    ¬ (groups'.filterMap id).Nodup := by
  induction h with
  | here k =>
      rcases List.exists_mem_of_ne_nil _ hlater with ⟨name, hname⟩
      intro hnodup
      rw [List.filterMap_append, List.filterMap_append] at hnodup
      exact (List.nodup_append.1 (List.nodup_append.1 hnodup).2.1).2.2 name hname name hname rfl
  | behind first _ ih =>
      intro hnodup
      rw [List.filterMap_append] at hnodup
      exact ih (List.nodup_append.1 hnodup).2.1
  | twice k _ ih =>
      intro hnodup
      rw [List.filterMap_append, List.filterMap_append] at hnodup
      exact ih (List.nodup_append.1 (List.nodup_append.1 hnodup).2.1).1

end GroupName.Repeats

namespace Grammar

variable {g g' : Grammar}

/-- A name is found exactly if a group has it. -/
theorem exists_groupIndex?_iff {name : String} :
    (∃ i, g.groupIndex? name = some i) ↔ some name ∈ g.groups := by
  rw [← Option.isSome_iff_exists, groupIndex?, Option.isSome_map, List.findIdx?_isSome,
    List.any_eq_true]
  constructor
  · rintro ⟨group, hgroup, heq⟩
    rwa [← beq_iff_eq.1 heq]
  · exact fun hgroup => ⟨some name, hgroup, beq_self_eq_true _⟩

/-- A grammar with the same names and no fewer groups supports another one. -/
theorem supports_of_names (hunicode : g'.unicode = g.unicode)
    (hnames : g'.groups.filterMap id = g.groups.filterMap id)
    (hlength : g.groups.length ≤ g'.groups.length) : g.Supports g' := by
  have hmem : ∀ name, some name ∈ g'.groups ↔ some name ∈ g.groups := by
    intro name
    simpa [List.mem_filterMap] using congrArg (name ∈ ·) hnames
  refine ⟨⟨hunicode, fun hnamed => ?_⟩, fun name i hi => ?_, fun _ => hlength⟩
  · rw [hasGroupNames, List.any_eq_true] at hnamed ⊢
    rcases hnamed with ⟨group, hgroup, hsome⟩
    rcases Option.isSome_iff_exists.1 hsome with ⟨name, rfl⟩
    exact ⟨some name, (hmem name).1 hgroup, rfl⟩
  · exact exists_groupIndex?_iff.2 ((hmem name).2 (exists_groupIndex?_iff.1 ⟨i, hi⟩))

end Grammar

/-! ## Emissions that can be read -/

namespace Emission

variable {e : Emission} {g : Grammar} {modes : Modes} {a b : Assembly}

/-- The source of an emission that starts with a parenthesis starts with it, too. -/
theorem exists_resolve (h : e.chars.head? = some '(') : ∃ rest, resolve e = '(' :: rest := by
  rcases resolve_cases e with heq | ⟨front, k, he, heq⟩
  · rw [heq]
    exact List.head?_eq_some_iff.1 h
  · rw [he, chars_of_anchored] at h
    rw [heq]
    cases hfront : front.chars with
    | nil =>
        rw [hfront, List.nil_append] at h
        have hclosing := List.eq_of_mem_replicate (List.mem_of_mem_head? h)
        exact absurd hclosing (by decide)
    | cons c front =>
        rw [hfront] at h
        obtain rfl := Option.some.inj h
        exact ⟨_, rfl⟩

/-- Marks in front of a parenthesis vanish. -/
theorem resolve_append_of_head? (first : Emission) (h : e.chars.head? = some '(') :
    resolve (first ++ e) = first.chars ++ resolve e :=
  resolve_append (List.mem_of_mem_head? h) (by decide)

/-- The emission can be read with and without its end anchor, and has the same groups. -/
structure IsReadable (g : Grammar) (modes : Modes) (e : Emission) : Prop where
  chars : ∃ n, ReadsIn g modes n (fun _ _ => True) e.chars
  resolved : ∃ n, ReadsIn g modes n (fun _ _ => True) (resolve e)
  declared : GroupName.declared (resolve e) = GroupName.declared e.chars

namespace IsReadable

/-- An emission that starts with a parenthesis is readable if its source can be read. -/
theorem of_reads (h : Reads g a (resolve e) b []) (ha : a.enclosing = []) (hb : b.enclosing = [])
    (hhead : e.chars.head? = some '(') (hpairs : Pairs e.chars) :
    e.IsReadable g a.current.modes := by
  have hresolved : ∃ n, ReadsIn g a.current.modes n (fun _ _ => True) (resolve e) := by
    rcases exists_resolve hhead with ⟨rest, hrest⟩
    rw [hrest] at h ⊢
    exact ReadsIn.exists_of_reads_group h ha hb
  have hchars : (∃ b', Reads g a e.chars b' [] ∧ b'.enclosing = []) ∧
      GroupName.declared (resolve e) = GroupName.declared e.chars := by
    rcases resolve_cases e with heq | ⟨front, k, he, heq⟩
    · rw [heq] at h ⊢
      exact ⟨⟨b, h, hb⟩, rfl⟩
    · have hscan : closingFrom (a.enclosing.length + 1) false false
          (front.chars ++ List.replicate (k + 1) ')') = some (front.chars.length + k) := by
        rw [he, chars_of_anchored, Pairs, List.append_assoc, List.length_append,
          List.length_replicate, ← List.replicate_succ'] at hpairs
        rw [ha]
        exact hpairs
      rw [heq] at h ⊢
      rw [he, chars_of_anchored]
      exact h.without_anchor hb hscan
  rcases hchars with ⟨⟨b', hreads, hb'⟩, hdeclared⟩
  rcases List.head?_eq_some_iff.1 hhead with ⟨rest, hrest⟩
  refine ⟨?_, hresolved, hdeclared⟩
  rw [hrest] at hreads ⊢
  exact ReadsIn.exists_of_reads_group hreads ha hb'

/-- Behind a text that can be read an emission that starts with a parenthesis stays readable. -/
theorem append {first : Emission} {n : Nat} (h : e.IsReadable g modes)
    (hfirst : ReadsIn g modes n (fun _ _ => True) first.chars)
    (hhead : e.chars.head? = some '(') :
    (first ++ e).IsReadable g modes ∧ GroupName.declared (first ++ e).chars =
      GroupName.declared first.chars ++ GroupName.declared e.chars := by
  have hstops : Stops e.chars := by
    rcases List.head?_eq_some_iff.1 hhead with ⟨rest, hrest⟩
    rw [hrest]
    exact stops_opening rest
  have hstops' : Stops (resolve e) := by
    rcases exists_resolve hhead with ⟨rest, hrest⟩
    rw [hrest]
    exact stops_opening rest
  have hdeclared : GroupName.declared (first ++ e).chars =
      GroupName.declared first.chars ++ GroupName.declared e.chars := by
    rw [chars_append, hfirst.declared_append hstops]
  rcases h.chars with ⟨m, hchars⟩
  rcases h.resolved with ⟨m', hresolved⟩
  refine ⟨⟨⟨n + m, ?_⟩, ⟨n + m', ?_⟩, ?_⟩, hdeclared⟩
  · rw [chars_append]
    exact hfirst.append hchars hstops fun _ _ _ _ _ => trivial
  · rw [resolve_append_of_head? first hhead]
    exact hfirst.append hresolved hstops' fun _ _ _ _ _ => trivial
  · rw [resolve_append_of_head? first hhead, hfirst.declared_append hstops', h.declared,
      hdeclared]

end IsReadable

end Emission

/-! ## Forward references -/

/-- What a forward reference over some parts is compiled into in front of them. -/
def Emission.forward (direction : UntilDirection) (e : Emission) : Emission :=
  enclose (upTo direction e [.endMark])

namespace UntilDirection

variable {g : Grammar} {modes : Modes} {n : Nat} {text : List Char} {e : Emission}

/-- The text of a forward reference over some text. -/
def copied (direction : UntilDirection) (text : List Char) : List Char :=
  match direction with
  | .ahead => '(' :: ([] ++ (['.', '*', '?'] ++ '(' :: (['?', '='] ++ (text ++ [')'])) ++ [')']))
  | .behind => '(' :: (['?', '<', '='] ++
      (['.', '*', '?'] ++ '(' :: (['?', '='] ++ (text ++ [')'])) ++ [')']))

/-- How many groups the text of a forward reference opens itself. -/
def groups : UntilDirection → Nat
  | .ahead => 1
  | .behind => 0

/-- A forward reference over an emission that starts with a parenthesis. -/
theorem chars_forward (h : e.chars.head? = some '(') (direction : UntilDirection) :
    (e.forward direction).chars = direction.copied e.chars := by
  have hmark : startsWithGroupMark e.chars = false := by
    rcases List.head?_eq_some_iff.1 h with ⟨rest, hrest⟩
    rw [hrest]
    rfl
  have hends : Emission.chars [.endMark] = [] := rfl
  unfold Emission.forward Emission.upTo
  rw [hmark]
  cases direction with
  | ahead =>
      rw [Emission.enclose, if_neg (by simp)]
      simp [copied, hends]
  | behind =>
      rw [Emission.enclose, if_pos (by simp)]
      simp [copied, hends]

theorem pairs_copied {text : List Char} (h : Pairs text) (direction : UntilDirection) :
    Pairs (direction.copied text) := by
  have hlazy : NeutralText ['.', '*', '?'] :=
    .inert (by decide) (.inert (by decide) (.inert (by decide) .nil))
  have hahead : NeutralText ['?', '='] := .inert (by decide) (.inert (by decide) .nil)
  have hbehind : NeutralText ['?', '<', '='] :=
    .inert (by decide) (.inert (by decide) (.inert (by decide) .nil))
  have hinside := (Pairs.of_neutral hlazy).append (h.group hahead)
  cases direction with
  | ahead => exact hinside.group NeutralText.nil
  | behind => exact hinside.group hbehind

/-- A text that can be read can be read in a forward reference. -/
theorem exists_readsIn_copied (h : ReadsIn g modes n (fun _ _ => True) text)
    (hhead : text.head? ≠ some '?') (direction : UntilDirection) :
    ∃ m, ReadsIn g modes m (fun _ _ => True) (direction.copied text) ∧
      GroupName.declared (direction.copied text) =
        List.replicate (direction.groups) none ++ GroupName.declared text := by
  have hahead := h.enclosed hhead OpensWith.lookahead
  have hinside := ReadsIn.lazyDots.append hahead (stops_opening _)
    fun _ _ _ _ _ => (trivial : (fun _ _ : Frame => True) _ _)
  have hinsideHead : (['.', '*', '?'] ++ '(' :: (['?', '='] ++ (text ++ [')']))).head? ≠
      some '?' := by simp
  have hgroups : GroupName.declared (['.', '*', '?'] ++ '(' :: (['?', '='] ++ (text ++ [')']))) =
      GroupName.declared text := h.declared_enclosed hhead OpensWith.lookahead
  cases direction with
  | ahead =>
      refine ⟨_, (hinside.enclosed hinsideHead OpensWith.capturing).mono fun _ _ _ => trivial, ?_⟩
      rw [copied, hinside.declared_enclosed hinsideHead OpensWith.capturing, hgroups, groups]
  | behind =>
      refine ⟨_, (hinside.enclosed hinsideHead OpensWith.lookbehind).mono fun _ _ _ => trivial, ?_⟩
      rw [copied, hinside.declared_enclosed hinsideHead OpensWith.lookbehind, hgroups, groups]

end UntilDirection

/-- In front of a readable emission a forward reference over it is readable. -/
theorem Emission.IsReadable.forward {g : Grammar} {modes : Modes} {e : Emission}
    (h : e.IsReadable g modes) (hhead : e.chars.head? = some '(') (direction : UntilDirection) :
    (e.forward direction ++ e).IsReadable g modes ∧
      GroupName.declared (e.forward direction ++ e).chars = List.replicate direction.groups none ++
        (GroupName.declared e.chars ++ GroupName.declared e.chars) := by
  rcases h.chars with ⟨n, hchars⟩
  have hhead' : e.chars.head? ≠ some '?' := by
    rw [hhead]
    decide
  rcases UntilDirection.exists_readsIn_copied hchars hhead' direction with ⟨m, hcopied, hgroups⟩
  rw [← UntilDirection.chars_forward hhead] at hcopied hgroups
  rcases h.append hcopied hhead with ⟨hwhole, hdeclared⟩
  refine ⟨hwhole, ?_⟩
  rw [hdeclared, hgroups, List.append_assoc]

/-! ## Resolved arguments -/

namespace Builder

variable {g : Grammar} {a b : Assembly} {part : FragmentId → Emission} {slots pre post : List Slot}
variable {direction : UntilDirection}

/-- What the fragments of resolved arguments are compiled into one after the other, if each fragment
is compiled into `part`. -/
def assembled (part : FragmentId → Emission) : List Slot → Emission
  | [] => []
  | .product id :: rest => Emission.enclose (part id) ++ assembled part rest
  | .dropped :: rest => assembled part rest
  | .forward direction :: rest =>
    if assembled part rest = [] then []
    else (assembled part rest).forward direction ++ assembled part rest

/-- A forward reference over arguments that are there. -/
theorem assembled_forward (hpost : assembled part post ≠ []) :
    assembled part (.forward direction :: post) =
      (assembled part post).forward direction ++ assembled part post := by
  rw [assembled, if_neg hpost]

/-- Without fragments behind it a forward reference is nothing. -/
theorem assembled_insert_of_eq (hpost : assembled part post = []) (pre : List Slot)
    (direction : UntilDirection) :
    assembled part (pre ++ .forward direction :: post) = assembled part (pre ++ post) := by
  induction pre with
  | nil => rw [List.nil_append, List.nil_append, assembled, if_pos hpost, hpost]
  | cons slot pre ih => cases slot <;> simp [assembled, ih]

theorem head?_assembled (h : assembled part slots ≠ []) :
    (assembled part slots).chars.head? = some '(' := by
  induction slots with
  | nil => exact absurd rfl h
  | cons slot rest ih =>
      cases slot with
      | product id => simp [assembled, Emission.head?_enclose]
      | dropped => exact ih h
      | forward direction =>
          rw [assembled] at h ⊢
          split_ifs at h ⊢ with hrest
          · exact absurd rfl h
          · simp [Emission.forward, Emission.head?_enclose]

theorem assembled_append_ne (hpost : assembled part post ≠ []) :
    assembled part (pre ++ post) ≠ [] := by
  induction pre with
  | nil => exact hpost
  | cons slot pre ih =>
      cases slot with
      | product id =>
          intro hnil
          rw [List.cons_append, assembled] at hnil
          exact ih (List.append_eq_nil_iff.1 hnil).2
      | dropped => exact ih
      | forward d =>
          rw [List.cons_append, assembled_forward ih]
          exact fun hnil => ih (List.append_eq_nil_iff.1 hnil).2

/-- Where there is a fragment, there is something to compile. -/
theorem assembled_ne_of_mem {id : FragmentId} (h : .product id ∈ slots) :
    assembled part slots ≠ [] := by
  rcases List.append_of_mem h with ⟨pre, post, rfl⟩
  refine assembled_append_ne fun hnil => ?_
  have hhead := Emission.head?_enclose (part id)
  rw [assembled] at hnil
  rw [(List.append_eq_nil_iff.1 hnil).1] at hhead
  cases hhead

/-- The text of a fragment as an argument. -/
def argumentText (part : FragmentId → Emission) (id : FragmentId) : List Char :=
  (Emission.enclose (part id)).chars

/-- The parentheses of the texts of all arguments match. -/
def PairsAll (part : FragmentId → Emission) (slots : List Slot) : Prop :=
  ∀ id, .product id ∈ slots → Pairs (argumentText part id)

/-- No group in the texts of the arguments has a name. -/
def NamesNone (part : FragmentId → Emission) (slots : List Slot) : Prop :=
  ∀ id, .product id ∈ slots → ∀ name ∈ GroupName.declared (argumentText part id), name = none

namespace PairsAll

theorem tail {slot : Slot} (h : PairsAll part (slot :: slots)) : PairsAll part slots :=
  fun id hid => h id (List.mem_cons_of_mem _ hid)

/-- The parentheses of the whole text match, too. -/
theorem assembled (h : PairsAll part slots) : Pairs (assembled part slots).chars := by
  induction slots with
  | nil => exact Pairs.nil
  | cons slot rest ih =>
      cases slot with
      | product id =>
          rw [Builder.assembled, Emission.chars_append]
          exact (h id List.mem_cons_self).append (ih h.tail)
      | dropped => exact ih h.tail
      | forward direction =>
          rw [Builder.assembled]
          split
          · exact Pairs.nil
          · next hsome =>
              rw [Emission.chars_append, UntilDirection.chars_forward (head?_assembled hsome)]
              exact (UntilDirection.pairs_copied (ih h.tail) direction).append (ih h.tail)

end PairsAll

/-! ## Reading the arguments one by one -/

/-- The text of every argument can be read, and so can the source from any argument on. -/
structure ReadsEach (g : Grammar) (modes : Modes) (part : FragmentId → Emission)
    (slots : List Slot) : Prop where
  argument : ∀ id, .product id ∈ slots →
    ∃ n, ReadsIn g modes n (fun _ _ => True) (argumentText part id)
  suffix : ∀ pre post, slots = pre ++ post → assembled part post ≠ [] →
    (assembled part post).IsReadable g modes

namespace ReadsEach

variable {modes : Modes}

/-- In front of what can be read one by one there is one more argument. -/
theorem cons {slot : Slot} (h : ReadsEach g modes part slots)
    (hslot : ∀ id, slot = .product id →
      ∃ n, ReadsIn g modes n (fun _ _ => True) (argumentText part id))
    (hwhole : assembled part (slot :: slots) ≠ [] →
      (assembled part (slot :: slots)).IsReadable g modes) :
    ReadsEach g modes part (slot :: slots) := by
  refine ⟨fun id hid => ?_, fun pre post heq hpost => ?_⟩
  · rcases List.mem_cons.1 hid with heq | hid
    · exact hslot id heq.symm
    · exact h.argument id hid
  · cases pre with
    | nil =>
        rw [List.nil_append] at heq
        subst heq
        exact hwhole hpost
    | cons first pre => exact h.suffix pre post (List.cons.inj heq).2 hpost

theorem tail {slot : Slot} (h : ReadsEach g modes part (slot :: slots)) :
    ReadsEach g modes part slots :=
  ⟨fun id hid => h.argument id (List.mem_cons_of_mem _ hid),
    fun pre post heq => h.suffix (slot :: pre) post (by rw [heq, List.cons_append])⟩

theorem of_append (h : ReadsEach g modes part (pre ++ post)) : ReadsEach g modes part post := by
  induction pre with
  | nil => exact h
  | cons _ _ ih => exact ih h.tail

/-- Without fragments there is nothing to be read. -/
theorem of_eq_nil (h : assembled part slots = []) : ReadsEach g modes part slots := by
  refine ⟨fun id hid => absurd h (assembled_ne_of_mem hid), fun pre post heq hpost => ?_⟩
  subst heq
  exact absurd h (assembled_append_ne hpost)

end ReadsEach

/-- What comes first is read alone, and then what starts with a parenthesis is read. -/
theorem exists_boundary_resolve {first e : Emission}
    (h : Reads g a (Emission.resolve (first ++ e)) b []) (ha : a.enclosing = [])
    (hfirst : Pairs first.chars) (hhead : e.chars.head? = some '(') :
    ∃ frame count, frame.modes = a.current.modes ∧ Reads g a first.chars ⟨frame, [], count⟩ [] ∧
      Reads g ⟨frame, [], count⟩ (Emission.resolve e) b [] := by
  rw [Emission.resolve_append_of_head? first hhead] at h
  rcases Emission.exists_resolve hhead with ⟨rest, hrest⟩
  rw [hrest] at h ⊢
  rcases h.exists_boundary ha hfirst with ⟨frame, count, hframe, hleft, hright⟩
  exact ⟨frame, count, hframe.2.2, hleft, hright⟩

/-- If the source of arguments can be read, they can be read one by one. -/
theorem readsEach_of_reads (hpairs : PairsAll part slots)
    (h : Reads g a (Emission.resolve (assembled part slots)) b []) (ha : a.enclosing = [])
    (hb : b.enclosing = []) : ReadsEach g a.current.modes part slots := by
  induction slots generalizing a with
  | nil => exact ReadsEach.of_eq_nil rfl
  | cons slot rest ih =>
      have hwhole : assembled part (slot :: rest) ≠ [] →
          (assembled part (slot :: rest)).IsReadable g a.current.modes := fun hsome =>
        Emission.IsReadable.of_reads h ha hb (head?_assembled hsome) hpairs.assembled
      by_cases hrest : assembled part rest = []
      · refine (ReadsEach.of_eq_nil hrest).cons ?_ hwhole
        rintro id rfl
        have hreadable := hwhole (assembled_ne_of_mem List.mem_cons_self)
        rw [assembled, hrest, List.append_nil] at hreadable
        exact hreadable.chars
      · have hhead := head?_assembled hrest
        -- What stands first leaves the frame open and its modes as they are.
        have later : ∀ {frame count}, frame.modes = a.current.modes →
            Reads g ⟨frame, [], count⟩ (Emission.resolve (assembled part rest)) b [] →
              ReadsEach g a.current.modes part rest := by
          intro frame count hmodes hreads
          rw [← hmodes]
          exact ih hpairs.tail hreads rfl
        cases slot with
        | product id =>
            rw [assembled] at h
            rcases exists_boundary_resolve h ha (hpairs id List.mem_cons_self) hhead with
              ⟨frame, count, hmodes, hfirst, hreads⟩
            refine (later hmodes hreads).cons ?_ hwhole
            rintro id' heq
            obtain rfl := Slot.product.inj heq
            rcases List.head?_eq_some_iff.1 (Emission.head?_enclose (part id)) with ⟨text, htext⟩
            rw [argumentText, htext]
            rw [htext] at hfirst
            exact ReadsIn.exists_of_reads_group hfirst ha rfl
        | dropped => exact (ih hpairs.tail h ha).cons nofun hwhole
        | forward d =>
            rw [assembled_forward hrest] at h
            have hcopied : Pairs ((assembled part rest).forward d).chars := by
              rw [UntilDirection.chars_forward hhead]
              exact UntilDirection.pairs_copied hpairs.tail.assembled d
            rcases exists_boundary_resolve h ha hcopied hhead with ⟨frame, count, hmodes, -, hreads⟩
            exact (later hmodes hreads).cons nofun hwhole

namespace ReadsEach

variable {modes : Modes}

/-- With the arguments behind a first one, that one can be read. -/
theorem append_argument {id : FragmentId} (hid : ∃ n, ReadsIn g modes n (fun _ _ => True)
    (argumentText part id)) (hslots : (assembled part slots).IsReadable g modes)
    (hsome : assembled part slots ≠ []) :
    (assembled part (.product id :: slots)).IsReadable g modes ∧
      GroupName.declared (assembled part (.product id :: slots)).chars =
        GroupName.declared (argumentText part id) ++
          GroupName.declared (assembled part slots).chars := by
  rcases hid with ⟨n, hid⟩
  exact hslots.append hid (head?_assembled hsome)

/-- The groups of an argument come before those of the arguments behind it. -/
theorem declared_product {id : FragmentId} (h : ReadsEach g modes part (.product id :: slots)) :
    GroupName.declared (assembled part (.product id :: slots)).chars =
      GroupName.declared (argumentText part id) ++
        GroupName.declared (assembled part slots).chars := by
  by_cases hslots : assembled part slots = []
  · have hempty : GroupName.declared (Emission.chars []) = [] := rfl
    simp [assembled, hslots, argumentText, hempty]
  · exact (append_argument (h.argument id List.mem_cons_self)
      (h.suffix [_] slots rfl hslots) hslots).2

/-- If the arguments can be read one by one, they can be read with a forward reference among them,
and the later groups are there once more. -/
theorem forward (h : ReadsEach g modes part (pre ++ post)) (hpost : assembled part post ≠ [])
    (direction : UntilDirection) :
    (assembled part (pre ++ .forward direction :: post)).IsReadable g modes ∧
      GroupName.Repeats (GroupName.declared (assembled part post).chars)
        (GroupName.declared (assembled part (pre ++ post)).chars)
        (GroupName.declared (assembled part (pre ++ .forward direction :: post)).chars) := by
  have hforward : assembled part (.forward direction :: post) ≠ [] := by
    rw [assembled_forward hpost]
    exact fun hnil => hpost (List.append_eq_nil_iff.1 hnil).2
  induction pre with
  | nil =>
      rcases (h.suffix [] post rfl hpost).forward (head?_assembled hpost) direction with
        ⟨hwhole, hdeclared⟩
      rw [List.nil_append, List.nil_append, assembled_forward hpost]
      refine ⟨hwhole, ?_⟩
      rw [hdeclared]
      exact .here _
  | cons slot pre ih =>
      have hrest : assembled part (pre ++ post) ≠ [] := assembled_append_ne hpost
      have hrest' : assembled part (pre ++ .forward direction :: post) ≠ [] :=
        assembled_append_ne hforward
      have hreadable := h.suffix [slot] (pre ++ post) rfl hrest
      rcases ih h.tail with ⟨hreadable', hrepeats⟩
      rw [List.cons_append, List.cons_append]
      cases slot with
      | product id =>
          have hid := h.argument id List.mem_cons_self
          have hdeclared := (append_argument hid hreadable hrest).2
          rcases append_argument hid hreadable' hrest' with ⟨hwhole, hdeclared'⟩
          refine ⟨hwhole, ?_⟩
          rw [hdeclared, hdeclared']
          exact .behind _ hrepeats
      | dropped => exact ⟨hreadable', hrepeats⟩
      | forward d =>
          have hdeclared := (hreadable.forward (head?_assembled hrest) d).2
          rcases hreadable'.forward (head?_assembled hrest') d with ⟨hwhole, hdeclared'⟩
          rw [assembled_forward hrest, assembled_forward hrest']
          refine ⟨hwhole, ?_⟩
          rw [hdeclared, hdeclared']
          exact .twice _ hrepeats

/-- No group of the whole has a name exactly if no group of an argument has one. -/
theorem names_eq_nil_iff (h : ReadsEach g modes part slots) :
    (GroupName.declared (assembled part slots).chars).filterMap id = [] ↔
      NamesNone part slots := by
  have hempty : GroupName.declared (Emission.chars []) = [] := rfl
  induction slots with
  | nil => simp [assembled, NamesNone, hempty]
  | cons slot rest ih =>
      replace ih : _ ↔ _ := ih h.tail
      cases slot with
      | product id =>
          rw [h.declared_product, List.filterMap_append, List.append_eq_nil_iff, ih,
            List.filterMap_eq_nil_iff]
          constructor
          · rintro ⟨hfirst, hlater⟩ id' hid
            rcases List.mem_cons.1 hid with heq | hid
            · obtain rfl := Slot.product.inj heq
              exact hfirst
            · exact hlater id' hid
          · exact fun hall => ⟨hall id List.mem_cons_self,
              fun id' hid => hall id' (List.mem_cons_of_mem _ hid)⟩
      | dropped => simpa [assembled, NamesNone] using ih
      | forward direction =>
          have hproducts : NamesNone part (.forward direction :: rest) ↔ NamesNone part rest := by
            simp [NamesNone]
          rw [hproducts, ← ih]
          by_cases hrest : assembled part rest = []
          · rw [assembled, if_pos hrest, hrest]
          · rw [assembled_forward hrest, ((h.suffix [_] rest rfl hrest).forward
              (head?_assembled hrest) direction).2]
            simp [List.filterMap_append]

end ReadsEach

/-- The source of resolved arguments. -/
def assembledSource (part : FragmentId → Emission) (slots : List Slot) : String :=
  String.ofList (Emission.resolve (assembled part slots))

variable {flags : Flags} {r : Regex}

/-- In the grammar of an accepted source the arguments can be read one by one. -/
theorem exists_readsEach (hcompile : Regex.compile (assembledSource part slots) flags = .ok r)
    (hpairs : PairsAll part slots) :
    ∃ groups : List (Option String), (groups.filterMap id).Nodup ∧
      groups = GroupName.declared (assembled part slots).chars ∧
      ReadsEach ⟨flags.contains .unicode, groups⟩ (Modes.ofFlags flags) part slots := by
  rcases Program.read_eq_ok_iff.1 (Regex.of_compile hcompile).1 with
    ⟨hgroups, hnodup, b, hreads, hb, -⟩
  rw [hgroups] at hnodup
  rw [Program.grammar] at hreads
  rw [assembledSource, String.toList_ofList] at hnodup hreads
  have heach := readsEach_of_reads hpairs hreads rfl hb
  refine ⟨_, hnodup, ?_, heach⟩
  by_cases hsome : assembled part slots = []
  · rw [hsome]
    rfl
  · exact (heach.suffix [] slots rfl hsome).declared

/-- If the names are those of a grammar in which arguments can be read, and the groups no fewer,
their source is accepted. -/
theorem exists_compile_of_isReadable {groups : List (Option String)}
    (hnodup : (groups.filterMap id).Nodup)
    (hreadable : (assembled part slots).IsReadable ⟨flags.contains .unicode, groups⟩
      (Modes.ofFlags flags))
    (hnames : (GroupName.declared (assembled part slots).chars).filterMap id = groups.filterMap id)
    (hlength : groups.length ≤ (GroupName.declared (assembled part slots).chars).length) :
    ∃ r, Regex.compile (assembledSource part slots) flags = .ok r := by
  have hgrammar : Program.grammar (assembledSource part slots) flags =
      ⟨flags.contains .unicode, GroupName.declared (assembled part slots).chars⟩ := by
    rw [Program.grammar, assembledSource, String.toList_ofList, hreadable.declared]
  have hsupports : Grammar.Supports ⟨flags.contains .unicode, groups⟩
      (Program.grammar (assembledSource part slots) flags) := by
    rw [hgrammar]
    exact Grammar.supports_of_names rfl hnames hlength
  rcases hreadable.resolved with ⟨n, hresolved⟩
  rw [← hnames, ← hreadable.declared] at hnodup
  rcases (hresolved.of_supports hsupports).compile_of_nodup hnodup with ⟨r, -, hcompile, -⟩
  exact ⟨r, hcompile⟩

/-- Let the source of arguments be accepted.  If no group behind a forward reference has a name, the
source with the reference is accepted under the same flags. -/
theorem exists_compile_forward (hcompile : Regex.compile (assembledSource part (pre ++ post))
    flags = .ok r) (hpairs : PairsAll part (pre ++ post)) (hnames : NamesNone part post)
    (direction : UntilDirection) : ∃ r',
      Regex.compile (assembledSource part (pre ++ .forward direction :: post)) flags = .ok r' := by
  by_cases hpost : assembled part post = []
  · refine ⟨r, ?_⟩
    rw [assembledSource, assembled_insert_of_eq hpost]
    exact hcompile
  · rcases exists_readsEach hcompile hpairs with ⟨groups, hnodup, hgroups, heach⟩
    rcases heach.forward hpost direction with ⟨hreadable, hrepeats⟩
    rw [← hgroups] at hrepeats
    exact exists_compile_of_isReadable hnodup hreadable
      (hrepeats.names_eq (heach.of_append.names_eq_nil_iff.2 hnames)) hrepeats.length_le

/-- If a group behind a forward reference has a name, the source with the reference is rejected. -/
theorem compile_forward_eq_error (hcompile : Regex.compile (assembledSource part (pre ++ post))
    flags = .ok r) (hpairs : PairsAll part (pre ++ post)) (hnames : ¬ NamesNone part post)
    (direction : UntilDirection) :
    Regex.compile (assembledSource part (pre ++ .forward direction :: post)) flags =
      .error (.invalidPattern (assembledSource part (pre ++ .forward direction :: post))
        .duplicateGroupName) := by
  have hpost : assembled part post ≠ [] := fun hnil =>
    hnames fun id hid => absurd hnil (assembled_ne_of_mem hid)
  rcases exists_readsEach hcompile hpairs with ⟨groups, -, -, heach⟩
  rcases heach.forward hpost direction with ⟨hreadable, hrepeats⟩
  have htwice := hrepeats.not_nodup (mt heach.of_append.names_eq_nil_iff.1 hnames)
  rw [← hreadable.declared, ← String.toList_ofList (l := Emission.resolve _)] at htwice
  have hread := @Program.read_of_not_nodup _ flags htwice
  rw [assembledSource, Regex.compile, hread]

end Builder

end RegexComposition

import RegexComposition.Capture
import RegexComposition.Proofs.Fragment.Descent
import RegexComposition.Proofs.Session.Calls
import RegexComposition.Proofs.Session.Invariant

/-!
# Names of skipped groups

A skipped group is named with the least number that is free.  In the pattern of a capture the digits
of the number are spelled as words.  As no such word begins another one, the number can still be
read off the name, and the names of skipped groups stay apart.

Main results:

- `eq_of_flatMap_eq`: words of which none begins another one can be read off a text.
- `Registry.eq_of_nativeGroupName_eq`: the number can be read off the native name.
- `Graph.exists_clash`: why a capture reports a name that occurs twice.
- `Builder.skip_names_apart`: skipped groups are named freely and never clash with each other.
-/

namespace RegexComposition

variable {σ : Type}

/-! ## Reading words -/

/-- Words of which none begins another one can be read off the text that they make. -/
theorem eq_of_flatMap_eq {α β : Type} {word : α → List β} {letters : List α}
    (hne : ∀ a ∈ letters, word a ≠ [])
    (hfree : ∀ a ∈ letters, ∀ b ∈ letters, word a <+: word b → a = b) {as bs : List α}
    (has : ∀ a ∈ as, a ∈ letters) (hbs : ∀ b ∈ bs, b ∈ letters)
    (h : as.flatMap word = bs.flatMap word) : as = bs := by
  induction as generalizing bs with
  | nil =>
      cases bs with
      | nil => rfl
      | cons b bs =>
          rw [List.flatMap_nil, List.flatMap_cons, eq_comm, List.append_eq_nil_iff] at h
          exact absurd h.1 (hne b (hbs b List.mem_cons_self))
  | cons a as ih =>
      cases bs with
      | nil =>
          rw [List.flatMap_nil, List.flatMap_cons, List.append_eq_nil_iff] at h
          exact absurd h.1 (hne a (has a List.mem_cons_self))
      | cons b bs =>
          have ha := has a List.mem_cons_self
          have hb := hbs b List.mem_cons_self
          rw [List.flatMap_cons, List.flatMap_cons] at h
          -- Both words begin the same text, so that one of them begins the other.
          have hab : a = b := by
            have hword : word a <+: word b ++ bs.flatMap word := h ▸ List.prefix_append _ _
            rcases List.prefix_or_prefix_of_prefix hword (List.prefix_append _ _) with hpre | hpre
            · exact hfree a ha b hb hpre
            · exact (hfree b hb a ha hpre).symm
          subst hab
          rw [ih (fun c hc => has c (List.mem_cons_of_mem a hc))
            (fun c hc => hbs c (List.mem_cons_of_mem a hc)) (List.append_cancel_left h)]

/-- The characters of decimal numerals. -/
def decimalDigits : List Char := ['0', '1', '2', '3', '4', '5', '6', '7', '8', '9']

theorem mem_decimalDigits {c : Char} (hc : c.isDigit = true) : c ∈ decimalDigits := by
  have hdigits : ∀ n < 58, 48 ≤ n → Char.ofNat n ∈ decimalDigits := by decide
  rcases Char.isDigit_iff_toNat.1 hc with ⟨hlow, hhigh⟩
  rw [← Char.ofNat_toNat c]
  exact hdigits c.toNat (Nat.lt_succ_of_le hhigh) hlow

/-- The letters of the word for a decimal digit. -/
def digitLetters : Char → List Char
  | '0' => ['z', 'e', 'r', 'o']
  | '1' => ['o', 'n', 'e']
  | '2' => ['t', 'w', 'o']
  | '3' => ['t', 'h', 'r', 'e', 'e']
  | '4' => ['f', 'o', 'u', 'r']
  | '5' => ['f', 'i', 'v', 'e']
  | '6' => ['s', 'i', 'x']
  | '7' => ['s', 'e', 'v', 'e', 'n']
  | '8' => ['e', 'i', 'g', 'h', 't']
  | '9' => ['n', 'i', 'n', 'e']
  | _ => []

theorem nativeNamePart_eq_digitLetters {d : Char} (hd : d ∈ decimalDigits) :
    nativeNamePart d = digitLetters d := by
  simp only [decimalDigits, List.mem_cons, List.not_mem_nil, or_false] at hd
  rcases hd with rfl | rfl | rfl | rfl | rfl | rfl | rfl | rfl | rfl | rfl
  all_goals rfl

/-- The words for digits can be read off the text that they make, as none of them begins another
one. -/
theorem eq_of_flatMap_nativeNamePart {as bs : List Char} (has : ∀ a ∈ as, a ∈ decimalDigits)
    (hbs : ∀ b ∈ bs, b ∈ decimalDigits)
    (h : as.flatMap nativeNamePart = bs.flatMap nativeNamePart) : as = bs := by
  have hne : ∀ d ∈ decimalDigits, digitLetters d ≠ [] := by simp [decimalDigits, digitLetters]
  have hfree : ∀ d ∈ decimalDigits, ∀ e ∈ decimalDigits,
      digitLetters d <+: digitLetters e → d = e := by simp [decimalDigits, digitLetters]
  rw [List.flatMap_congr fun a ha => nativeNamePart_eq_digitLetters (has a ha),
    List.flatMap_congr fun b hb => nativeNamePart_eq_digitLetters (hbs b hb)] at h
  exact eq_of_flatMap_eq hne hfree has hbs h

namespace Registry

theorem mem_decimalDigits_of_mem_toString {number : Nat} {c : Char}
    (hc : c ∈ (toString number).toList) : c ∈ decimalDigits := by
  rw [Nat.toString_eq_ofList_toDigits, String.toList_ofList] at hc
  exact mem_decimalDigits (Nat.isDigit_of_mem_toDigits (by decide) (by decide) hc)

/-- The number can be read off the name with its digits spelled as words. -/
theorem eq_of_nativeGroupName_eq {i j : Nat}
    (h : nativeGroupName (numberedName i) = nativeGroupName (numberedName j)) : i = j := by
  have hchars := congrArg String.toList h
  simp only [nativeGroupName, String.toList_ofList, toList_numberedName,
    List.flatMap_append] at hchars
  have hdigits : (toString i).toList = (toString j).toList :=
    eq_of_flatMap_nativeNamePart (fun _ => mem_decimalDigits_of_mem_toString)
      (fun _ => mem_decimalDigits_of_mem_toString) (List.append_cancel_left hchars)
  refine numberedName_injective (String.toList_inj.1 ?_)
  rw [toList_numberedName, toList_numberedName, hdigits]

end Registry

/-! ## Captures that report a name -/

/-- A group is reported if its native name is taken or that of an earlier group. -/
theorem CaptureEntry.exists_clash {g : Graph} {taken : List String}
    {groups : List (String × FragmentId)} {name : String}
    (h : ofGroups g taken groups = .error (.duplicateCaptureName name)) :
    name ∈ groups.map (·.1) ∧ nativeGroupName name ∈ taken ∨
      ∃ earlier, [earlier, name].Sublist (groups.map (·.1)) ∧
        nativeGroupName earlier = nativeGroupName name := by
  induction groups generalizing taken with
  | nil => cases h
  | cons group groups ih =>
      rcases group with ⟨first, id⟩
      simp only [ofGroups] at h
      by_cases husable : nativeGroupName first = ""
      · rw [if_pos husable] at h
        cases h
      by_cases htaken : taken.contains (nativeGroupName first)
      · rw [if_neg husable, if_pos htaken] at h
        cases h
        exact .inl ⟨List.mem_cons_self, by simpa using htaken⟩
      rw [if_neg husable, if_neg htaken] at h
      rcases of_bind_eq_error h with hsource | ⟨source, -, h⟩
      · exact absurd (Graph.source_eq_error_iff.1 hsource).1 nofun
      rcases of_bind_eq_error h with hrest | ⟨entries, -, h⟩
      · rcases ih hrest with ⟨hname, hmem⟩ | ⟨earlier, hsublist, hsame⟩
        · rcases List.mem_cons.1 hmem with hsame | hmem
          · exact .inr ⟨first, (List.singleton_sublist.2 hname).cons_cons first, hsame.symm⟩
          · exact .inl ⟨List.mem_cons_of_mem _ hname, hmem⟩
        · exact .inr ⟨earlier, hsublist.cons first, hsame⟩
      · cases h

namespace Graph

variable {g : Graph}

theorem eq_of_resolveFlags_eq_error {id : FragmentId} {given default : Option Flags}
    {e : CompositionError} (h : g.resolveFlags id given default = .error e) :
    e = .nestingTooDeep maxNesting := by
  unfold resolveFlags at h
  split at h
  · cases h
  · cases hleaves : g.leafFlags (maxNesting + 1) id with
    | ok fs =>
        rw [hleaves] at h
        cases h
    | error e' =>
        rw [hleaves] at h
        obtain rfl := Except.error.inj h
        exact eq_of_leafFlags_eq_error hleaves

theorem eq_of_captureFlags_eq_error {options : CaptureOptions} {default : Option Flags}
    {ids : List FragmentId} {e : CompositionError}
    (h : g.captureFlags options default ids = .error e) : e = .nestingTooDeep maxNesting := by
  unfold captureFlags at h
  split at h
  · cases h
  · rcases of_bind_eq_error h with hflags | ⟨flags, -, h⟩
    · rcases exists_of_mapM_eq_error hflags with ⟨id, -, hid⟩
      exact eq_of_resolveFlags_eq_error hid
    · cases h

/-- A capture that reports a name has an earlier group with the same native name. -/
theorem exists_clash {text : String} {groups : NameTable} {options : CaptureOptions}
    {default : Option Flags} {name : String}
    (h : g.capture text groups options default = .error (.duplicateCaptureName name)) :
    ∃ earlier, [earlier, name].Sublist groups.names ∧
      nativeGroupName earlier = nativeGroupName name := by
  unfold capture at h
  split at h
  · cases h
  rcases of_bind_eq_error h with hentries | ⟨entries, -, h⟩
  · rcases CaptureEntry.exists_clash hentries with ⟨-, htaken⟩ | hclash
    · exact absurd htaken List.not_mem_nil
    · exact hclash
  rcases of_bind_eq_error h with hflags | ⟨flags, -, h⟩
  · exact absurd (eq_of_captureFlags_eq_error hflags) nofun
  rcases of_bind_eq_error h with hregex | ⟨regex, -, h⟩
  · unfold Regex.compile at hregex
    split at hregex <;> cases hregex
  · cases h

end Graph

/-! ## Sessions -/

/-- The registry is valid and has only groups that have been named with a number. -/
structure Registry.HasNumberedGroups (r : Registry) : Prop where
  isValid : r.IsValid
  numbered : ∀ name ∈ r.groups.names, ∃ number, name = numberedName number

namespace Registry

variable {r r' : Registry} {fragment : FragmentId}

theorem hasNumberedGroups_empty : empty.HasNumberedGroups := ⟨isValid_empty, nofun⟩

/-- No name is used for two groups. -/
theorem IsValid.nodup_groups (h : r.IsValid) : r.groups.names.Nodup :=
  (List.nodup_append.1 h.nodup).2.1

/-- One more skipped group is one more group that is named with a number. -/
theorem HasNumberedGroups.skip (h : r.HasNumberedGroups)
    (hinsert : r.insert? .group r.skipName fragment = .ok r') : r'.HasNumberedGroups := by
  have hinserts := inserts_of_insert? hinsert
  refine ⟨hinserts.isValid h.isValid, fun name hname => ?_⟩
  have hnames : r'.groups.names = r.groups.names ++ [r.skipName] := by
    have hentries : r'.groups.entries = r.groups.entries ++ [(r.skipName, fragment)] :=
      hinserts.entries_same
    simp [NameTable.names, hentries]
  rw [hnames, List.mem_append, List.mem_singleton] at hname
  rcases hname with hname | rfl
  · exact h.numbered name hname
  · obtain ⟨number, hnumber, -⟩ := r.exists_skipName_eq
    exact ⟨number, hnumber⟩

end Registry

namespace Builder

open Session

variable {b : Builder} {v : Argument σ} {s : SessionState σ}

/-- The groups of the builder are skipped ones only. -/
def HasNumberedGroups (b : Builder) (s : SessionState σ) : Prop :=
  (s.workspace.names b.registry).HasNumberedGroups

/-- Skipping a value adds at most a skipped group. -/
theorem upholds_skip_numbered
    (hv : ∀ make, v.function? = some make → (make b).Upholds b.HasNumberedGroups) :
    (b.skip v).Upholds b.HasNumberedGroups := by
  intro s hs
  have hvalue : b.HasNumberedGroups ((b.resolveValue v).after s).2 := by
    cases hfunction : v.function? with
    | some make =>
        rw [Argument.resolveValue_of_function? hfunction]
        exact hv make hfunction s hs
    | none =>
        have hplain := Argument.isPlain_of_function?_eq_none hfunction
        rcases resolveValue_cases b s hplain with ⟨e, heq⟩ | ⟨id, g, heq, -⟩
        · rw [heq]
          exact hs
        · rw [heq]
          exact hs
  have hskip := b.after_skip v s
  generalize (b.resolveValue v).after s = outcome at hvalue hskip
  obtain ⟨result, s'⟩ := outcome
  cases result with
  | error e =>
      rw [hskip]
      exact hvalue
  | ok target =>
      obtain ⟨names, hnames, hafter⟩ := hskip
      have hextends := s'.workspace.extends_skipTarget b.registry target
      rw [hafter]
      unfold HasNumberedGroups
      rw [SessionState.workspace_withWorkspace]
      by_cases hregistry : (s'.workspace.skipTarget b.registry target).2.HasRegistry b.registry
      · rw [Workspace.names_skipped hregistry, if_pos rfl]
        exact Registry.HasNumberedGroups.skip hvalue hnames
      · rw [Workspace.names_of_not_hasRegistry (mt Workspace.hasRegistry_skipped.1 hregistry)]
        exact Registry.hasNumberedGroups_empty

/-- Skipping fails exactly if resolving the value does. -/
theorem after_skip_eq_error_iff {e : CompositionError} {s' : SessionState σ} :
    (b.skip v).after s = (.error e, s') ↔ (b.resolveValue v).after s = (.error e, s') := by
  have hskip := b.after_skip v s
  generalize (b.resolveValue v).after s = outcome at hskip ⊢
  obtain ⟨result, t⟩ := outcome
  cases result with
  | error e' => rw [hskip]
  | ok target =>
      obtain ⟨names, -, hafter⟩ := hskip
      rw [hafter]
      simp

/-- Two groups that clash in a capture are not both named with a number. -/
theorem exists_clash_of_capture (hvalid : (s.workspace.names b.registry).IsValid) {text : String}
    {options : CaptureOptions} {name : String}
    (h : ((b.capture text options).after s).1 = .error (.duplicateCaptureName name)) :
    ∃ earlier, [earlier, name].Sublist (s.workspace.names b.registry).groups.names ∧
      nativeGroupName earlier = nativeGroupName name ∧
      ∀ i j, ¬ (earlier = Registry.numberedName i ∧ name = Registry.numberedName j) := by
  have hcapture : s.workspace.graph.capture text (s.workspace.names b.registry).groups options
      b.flags = .error (.duplicateCaptureName name) := h
  obtain ⟨earlier, hsublist, hsame⟩ := Graph.exists_clash hcapture
  refine ⟨earlier, hsublist, hsame, ?_⟩
  rintro i j ⟨rfl, rfl⟩
  obtain rfl := Registry.eq_of_nativeGroupName_eq hsame
  have hnodup := hvalid.nodup_groups.sublist hsublist
  simp at hnodup

/-- Without other groups than skipped ones, no capture reports a name twice. -/
theorem capture_ne_duplicate (hs : b.HasNumberedGroups s) (text : String)
    (options : CaptureOptions) (name : String) :
    ((b.capture text options).after s).1 ≠ .error (.duplicateCaptureName name) := by
  intro h
  obtain ⟨earlier, hsublist, -, hapart⟩ := exists_clash_of_capture hs.isValid h
  obtain ⟨i, hi⟩ := hs.numbered earlier (hsublist.subset List.mem_cons_self)
  obtain ⟨j, hj⟩ := hs.numbered name
    (hsublist.subset (List.mem_cons_of_mem earlier List.mem_cons_self))
  exact hapart i j ⟨hi, hj⟩

/-- In every registry the search for the name of a skipped group passes only names in use, ends, and
gives a name that is neither an alias nor a group; therefore skipping fails exactly if resolving the
value does.  Names with different numbers have different native names.  Hence two groups that clash
in a capture are never both named with a number, and after any number of groups have been skipped
in a builder without other groups, no capture reports a name twice. -/
theorem skip_names_apart (b : Builder) :
    (∀ r : Registry, ∃ number, r.skipName = Registry.numberedName number ∧
      Registry.numberedName number ∉ r.allNames ∧ r.groups.size < number ∧
      number ≤ r.groups.size + 1 + (r.aliases.size + r.groups.size) ∧
      ∀ passed, r.groups.size < passed → passed < number →
        Registry.numberedName passed ∈ r.allNames) ∧
    (∀ (v : Argument σ) (s : SessionState σ) (e : CompositionError) (s' : SessionState σ),
      (b.skip v).after s = (.error e, s') ↔ (b.resolveValue v).after s = (.error e, s')) ∧
    (∀ i j, i ≠ j → nativeGroupName (Registry.numberedName i) ≠
      nativeGroupName (Registry.numberedName j)) ∧
    (∀ (s : SessionState σ) (text : String) (options : CaptureOptions) (name : String),
      (s.workspace.names b.registry).IsValid →
      ((b.capture text options).after s).1 = .error (.duplicateCaptureName name) →
      ∃ earlier, [earlier, name].Sublist (s.workspace.names b.registry).groups.names ∧
        nativeGroupName earlier = nativeGroupName name ∧
        ∀ i j, ¬ (earlier = Registry.numberedName i ∧ name = Registry.numberedName j)) ∧
    ∀ (s : SessionState σ) (values : List (Argument σ)), b.HasNumberedGroups s →
      (∀ v ∈ values, ∀ make, v.function? = some make → (make b).Upholds b.HasNumberedGroups) →
      ∀ (text : String) (options : CaptureOptions) (name : String),
        ((b.capture text options).after ((values.mapM b.skip).after s).2).1 ≠
          .error (.duplicateCaptureName name) := by
  refine ⟨Registry.exists_skipName_eq, fun v s e s' => after_skip_eq_error_iff, ?_, ?_, ?_⟩
  · intro i j hne hsame
    exact hne (Registry.eq_of_nativeGroupName_eq hsame)
  · intro s text options name hvalid h
    exact exists_clash_of_capture hvalid h
  · intro s values hs hvalues text options name
    have hskips : (values.mapM b.skip).Upholds b.HasNumberedGroups :=
      Upholds.mapM fun v hv => upholds_skip_numbered (hvalues v hv)
    exact capture_ne_duplicate (hskips s hs) text options name

/-- A builder whose user has taken the first two names for skipped groups as aliases. -/
def takenNumbers : SessionState Unit where
  workspace := {
    graph := ⟨#[{ kind := .native (.ofSource "a") }]⟩
    registries := #[{
      names := ⟨⟨[("group_that_is_skipped_1", ⟨0⟩), ("group_that_is_skipped_2", ⟨0⟩)]⟩, ⟨[]⟩⟩
      users := 1 }] }
  memory := ()

/-- Skipped groups after the numbers that are taken, captured from any text. -/
theorem skip_names_apart_takenNumbers :
    let b : Builder := ⟨⟨0⟩, none⟩
    let values : List (Argument Unit) := [.native (.ofSource "x"), .name "group_that_is_skipped_1"]
    let later := ((values.mapM b.skip).after takenNumbers).2
    (later.workspace.names b.registry).groups.names =
        ["group_that_is_skipped_3", "group_that_is_skipped_4"] ∧
      b.HasNumberedGroups takenNumbers ∧
      ∀ text options name,
        ((b.capture text options).after later).1 ≠ .error (.duplicateCaptureName name) := by
  intro b values later
  have hstart : b.HasNumberedGroups takenNumbers := by
    refine ⟨⟨?_, ?_⟩, ?_⟩
    · decide +kernel
    · decide +kernel
    · exact nofun
  have hvalues : ∀ v ∈ values, ∀ make, v.function? = some make →
      (make b).Upholds b.HasNumberedGroups := by
    simp [values, Argument.function?]
  refine ⟨by decide +kernel, hstart, ?_⟩
  exact (skip_names_apart b).2.2.2.2 takenNumbers values hstart hvalues

end Builder

end RegexComposition

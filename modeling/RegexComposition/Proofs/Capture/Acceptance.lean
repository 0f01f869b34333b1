import RegexComposition.Proofs.Capture.Tiling
import RegexComposition.Proofs.Fragment.Nesting
import RegexComposition.Proofs.Pattern.NamedGroup
import RegexComposition.Proofs.Pattern.Renaming
import RegexComposition.Proofs.Unicode.Identifiers

/-!
# Accepted captures

The native name of a group is made of the alphabetic characters of its name.  Nearly all of them can
stand in the name of a group, and then the combined pattern is accepted if the sources of the groups
are.  A few cannot, and they are not removed.

Main results:

- `IsUsableName`: what the name of a group may not contain.
- `isIdentifier_nativeGroupName_iff`: when a native name is one that a pattern can use.
- `CaptureEntry.exists_compile_pattern`: the combined pattern of accepted sources is accepted.
- `Graph.capture_succeeds`: groups with usable names are captured without a failure.
- `Graph.capture_rejects`: a letter in a circle makes a capture fail.
-/

namespace RegexComposition

open Assembly

/-! ## Native names -/

/-- The name has no character that stays in its native name although no group can have it in its name,
and the native name does not start with a combining mark. -/
structure IsUsableName (name : String) : Prop where
  noneForeign : ∀ c ∈ name.toList, Unicode.isForeign c.toNat = false
  startsFree : ∀ c ∈ (nativeGroupName name).toList.head?, Unicode.isDependent c.toNat = false

variable {name : String} {c : Char}

namespace GroupName

/-- What may start a name may go on with it. -/
theorem mayContinue_of_mayStart {c : Nat} (hc : mayStart c = true) : mayContinue c = true := by
  simp only [mayStart, Bool.or_eq_true, beq_iff_eq] at hc
  rcases hc with (rfl | rfl) | hstart
  · rfl
  · decide +kernel
  · simp [mayContinue, Unicode.isIdentifierContinue, hstart]

/-- No name goes on with a foreign character. -/
theorem not_isForeign_of_mayContinue {c : Nat} (hc : mayContinue c = true) :
    Unicode.isForeign c = false := by
  rcases Bool.or_eq_true_iff.1 hc with hdollar | hcontinue
  · rw [beq_iff_eq.1 hdollar]
    decide +kernel
  · exact Unicode.not_isForeign_of_isIdentifierContinue hcontinue

/-- No name starts with a combining mark. -/
theorem not_isDependent_of_mayStart {c : Nat} (hc : mayStart c = true) :
    Unicode.isDependent c = false := by
  simp only [mayStart, Bool.or_eq_true, beq_iff_eq] at hc
  rcases hc with (rfl | rfl) | hstart
  · decide +kernel
  · decide +kernel
  · exact (Unicode.not_isForeign_of_isIdentifierStart hstart).2

end GroupName

/-- The words for digits start like names. -/
theorem mayStart_of_digitWord? {word : String} {d : Char} (hword : digitWord? c = some word)
    (hd : d ∈ word.toList) : GroupName.mayStart d.toNat = true := by
  have hletters : word.toList.all (fun d => GroupName.mayStart d.toNat) = true := by
    unfold digitWord? at hword
    split at hword
    case h_11 => cases hword
    all_goals
      obtain rfl := Option.some.inj hword
      decide
  exact List.all_eq_true.1 hletters d hd

/-- A native name has characters that may start a name and alphabetic characters of the name that it
is made of. -/
theorem cases_of_mem_nativeGroupName (hc : c ∈ (nativeGroupName name).toList) :
    GroupName.mayStart c.toNat = true ∨ Unicode.isAlphabetic c.toNat = true ∧ c ∈ name.toList := by
  rw [nativeGroupName, String.toList_ofList, List.mem_flatMap] at hc
  rcases hc with ⟨d, hd, hpart⟩
  unfold nativeNamePart at hpart
  split at hpart
  · cases hpart
  · split at hpart
    · rw [List.mem_singleton.1 hpart]
      exact .inl (by decide)
    · split at hpart
      · next word hword => exact .inl (mayStart_of_digitWord? hword hpart)
      · split at hpart
        · next hkept =>
            obtain rfl : c = d := List.mem_singleton.1 hpart
            rcases Bool.or_eq_true_iff.1 hkept with hline | halphabetic
            · rw [beq_iff_eq.1 hline]
              exact .inl (by decide)
            · exact .inr ⟨halphabetic, hd⟩
        · cases hpart

/-- A foreign character of a name stays in its native name. -/
theorem nativeNamePart_of_isForeign (hc : Unicode.isForeign c.toNat = true) :
    nativeNamePart c = [c] := by
  have hbounds := Unicode.bounds_of_isForeign hc
  have hmeta : isMetaCharacter c = false := by
    rw [Bool.eq_false_iff]
    intro hmeta
    have hsmall : metaCharacters.all (·.toNat < 128) = true := by decide
    have hlt := of_decide_eq_true (List.all_eq_true.1 hsmall c (List.contains_iff_mem.1 hmeta))
    omega
  have hspace : Unicode.isWhiteSpace c.toNat = false := by
    simp only [Unicode.isWhiteSpace, Bool.or_eq_false_iff, Bool.and_eq_false_iff, beq_eq_false_iff_ne,
      decide_eq_false_iff_not]
    omega
  have hword : digitWord? c = none := by
    unfold digitWord?
    split
    case h_11 => rfl
    all_goals
      simp only [Char.reduceToNat] at hbounds
      omega
  rw [nativeNamePart, hmeta, hspace, hword]
  simp [Unicode.isAlphabetic_of_isForeign hc]

/-- A native name that is not empty is an identifier just if the name is usable. -/
theorem isIdentifier_nativeGroupName_iff (h : nativeGroupName name ≠ "") :
    GroupName.IsIdentifier (nativeGroupName name).toList ↔ IsUsableName name := by
  constructor
  · rintro ⟨c, rest, hname, hstart, hrest⟩
    have hcontinue : ∀ d ∈ (nativeGroupName name).toList, GroupName.mayContinue d.toNat = true := by
      rw [hname]
      exact List.forall_mem_cons.2 ⟨GroupName.mayContinue_of_mayStart hstart, hrest⟩
    refine ⟨fun d hd => ?_, fun d hd => ?_⟩
    · rw [Bool.eq_false_iff]
      intro hforeign
      have hkept : d ∈ (nativeGroupName name).toList := by
        rw [nativeGroupName, String.toList_ofList]
        exact List.mem_flatMap.2 ⟨d, hd, by simp [nativeNamePart_of_isForeign hforeign]⟩
      rw [GroupName.not_isForeign_of_mayContinue (hcontinue d hkept)] at hforeign
      cases hforeign
    · rw [hname] at hd
      obtain rfl := Option.some.inj hd
      exact GroupName.not_isDependent_of_mayStart hstart
  · rintro ⟨hforeign, hdependent⟩
    rcases List.exists_cons_of_ne_nil (mt String.toList_eq_nil_iff.1 h) with ⟨c, rest, hname⟩
    have hcases : ∀ d ∈ c :: rest, GroupName.mayStart d.toNat = true ∨
        Unicode.isAlphabetic d.toNat = true ∧ d ∈ name.toList := by
      rw [← hname]
      exact fun d hd => cases_of_mem_nativeGroupName hd
    refine ⟨c, rest, hname, ?_, fun d hd => ?_⟩
    · rcases hcases c List.mem_cons_self with hstart | ⟨halphabetic, hmem⟩
      · exact hstart
      · have hfree := hdependent c (by rw [hname]; rfl)
        have hstart := (Unicode.isIdentifierStart_iff halphabetic).2 ⟨hforeign c hmem, hfree⟩
        simp [GroupName.mayStart, hstart]
    · rcases hcases d (List.mem_cons_of_mem c hd) with hstart | ⟨halphabetic, hmem⟩
      · exact GroupName.mayContinue_of_mayStart hstart
      · have hcontinue := (Unicode.isIdentifierContinue_iff halphabetic).2 (hforeign d hmem)
        simp [GroupName.mayContinue, hcontinue]

/-! ## The combined pattern -/

/-- The fragment can be compiled; under the flags its source is accepted alone, it has no named groups
and does not refer to any. -/
def Graph.IsCapturable (g : Graph) (flags : Flags) (id : FragmentId) : Prop :=
  ∃ source r, g.source id = .ok source ∧ Regex.compile source flags = .ok r ∧
    (∀ name ∈ r.program.groups, name = none) ∧ mentionsName false source.toList = false

namespace CaptureEntry

variable {flags : Flags} {modes : Modes} {e : CaptureEntry} {entries : List CaptureEntry}

/-- The native name can be used in a pattern, and the source is accepted on its own; it has no named
groups and does not refer to any. -/
structure IsAccepted (flags : Flags) (e : CaptureEntry) : Prop where
  name : GroupName.IsIdentifier e.nativeName.toList
  source : ∃ r, Regex.compile e.source flags = .ok r ∧ ∀ name ∈ r.program.groups, name = none
  plain : mentionsName false e.source.toList = false

/-- The groups of an entry in the combined pattern. -/
def groupNames (e : CaptureEntry) : List (Option String) :=
  some e.nativeName :: GroupName.declared e.source.toList

/-- The group of an entry can stand between others. -/
theorem IsAccepted.fitsNamed (h : e.IsAccepted flags) :
    FitsNamed (Modes.ofFlags flags) e.groupNames e.group.toList := by
  rcases h.source with ⟨r, hcompile, hnames⟩
  have hsource := Fits.of_compile hcompile hnames
  have hgroup : e.group.toList =
      '(' :: (GroupName.mark e.nativeName ++ (e.source.toList ++ [')'])) := by
    simp [group, GroupName.mark]
  rw [hgroup, groupNames, hsource.declared_eq]
  exact (hsource.named h.plain).grouped hsource.head (Opens.named h.name)

/-- Only the group around the source has a name. -/
theorem IsAccepted.filterMap_groupNames (h : e.IsAccepted flags) :
    e.groupNames.filterMap id = [e.nativeName] := by
  rcases h.source with ⟨r, hcompile, hnames⟩
  simp [groupNames, (Fits.of_compile hcompile hnames).declared_eq]

theorem filterMap_flatMap_groupNames (h : ∀ e ∈ entries, e.IsAccepted flags) :
    (entries.flatMap groupNames).filterMap id = entries.map nativeName := by
  induction entries with
  | nil => rfl
  | cons e entries ih =>
      rw [List.flatMap_cons, List.filterMap_append, (h e List.mem_cons_self).filterMap_groupNames,
        ih fun e' he' => h e' (List.mem_cons_of_mem e he')]
      rfl

theorem fitsNamed_gap : FitsNamed modes [] gap.toList := by
  refine ⟨fun after _ => rfl, fun g _ _ a after _ _ => ?_⟩
  rcases exists_reads_gap g a after with ⟨p, -, hreads⟩
  exact ⟨_, hreads, ⟨rfl, rfl, rfl⟩, trivial⟩

theorem fitsNamed_beginAnchor (mode : CaptureMode) :
    FitsNamed modes [] mode.beginAnchor.toList := by
  cases mode with
  | anywhere | untilEnd => exact FitsNamed.nil
  | fromBegin | fromBeginUntilEnd => exact Fits.lineStart.named rfl

theorem fitsNamed_endAnchor (mode : CaptureMode) : FitsNamed modes [] mode.endAnchor.toList := by
  cases mode with
  | anywhere | fromBegin => exact FitsNamed.nil
  | untilEnd | fromBeginUntilEnd => exact Fits.lineEnd.named rfl

theorem stops_endAnchor (mode : CaptureMode) : Stops mode.endAnchor.toList := by
  cases mode with
  | anywhere | fromBegin => exact Stops.nil
  | untilEnd | fromBeginUntilEnd => simp [CaptureMode.endAnchor, Stops]

/-- The entries behind the first one. -/
theorem fitsNamed_tail (strict : Bool) (h : ∀ e ∈ entries, e.IsAccepted flags) :
    FitsNamed (Modes.ofFlags flags) (entries.flatMap groupNames) (tail strict entries) ∧
      Stops (tail strict entries) := by
  refine FitsNamed.flatMap (fun e he => ?_) fun e _ => ?_
  · have hgroup := (h e he).fitsNamed
    cases strict with
    | true => exact hgroup
    | false =>
        have hstops : Stops e.group.toList := by simp [group, Stops]
        exact fitsNamed_gap.append hgroup hstops
  · cases strict <;> simp [group, gap, Stops]

/-- The combined pattern of entries with different native names is accepted. -/
theorem exists_compile_pattern (options : CaptureOptions) (h : ∀ e ∈ entries, e.IsAccepted flags)
    (hne : entries ≠ []) (hnames : (entries.map nativeName).Nodup) :
    ∃ r, Regex.compile (pattern options entries) flags = .ok r := by
  rcases List.exists_cons_of_ne_nil hne with ⟨e, rest, rfl⟩
  rcases fitsNamed_tail options.strict fun e' he' => h e' (List.mem_cons_of_mem e he') with
    ⟨htail, hstops⟩
  have hend := stops_endAnchor options.mode
  have hgroups := ((h e List.mem_cons_self).fitsNamed.append htail hstops).append
    (fitsNamed_endAnchor options.mode) hend
  have hfits := (fitsNamed_beginAnchor options.mode).append hgroups (by simp [group, Stops])
  have htext : pattern options (e :: rest) = String.ofList (options.mode.beginAnchor.toList ++
      (e.group.toList ++ tail options.strict rest ++ options.mode.endAnchor.toList)) := by
    refine String.toList_injective ?_
    rw [pattern, String.toList_append, String.toList_append, toList_intercalate, String.toList_ofList,
      List.append_assoc]
  have hnodup : (([] ++ (e.groupNames ++ rest.flatMap groupNames ++ [])).filterMap id).Nodup := by
    rw [List.nil_append, List.append_nil, ← List.flatMap_cons, filterMap_flatMap_groupNames h]
    exact hnames
  rw [htext]
  rcases hfits.compile hnodup with ⟨r, hr, -⟩
  exact ⟨r, hr⟩

/-- Groups that can be compiled have entries if their native names are different. -/
theorem exists_ofGroups {g : Graph} {taken : List String} {groups : List (String × FragmentId)}
    (hgroups : ∀ group ∈ groups, nativeGroupName group.1 ≠ "" ∧
      ∃ source, g.source group.2 = .ok source)
    (hnames : (groups.map fun group => nativeGroupName group.1).Nodup)
    (htaken : ∀ group ∈ groups, nativeGroupName group.1 ∉ taken) :
    ∃ entries, ofGroups g taken groups = .ok entries := by
  induction groups generalizing taken with
  | nil => exact ⟨[], rfl⟩
  | cons group groups ih =>
      rcases group with ⟨name, id⟩
      rcases hgroups _ List.mem_cons_self with ⟨hname, source, hsource⟩
      have hfree : ¬ taken.contains (nativeGroupName name) = true :=
        fun htaken' => htaken _ List.mem_cons_self (List.contains_iff_mem.1 htaken')
      rw [List.map_cons, List.nodup_cons] at hnames
      have hrest : ∀ group ∈ groups, nativeGroupName group.1 ∉ nativeGroupName name :: taken := by
        intro group hgroup hmem
        rcases List.mem_cons.1 hmem with heq | hmem
        · exact hnames.1 (List.mem_map.2 ⟨group, hgroup, heq⟩)
        · exact htaken group (List.mem_cons_of_mem _ hgroup) hmem
      rcases ih (fun group hgroup => hgroups group (List.mem_cons_of_mem _ hgroup)) hnames.2 hrest with
        ⟨entries, hentries⟩
      refine ⟨⟨name, nativeGroupName name, source, (g.node id).skipped⟩ :: entries, ?_⟩
      simp only [ofGroups, if_neg hname, if_neg hfree, hsource, hentries]
      rfl

/-- The entry of a group that is accepted on its own. -/
theorem IsEntryOf.isAccepted {g : Graph} {group : String × FragmentId} (h : IsEntryOf g group e)
    (hname : IsUsableName group.1) (hgroup : g.IsCapturable flags group.2) : e.IsAccepted flags := by
  rcases hgroup with ⟨source, r, hsource, hcompile, hnames, hplain⟩
  obtain rfl := Except.ok.inj (h.source.symm.trans hsource)
  refine ⟨?_, ⟨r, hcompile, hnames⟩, hplain⟩
  rw [h.nativeName]
  exact (isIdentifier_nativeGroupName_iff (h.nativeName ▸ h.nonempty)).2 hname

/-- The entries of such groups. -/
theorem isAccepted_of_forall₂ {g : Graph} {groups : List (String × FragmentId)}
    (h : List.Forall₂ (IsEntryOf g) groups entries)
    (hgroups : ∀ group ∈ groups, IsUsableName group.1 ∧ g.IsCapturable flags group.2) :
    (∀ e ∈ entries, e.IsAccepted flags) ∧
      entries.map nativeName = groups.map fun group => nativeGroupName group.1 := by
  induction h with
  | nil => exact ⟨fun e he => (List.not_mem_nil he).elim, rfl⟩
  | @cons group e groups entries hentry _ ih =>
      rcases hgroups group List.mem_cons_self with ⟨hname, hgroup⟩
      rcases ih fun group hgroup => hgroups group (List.mem_cons_of_mem _ hgroup) with
        ⟨haccepted, hnames⟩
      refine ⟨List.forall_mem_cons.2 ⟨hentry.isAccepted hname hgroup, haccepted⟩, ?_⟩
      rw [List.map_cons, List.map_cons, hnames, hentry.nativeName]

end CaptureEntry

namespace Graph

variable {g : Graph}

/-- Groups that can be compiled have flags under which they are captured. -/
theorem exists_captureFlags (options : CaptureOptions) (default : Option Flags)
    {ids : List FragmentId} (h : ∀ id ∈ ids, ∃ source, g.source id = .ok source) :
    ∃ flags, g.captureFlags options default ids = .ok flags := by
  unfold captureFlags
  cases options.flags.or default with
  | some flags => exact ⟨_, rfl⟩
  | none =>
      cases hall : ids.mapM (g.resolveFlags · none none) with
      | ok fss => exact ⟨_, rfl⟩
      | error cause =>
          rcases exists_of_mapM_eq_error hall with ⟨id, hid, herror⟩
          rcases h id hid with ⟨source, hsource⟩
          rcases exists_resolveFlags_of_source hsource none none with ⟨flags, hflags⟩
          rw [hflags] at herror
          cases herror

/-- A native name is empty or, if the name is usable and only then, an identifier.  Groups with usable
names, of which no two have one native name and none an empty one, are captured without a failure in
every text, with gaps or without, and between all anchors, if their sources are accepted one by one
under the flags of the capture. -/
theorem capture_succeeds (g : Graph) (text : String) (groups : NameTable) (options : CaptureOptions)
    (default : Option Flags) :
    (∀ name, nativeGroupName name = "" ∨
      (GroupName.IsIdentifier (nativeGroupName name).toList ↔ IsUsableName name)) ∧
    ((∀ name ∈ groups.names, nativeGroupName name ≠ "" ∧ IsUsableName name) →
      (groups.names.map nativeGroupName).Nodup →
      (∀ id ∈ groups.fragments, ∃ source, g.source id = .ok source) →
      (∀ flags, g.captureFlags options default groups.fragments = .ok flags →
        ∀ id ∈ groups.fragments, g.IsCapturable flags id) →
      ∃ records, g.capture text groups options default = .ok records) := by
  refine ⟨fun name => ?_, fun hnames hnodup hsources hcapturable => ?_⟩
  · by_cases hempty : nativeGroupName name = ""
    · exact .inl hempty
    · exact .inr (isIdentifier_nativeGroupName_iff hempty)
  rcases exists_captureFlags options default hsources with ⟨flags, hflags⟩
  have hname : ∀ group ∈ groups.entries, nativeGroupName group.1 ≠ "" ∧ IsUsableName group.1 :=
    fun group hgroup => hnames _ (List.mem_map_of_mem hgroup)
  have hcapture : ∀ group ∈ groups.entries, g.IsCapturable flags group.2 :=
    fun group hgroup => hcapturable flags hflags _ (List.mem_map_of_mem hgroup)
  have hnative : (groups.entries.map fun group => nativeGroupName group.1).Nodup := by
    rwa [NameTable.names, List.map_map] at hnodup
  have hfree : ∀ group ∈ groups.entries, nativeGroupName group.1 ∉ ([] : List String) :=
    fun _ _ => List.not_mem_nil
  rcases CaptureEntry.exists_ofGroups
    (fun group hgroup => ⟨(hname group hgroup).1, hsources _ (List.mem_map_of_mem hgroup)⟩) hnative
    hfree with ⟨entries, hentries⟩
  have hforall := CaptureEntry.forall₂_ofGroups hentries
  rcases CaptureEntry.isAccepted_of_forall₂ hforall
    fun group hgroup => ⟨(hname group hgroup).2, hcapture group hgroup⟩ with ⟨haccepted, hmap⟩
  unfold capture
  split
  · exact ⟨[], rfl⟩
  · next hne =>
      have hentriesNe : entries ≠ [] := by
        rintro rfl
        exact hne (List.forall₂_nil_right_iff.1 hforall)
      rcases CaptureEntry.exists_compile_pattern options haccepted hentriesNe (hmap ▸ hnative) with
        ⟨r, hcompile⟩
      refine ⟨CaptureEntry.readMatches r options.strict entries (r.capturesIn text)
        (CharCursor.start text.toList), ?_⟩
      simp only [hentries, hflags, hcompile, bind, Except.bind]
      rfl

/-- The groups of a price have usable names. -/
theorem capture_succeeds_prices : ∃ records,
    prices.capture "€7, £ 33" priceGroups { flags := some ∅ } none = .ok records := by
  refine (capture_succeeds prices "€7, £ 33" priceGroups { flags := some ∅ } none).2 ?_ ?_ ?_ ?_
  · have husable : ∀ name ∈ priceGroups.names, nativeGroupName name ≠ "" ∧
        name.toList.all (fun c => !Unicode.isForeign c.toNat) = true ∧
          (nativeGroupName name).toList.head?.all (fun c => !Unicode.isDependent c.toNat) = true := by
      decide +kernel
    intro name hname
    rcases husable name hname with ⟨hne, hforeign, hdependent⟩
    exact ⟨hne, fun c hc => by simpa using List.all_eq_true.1 hforeign c hc,
      fun c hc => by simpa using (Option.all_eq_true _ _).1 hdependent c hc⟩
  · decide +kernel
  · intro id hid
    simp only [priceGroups, NameTable.fragments, List.map_cons, List.map_nil, List.mem_cons,
      List.not_mem_nil, or_false] at hid
    rcases hid with rfl | rfl | rfl <;> exact ⟨_, rfl⟩
  · intro flags hflags id hid
    obtain rfl : Flags.withGlobal ∅ = flags := Except.ok.inj hflags
    simp only [priceGroups, NameTable.fragments, List.map_cons, List.map_nil, List.mem_cons,
      List.not_mem_nil, or_false] at hid
    rcases hid with rfl | rfl | rfl <;> exact ⟨_, _, rfl, rfl, by decide, by decide⟩

/-- The letter in a circle is alphabetic and stays in the native name, and no group can have such a
name. -/
theorem capture_rejects :
    let g : Graph := ⟨#[{ kind := .native (.ofSource "a") }]⟩
    let groups : NameTable := ⟨[("xⓐ", ⟨0⟩)]⟩
    nativeGroupName "xⓐ" = "xⓐ" ∧ ¬ GroupName.IsIdentifier "xⓐ".toList ∧
      g.IsCapturable (Flags.withGlobal ∅) ⟨0⟩ ∧
      g.capture "a" groups {} none =
        .error (.invalidPattern "(?<xⓐ>a)" .invalidGroupName) := by
  intro g groups
  refine ⟨by decide +kernel, ?_, ⟨"a", _, rfl, rfl, by decide, by decide⟩, ?_⟩
  · rintro ⟨c, rest, hname, -, hrest⟩
    obtain rfl : ['ⓐ'] = rest := (List.cons.inj hname).2
    exact absurd (hrest 'ⓐ' List.mem_cons_self) (by decide +kernel)
  · have herror : (match g.capture "a" groups {} none with
        | .ok _ => none
        | .error cause => some cause) =
          some (.invalidPattern "(?<xⓐ>a)" .invalidGroupName) := by decide +kernel
    cases hcapture : g.capture "a" groups {} none with
    | ok records =>
        rw [hcapture] at herror
        cases herror
    | error cause =>
        rw [hcapture] at herror
        exact congrArg Except.error (Option.some.inj herror)

end Graph

end RegexComposition

import RegexComposition.Proofs.Capture.Cursor
import RegexComposition.Proofs.Capture.Segments
import RegexComposition.Proofs.Pattern.Passage
import RegexComposition.Proofs.Regex.GroupNames
import RegexComposition.Proofs.Regex.Occurrences

/-!
# Captured groups tile their match

The records of a capture add up lengths, and never look at where a group really is.  They are right
because the groups of every match lie one behind the other, without gaps if they have to be
adjacent.

Main results:

- `Tiles`: spans that lie one behind the other.
- `Segments.exists_tiles`: the groups of a match do.
- `CaptureRecord.Describes`: what a record says about a match.
- `Graph.capture_describes`: every record describes its match.
-/

namespace RegexComposition

/-! ## Spans one behind the other -/

/-- The spans lie one behind the other between two positions, without gaps if `strict`. -/
def Tiles (strict : Bool) : Nat → List Span → Nat → Prop
  | i, [], j => i ≤ j ∧ (strict = true → i = j)
  | i, s :: spans, j => i ≤ s.start ∧ (strict = true → i = s.start) ∧ s.start ≤ s.stop ∧
      Tiles strict s.stop spans j

namespace Tiles

variable {strict : Bool} {i j k : Nat} {s : Span} {spans : List Span}

/-- Without gaps the begin is fixed, otherwise it can lie further left. -/
theorem of_le (h : Tiles strict j spans k) (hij : i ≤ j) (heq : strict = true → i = j) :
    Tiles strict i spans k := by
  cases spans with
  | nil => exact ⟨Nat.le_trans hij h.1, fun hs => (heq hs).trans (h.2 hs)⟩
  | cons s spans =>
      exact ⟨Nat.le_trans hij h.1, fun hs => (heq hs).trans (h.2.1 hs), h.2.2⟩

/-- The end is not in front of the begin. -/
theorem le (h : Tiles strict i spans j) : i ≤ j := by
  induction spans generalizing i with
  | nil => exact h.1
  | cons s spans ih =>
      rcases h with ⟨hstart, _, hspan, hrest⟩
      have hstop := ih hrest
      omega

/-- Every span lies between the begin and the end. -/
theorem of_mem (h : Tiles strict i spans j) (hs : s ∈ spans) : s.start ≤ s.stop ∧ s.stop ≤ j := by
  induction spans generalizing i with
  | nil => cases hs
  | cons s' spans ih =>
      rcases h with ⟨_, _, hspan, hrest⟩
      rcases List.mem_cons.1 hs with rfl | hs
      · exact ⟨hspan, hrest.le⟩
      · exact ih hrest hs

end Tiles

/-! ## The groups of a match -/

/-- A term that is a gap is passed without a group, and only gaps read characters. -/
theorem exists_leads_of_gap {t : Text} {strict : Bool} {p : Pattern} (hgroups : p.groups = [])
    (hassertion : strict = true → ∃ a, p = .assertion a) {k : Continuation} {q r : Place}
    (hrun : p.run t .forward k q = some r) :
    ∃ q', k q' = some r ∧ q.Leads t .forward [] q' ∧
      (strict = true → q.position = q'.position) := by
  cases strict with
  | true =>
      rcases hassertion rfl with ⟨a, rfl⟩
      rw [Pattern.run] at hrun
      split at hrun
      · exact ⟨q, hrun, Place.Leads.refl t .forward [] q, fun _ => rfl⟩
      · cases hrun
  | false =>
      rcases Pattern.resumes_of_run hrun with ⟨q', hq', hleads⟩
      rw [hgroups] at hleads
      exact ⟨q', hq', hleads, fun hs => absurd hs Bool.false_ne_true⟩

/-- The terms are passed one by one, and each group records the span that it has passed. -/
theorem Segments.exists_tiles {t : Text} {strict : Bool} {indices : List Nat}
    {terms : List Pattern} (h : Segments strict indices terms)
    (hnodup : (terms.flatMap Pattern.groups).Nodup) {k : Continuation} {q r : Place}
    (hrun : (Pattern.sequence terms).run t .forward k q = some r) :
    ∃ q' spans, k q' = some r ∧ q.Leads t .forward (terms.flatMap Pattern.groups) q' ∧
      Tiles strict q.position spans q'.position ∧
      List.Forall₂ (fun i s => q'.captures.get? i = some s) indices spans := by
  induction h generalizing q with
  | nil =>
      exact ⟨q, [], hrun, Place.Leads.refl t .forward _ q, ⟨Nat.le_refl _, fun _ => rfl⟩,
        List.Forall₂.nil⟩
  | @gap p indices terms hp hassertion _ ih =>
      have hgroups : (p :: terms).flatMap Pattern.groups = terms.flatMap Pattern.groups := by
        rw [List.flatMap_cons, hp, List.nil_append]
      rw [hgroups] at hnodup ⊢
      rcases exists_leads_of_gap hp hassertion hrun with ⟨q₁, hq₁, hleads, hposition⟩
      rcases ih hnodup hq₁ with ⟨q', spans, hq', hleads', htiles, hcaptures⟩
      exact ⟨q', spans, hq', (hleads.mono nofun).trans hleads',
        htiles.of_le hleads.ordered hposition, hcaptures⟩
  | @group i body indices terms _ ih =>
      rw [List.flatMap_cons, Pattern.groups] at hnodup ⊢
      rcases List.nodup_append.1 hnodup with ⟨_, hrest, hdisjoint⟩
      have hi : i ∉ terms.flatMap Pattern.groups :=
        fun hmem => hdisjoint i List.mem_cons_self i hmem rfl
      rcases Pattern.resumes_of_run (p := body) hrun with ⟨q₁, hq₁, hleads⟩
      rcases ih hrest hq₁ with ⟨q', spans, hq', hleads', htiles, hcaptures⟩
      have hspan : q'.captures.get? i = some ⟨q.position, q₁.position⟩ := by
        rw [hleads'.captures i hi]
        exact Captures.get?_record_self _ _ _
      refine ⟨q', ⟨q.position, q₁.position⟩ :: spans, hq', ?_,
        ⟨Nat.le_refl _, fun _ => rfl, hleads.ordered, htiles⟩, List.Forall₂.cons hspan hcaptures⟩
      exact ((hleads.record i q).mono fun j hj => List.mem_append_left _ hj).trans
        (hleads'.mono fun j hj => List.mem_append_right _ hj)

/-! ## Looking up a group -/

/-- A name that occurs only once is found where it stands. -/
theorem Program.groupIndex?_eq {p : Program} (hnodup : (p.groups.filterMap id).Nodup) {k : Nat}
    {name : String} (hk : p.groups[k]? = some (some name)) :
    p.groupIndex? name = some (k + 1) := by
  rw [groupIndex?]
  cases hfind : p.groups.findIdx? (· == some name) with
  | none =>
      have hmem : some name ∈ p.groups := List.mem_of_getElem? hk
      have hne := List.findIdx?_eq_none_iff.1 hfind (some name) hmem
      simp at hne
  | some j =>
      rcases List.findIdx?_eq_some_iff_getElem.1 hfind with ⟨hj, hname, _⟩
      have hjname : p.groups[j]? = some (some name) := by
        rw [List.getElem?_eq_getElem hj]
        exact congrArg some (eq_of_beq hname)
      obtain rfl : j = k := eq_of_nodup_filterMap hnodup hjname hk
      rfl

namespace CaptureEntry

variable {r : Regex} {t : Text} {o : Occurrence} {e : CaptureEntry} {s : Span}
variable {strict : Bool} {entries : List CaptureEntry} {spans : List Span}

/-- In the match, the group of the entry has taken part with the given span. -/
def HasSpan (r : Regex) (t : Text) (o : Occurrence) (e : CaptureEntry) (s : Span) : Prop :=
  ∃ name, find? r (r.groupsOf t o) e = some (Match.ofSpan t name s)

/-- A group with a number has the span that was recorded under this number. -/
theorem hasSpan_of_isNumbered (hnodup : (r.program.groups.filterMap id).Nodup) {i : Nat}
    (hnumber : IsNumbered r.program.groups e i) (hcapture : o.captures.get? i = some s) :
    HasSpan r t o e s := by
  rcases hnumber with ⟨k, rfl, hk⟩
  have hlt : k < r.program.groups.length := (List.getElem?_eq_some_iff.1 hk).1
  refine ⟨r.groupNames[k]?.join, ?_⟩
  rw [find?, Program.groupIndex?_eq hnodup hk, Option.bind_some, Regex.get?_groupsOf hlt, hcapture]
  rfl

/-- What is recorded of the spans of all entries. -/
def recorded (t : Text) (entries : List CaptureEntry) (spans : List Span) :
    List (String × GroupMatch) :=
  ((entries.zip spans).filter fun e => !e.1.skipped).map fun e =>
    (e.1.name, ⟨t.slice e.2, e.2.stop, e.2.length⟩)

/-- The text of a span has as many characters as the span. -/
theorem length_slice (hs : s.stop ≤ t.size) : (t.slice s).length = s.length := by
  have hsize : s.stop ≤ t.chars.size := hs
  simp only [Text.slice, Text.charsOf, Span.length, String.length_ofList, Array.length_toList,
    Array.size_extract]
  omega

/-- The running offset is at the end of each group when the group is recorded. -/
theorem readGroups_eq {groupOf : CaptureEntry → Option Match} {i j : Nat} {cursor : CharCursor}
    (hgroups : List.Forall₂ (fun e s => ∃ name, groupOf e = some (Match.ofSpan t name s))
      entries spans)
    (htiles : Tiles strict i spans j) (hj : j ≤ t.size) (hcursor : cursor.IsAt t) :
    (readGroups strict groupOf entries i cursor).1 = recorded t entries spans ∧
      (readGroups strict groupOf entries i cursor).2.IsAt t := by
  induction hgroups generalizing i cursor with
  | nil => exact ⟨rfl, hcursor⟩
  | @cons e s entries spans hfound _ ih =>
      rcases hfound with ⟨name, hfound⟩
      rcases htiles with ⟨hstart, hadjacent, hspan, hrest⟩
      have hstop : s.stop ≤ t.size := Nat.le_trans hrest.le hj
      have hlength : (t.slice s).length = s.length := length_slice hstop
      have hnext : ∃ next, (if strict then (i + (t.slice s).length, cursor)
          else cursor.offsetOf (t.byteOffset s.stop)) = (s.stop, next) ∧ next.IsAt t := by
        cases strict with
        | true =>
            have hoffset : i + (t.slice s).length = s.stop := by
              rw [hlength, hadjacent rfl, Span.length]
              omega
            exact ⟨cursor, by rw [if_pos rfl, hoffset], hcursor⟩
        | false =>
            rcases CharCursor.offsetOf_byteOffset hcursor hstop with ⟨hoffset, hnext⟩
            exact ⟨_, Prod.ext hoffset rfl, hnext⟩
      rcases hnext with ⟨next, hnext, hcursor'⟩
      rcases ih hrest hcursor' with ⟨hrecorded, hend⟩
      rw [readGroups, hfound]
      simp only [Match.ofSpan, Option.map_some, Option.getD_some, hnext]
      refine ⟨?_, hend⟩
      rw [hrecorded, hlength]
      cases hskipped : e.skipped with
      | true => simp [recorded, hskipped]
      | false => simp [recorded, hskipped]

/-- The groups of a match lie one behind the other and are recorded as they lie. -/
structure Reports (r : Regex) (t : Text) (strict : Bool) (entries : List CaptureEntry)
    (o : Occurrence) (spans : List Span) : Prop where
  tiles : Tiles strict o.span.start spans o.span.stop
  hasSpan : List.Forall₂ (HasSpan r t o) entries spans
  bounded : o.span.stop ≤ t.size

/-- With one cursor all matches are recorded as they lie, at spans of which more may be known. -/
theorem forall₂_readMatches {P : Occurrence → List Span → Prop} {occurrences : List Occurrence}
    {cursor : CharCursor} (hP : ∀ o spans, P o spans → Reports r t strict entries o spans)
    (h : ∀ o ∈ occurrences, ∃ spans, P o spans) (hcursor : cursor.IsAt t) :
    List.Forall₂ (fun o record => ∃ spans, P o spans ∧ record.groups = recorded t entries spans)
      occurrences (readMatches r strict entries (occurrences.map (r.groupsOf t)) cursor) := by
  induction occurrences generalizing cursor with
  | nil => exact List.Forall₂.nil
  | cons o occurrences ih =>
      rcases h o List.mem_cons_self with ⟨spans, hspans⟩
      have hreports := hP o spans hspans
      have hstart : o.span.start ≤ t.size := Nat.le_trans hreports.tiles.le hreports.bounded
      rcases CharCursor.offsetOf_byteOffset hcursor hstart with ⟨hoffset, hnext⟩
      rcases readGroups_eq hreports.hasSpan hreports.tiles hreports.bounded hnext with
        ⟨hrecorded, hend⟩
      have hrest := ih (fun o' ho' => h o' (List.mem_cons_of_mem o ho')) hend
      have hfirst : (((r.groupsOf t o).get? 0).map (·.start)).getD 0 =
          t.byteOffset o.span.start := rfl
      rw [List.map_cons, readMatches, hfirst]
      simp only [hoffset]
      exact List.Forall₂.cons ⟨spans, hspans, hrecorded⟩ hrest

/-- With one cursor all matches are recorded as they lie. -/
theorem readMatches_eq {occurrences : List Occurrence} {cursor : CharCursor}
    (h : ∀ o ∈ occurrences, ∃ spans, Reports r t strict entries o spans) (hcursor : cursor.IsAt t) :
    List.Forall₂ (fun o record => ∃ spans, Reports r t strict entries o spans ∧
        record.groups = recorded t entries spans) occurrences
      (readMatches r strict entries (occurrences.map (r.groupsOf t)) cursor) :=
  forall₂_readMatches (fun _ _ hreports => hreports) h hcursor

/-- The groups with the numbers of the entries have the spans recorded under these numbers. -/
theorem forall₂_hasSpan {indices : List Nat} (hnodup : (r.program.groups.filterMap id).Nodup)
    (hnumbers : List.Forall₂ (IsNumbered r.program.groups) entries indices)
    (hcaptures : List.Forall₂ (fun i s => o.captures.get? i = some s) indices spans) :
    List.Forall₂ (HasSpan r t o) entries spans := by
  induction hnumbers generalizing spans with
  | nil =>
      cases hcaptures
      exact List.Forall₂.nil
  | cons hnumber _ ih =>
      cases hcaptures with
      | cons hcapture hcaptures =>
          exact List.Forall₂.cons (hasSpan_of_isNumbered hnodup hnumber hcapture) (ih hcaptures)

/-- The matches of a sequence of groups report them. -/
theorem exists_reports {terms : List Pattern} {indices : List Nat}
    (hnodup : (r.program.groups.filterMap id).Nodup)
    (hgroups : r.program.pattern.groups.Nodup)
    (hpattern : r.program.pattern = Pattern.sequence terms)
    (hsegments : Segments strict indices terms)
    (hnumbers : List.Forall₂ (IsNumbered r.program.groups) entries indices)
    (ho : o.IsMatchOf r.program.pattern t) : ∃ spans, Reports r t strict entries o spans := by
  have hfound := ho.found
  rw [hpattern, Pattern.groups_sequence] at hgroups
  rw [hpattern, Pattern.matchAt] at hfound
  rcases hsegments.exists_tiles hgroups hfound with ⟨q, spans, hq, hleads, htiles, hcaptures⟩
  obtain rfl : q = ⟨o.span.stop, o.captures⟩ := Option.some.inj hq
  exact ⟨spans, htiles, forall₂_hasSpan hnodup hnumbers hcaptures, hleads.bounded ho.bounded⟩

/-- All matches of a pattern of entries report them. -/
theorem reports_of_compile {options : CaptureOptions} {flags : Flags} (hne : entries ≠ [])
    (hencloses : ∀ e ∈ entries, e.Encloses)
    (h : Regex.compile (pattern options entries) flags = .ok r) :
    ∀ o ∈ r.occurrences t, ∃ spans, Reports r t options.strict entries o spans := by
  intro o ho
  rcases exists_segments hne hencloses h with ⟨terms, indices, hpattern, hsegments, hnumbers⟩
  have hread := (Regex.of_compile h).1
  rcases Program.read_eq_ok_iff.1 hread with ⟨_, hnodup, _⟩
  have hgroups : r.program.pattern.groups.Nodup := by
    rw [Program.groups_pattern hread]
    exact List.nodup_range'
  exact exists_reports hnodup hgroups hpattern hsegments hnumbers
    (Regex.isMatchOf_of_mem_occurrences ho)

/-! ## Entries -/

/-- The entry belongs to the registered group. -/
structure IsEntryOf (g : Graph) (group : String × FragmentId) (e : CaptureEntry) : Prop where
  name : e.name = group.1
  nativeName : e.nativeName = nativeGroupName group.1
  nonempty : e.nativeName ≠ ""
  source : g.source group.2 = .ok e.source
  skipped : e.skipped = (g.node group.2).skipped

/-- There is an entry for every registered group. -/
theorem forall₂_ofGroups {g : Graph} {taken : List String} {groups : List (String × FragmentId)}
    (h : ofGroups g taken groups = .ok entries) : List.Forall₂ (IsEntryOf g) groups entries := by
  induction groups generalizing taken entries with
  | nil =>
      obtain rfl := Except.ok.inj h
      exact List.Forall₂.nil
  | cons group groups ih =>
      rcases group with ⟨name, id⟩
      simp only [ofGroups] at h
      by_cases hname : nativeGroupName name = ""
      · rw [if_pos hname] at h
        cases h
      · by_cases htaken : taken.contains (nativeGroupName name)
        · rw [if_neg hname, if_pos htaken] at h
          cases h
        · rw [if_neg hname, if_neg htaken] at h
          cases hsource : g.source id with
          | error cause =>
              rw [hsource] at h
              cases h
          | ok source =>
              rw [hsource] at h
              cases hrest : ofGroups g (nativeGroupName name :: taken) groups with
              | error cause =>
                  rw [hrest] at h
                  cases h
              | ok rest =>
                  rw [hrest] at h
                  obtain rfl := Except.ok.inj h
                  exact List.Forall₂.cons ⟨rfl, rfl, hname, hsource, rfl⟩ (ih hrest)

/-- The entry is one that a combined pattern can enclose, if its source is accepted on its own. -/
theorem encloses_of_isEntryOf {g : Graph} {group : String × FragmentId} {flags : Flags}
    (h : IsEntryOf g group e)
    (hsource : ∀ source, g.source group.2 = .ok source → ∃ r, Regex.compile source flags = .ok r) :
    e.Encloses := by
  rcases hsource e.source h.source with ⟨r, hr⟩
  refine ⟨h.nonempty, fun c hc => ?_, closes_of_compile hr⟩
  rw [h.nativeName] at hc
  exact isPlainInName_of_nativeGroupName hc

/-- All entries can be enclosed if their sources are accepted one by one. -/
theorem encloses_of_forall₂ {g : Graph} {groups : List (String × FragmentId)} {flags : Flags}
    (h : List.Forall₂ (IsEntryOf g) groups entries)
    (hgroups : ∀ group ∈ groups, ∀ source, g.source group.2 = .ok source →
      ∃ r, Regex.compile source flags = .ok r) : ∀ e ∈ entries, e.Encloses := by
  induction h with
  | nil =>
      intro e he
      cases he
  | @cons group e groups entries hentry _ ih =>
      intro e' he'
      rcases List.mem_cons.1 he' with rfl | he'
      · exact encloses_of_isEntryOf hentry (hgroups group List.mem_cons_self)
      · exact ih (fun group hgroup => hgroups group (List.mem_cons_of_mem _ hgroup)) e' he'

/-- The recorded names are those of the groups that are not skipped. -/
theorem names_recorded {g : Graph} {groups : List (String × FragmentId)}
    (h : List.Forall₂ (IsEntryOf g) groups entries) (hspans : entries.length = spans.length) :
    (recorded t entries spans).map (·.1) =
      (groups.filter fun group => !(g.node group.2).skipped).map (·.1) := by
  induction h generalizing spans with
  | nil => rfl
  | @cons group e groups entries hentry _ ih =>
      cases spans with
      | nil => cases hspans
      | cons s spans =>
          have hrest := ih (Nat.succ.inj hspans)
          simp only [recorded] at hrest
          cases hskipped : e.skipped with
          | true =>
              have hgroup : (g.node group.2).skipped = true := hentry.skipped ▸ hskipped
              simp [recorded, hskipped, hgroup, hrest]
          | false =>
              have hgroup : (g.node group.2).skipped = false := hentry.skipped ▸ hskipped
              simp [recorded, hskipped, hgroup, hrest, hentry.name]

end CaptureEntry

/-! ## Captures -/

/-- The length and the offset are those of the text in front of the offset. -/
structure GroupMatch.IsExact (m : GroupMatch) (t : Text) : Prop where
  length : m.length = m.value.length
  inside : m.length ≤ m.index ∧ m.index ≤ t.size
  value : m.value = t.slice ⟨m.index - m.length, m.index⟩

/-- What is recorded of spans in a text is exact. -/
theorem CaptureEntry.isExact_of_mem_recorded {t : Text} {strict : Bool}
    {entries : List CaptureEntry} {spans : List Span} {i j : Nat} {name : String} {m : GroupMatch}
    (htiles : Tiles strict i spans j) (hj : j ≤ t.size)
    (hm : (name, m) ∈ recorded t entries spans) : m.IsExact t := by
  rcases List.mem_map.1 hm with ⟨⟨e, s⟩, hmem, heq⟩
  rcases Prod.mk.inj heq with ⟨_, rfl⟩
  have hs : s ∈ spans := (List.of_mem_zip (List.mem_filter.1 hmem).1).2
  rcases htiles.of_mem hs with ⟨hspan, hstop⟩
  have hbounded : s.stop ≤ t.size := Nat.le_trans hstop hj
  have hstart : s.stop - s.length = s.start := by
    rw [Span.length]
    omega
  refine ⟨(length_slice hbounded).symm, ⟨Nat.sub_le _ _, hbounded⟩, ?_⟩
  dsimp only
  rw [hstart]

/-- What a record says about a match: it has the groups that are not skipped, in order, each with
its exact text and offset, and these are the groups of the match, which lie one behind the
other. -/
structure CaptureRecord.Describes (record : CaptureRecord) (g : Graph)
    (groups : List (String × FragmentId)) (strict : Bool) (r : Regex) (t : Text)
    (entries : List CaptureEntry) (o : Occurrence) : Prop where
  names : record.names = (groups.filter fun group => !(g.node group.2).skipped).map (·.1)
  exact : ∀ name m, (name, m) ∈ record.groups → m.IsExact t
  reports : ∃ spans, CaptureEntry.Reports r t strict entries o spans ∧
    record.groups = CaptureEntry.recorded t entries spans

namespace Graph

variable {g : Graph} {text : String} {groups : NameTable} {options : CaptureOptions}
variable {default : Option Flags} {flags : Flags} {records : List CaptureRecord}

/-- What a successful capture has gone through. -/
theorem exists_of_capture (hne : groups.entries ≠ [])
    (hflags : g.captureFlags options default groups.fragments = .ok flags)
    (h : g.capture text groups options default = .ok records) :
    ∃ entries combined, CaptureEntry.ofGroups g [] groups.entries = .ok entries ∧
      Regex.compile (CaptureEntry.pattern options entries) flags = .ok combined ∧
      records = CaptureEntry.readMatches combined options.strict entries
        (combined.capturesIn text) (CharCursor.start text.toList) := by
  unfold capture at h
  split at h
  · next hnil => exact absurd hnil hne
  · rw [hflags] at h
    cases hentries : CaptureEntry.ofGroups g [] groups.entries with
    | error cause =>
        rw [hentries] at h
        cases h
    | ok entries =>
        rw [hentries] at h
        cases hcombined : Regex.compile (CaptureEntry.pattern options entries) flags with
        | error cause =>
            simp only [bind, Except.bind, hcombined] at h
            cases h
        | ok combined =>
            simp only [bind, Except.bind, hcombined] at h
            exact ⟨entries, combined, rfl, hcombined, (Except.ok.inj h).symm⟩

/-- Capturing groups that are accepted one by one gives one record for each match of the combined
pattern, and the record describes the match. -/
theorem capture_describes (hne : groups.entries ≠ [])
    (hflags : g.captureFlags options default groups.fragments = .ok flags)
    (hgroups : ∀ group ∈ groups.entries, ∀ source, g.source group.2 = .ok source →
      ∃ r, Regex.compile source flags = .ok r)
    (h : g.capture text groups options default = .ok records) :
    ∃ entries combined, CaptureEntry.ofGroups g [] groups.entries = .ok entries ∧
      Regex.compile (CaptureEntry.pattern options entries) flags = .ok combined ∧
      List.Forall₂ (fun o record => CaptureRecord.Describes record g groups.entries options.strict
          combined (Text.ofString text) entries o)
        (combined.occurrences (Text.ofString text)) records := by
  rcases exists_of_capture hne hflags h with ⟨entries, combined, hentries, hcombined, rfl⟩
  have hforall := CaptureEntry.forall₂_ofGroups hentries
  have hentriesNe : entries ≠ [] := by
    rintro rfl
    exact hne (List.forall₂_nil_right_iff.1 hforall)
  have hreports := CaptureEntry.reports_of_compile (t := Text.ofString text) hentriesNe
    (CaptureEntry.encloses_of_forall₂ hforall hgroups) hcombined
  have hcursor : (CharCursor.start text.toList).IsAt (Text.ofString text) :=
    CharCursor.isAt_start (Text.ofString text)
  refine ⟨entries, combined, hentries, hcombined, ?_⟩
  refine (CaptureEntry.readMatches_eq hreports hcursor).imp fun o record hrecord => ?_
  rcases hrecord with ⟨spans, hspans, hrecorded⟩
  refine ⟨?_, fun name m hm => ?_, spans, hspans, hrecorded⟩
  · rw [CaptureRecord.names, hrecorded]
    exact CaptureEntry.names_recorded hforall hspans.hasSpan.length_eq
  · rw [hrecorded] at hm
    exact CaptureEntry.isExact_of_mem_recorded hspans.tiles hspans.bounded hm

/-- Three fragments, the second of which is not reported. -/
def prices : Graph := ⟨#[
  { kind := .native (.ofSource "€|£") },
  { kind := .native (.ofSource " ?"), skipped := true },
  { kind := .native (.ofSource "(\\d)+") }]⟩

/-- The groups of a price, under names that a pattern cannot use as they are. -/
def priceGroups : NameTable := ⟨[("unit 1", ⟨0⟩), ("the gap", ⟨1⟩), ("count 2", ⟨2⟩)]⟩

/-- The groups are accepted one by one. -/
theorem compile_priceGroups : ∀ group ∈ priceGroups.entries, ∀ source,
    prices.source group.2 = .ok source →
      ∃ r, Regex.compile source (Flags.withGlobal ∅) = .ok r := by
  intro group hgroup source hsource
  simp only [priceGroups, List.mem_cons, List.not_mem_nil, or_false] at hgroup
  rcases hgroup with rfl | rfl | rfl
  · obtain rfl := Except.ok.inj hsource
    exact ⟨_, rfl⟩
  · obtain rfl := Except.ok.inj hsource
    exact ⟨_, rfl⟩
  · obtain rfl := Except.ok.inj hsource
    exact ⟨_, rfl⟩

theorem capture_describes_prices : ∃ records entries combined,
    prices.capture "€7, £ 33" priceGroups { flags := some ∅ } none = .ok records ∧
    records.map (·.groups) = [[("unit 1", ⟨"€", 1, 1⟩), ("count 2", ⟨"7", 2, 1⟩)],
      [("unit 1", ⟨"£", 5, 1⟩), ("count 2", ⟨"33", 8, 2⟩)]] ∧
    CaptureEntry.ofGroups prices [] priceGroups.entries = .ok entries ∧
    Regex.compile (CaptureEntry.pattern { flags := some ∅ } entries) (Flags.withGlobal ∅) =
      .ok combined ∧
    List.Forall₂ (fun o record => CaptureRecord.Describes record prices priceGroups.entries true
        combined (Text.ofString "€7, £ 33") entries o)
      (combined.occurrences (Text.ofString "€7, £ 33")) records := by
  have hrecords : (prices.capture "€7, £ 33" priceGroups { flags := some ∅ } none).toOption.map
      (·.map (·.groups)) = some [[("unit 1", ⟨"€", 1, 1⟩), ("count 2", ⟨"7", 2, 1⟩)],
        [("unit 1", ⟨"£", 5, 1⟩), ("count 2", ⟨"33", 8, 2⟩)]] := by decide +kernel
  cases h : prices.capture "€7, £ 33" priceGroups { flags := some ∅ } none with
  | error cause =>
      rw [h] at hrecords
      cases hrecords
  | ok records =>
      rw [h] at hrecords
      rcases capture_describes (List.cons_ne_nil _ _) rfl compile_priceGroups h with
        ⟨entries, combined, hentries, hcombined, hdescribes⟩
      exact ⟨records, entries, combined, rfl, Option.some.inj hrecords, hentries, hcombined,
        hdescribes⟩

end Graph

end RegexComposition

import RegexComposition.Proofs.Capture.Tiling
import RegexComposition.Proofs.Pattern.Word
import RegexComposition.Proofs.Regex.Enumeration

/-!
# Anchored captures

With an anchor in front the groups of a match start where the text does, and with one behind they
end where it does.  Between the anchors and the outer groups there is nothing, and without the flag
`m` an anchor holds nowhere else, so there are hardly any records.

Main results:

- `Linked`: a sequence of groups with gaps that has no gap in front or behind.
- `CaptureEntry.exists_linked`: the pattern of all entries is one, between its anchors.
- `CaptureMode.Holds`: what the anchors say about the groups of a match.
- `Graph.capture_anchored`: they say it about every record, and there is one record or two at most.
-/

namespace RegexComposition

/-! ## The anchors -/

namespace CaptureMode

/-- The match is anchored to the begin of the text. -/
def IsFromBegin (mode : CaptureMode) : Prop := mode = fromBegin ∨ mode = fromBeginUntilEnd

/-- The match is anchored to the end of the text. -/
def IsUntilEnd (mode : CaptureMode) : Prop := mode = untilEnd ∨ mode = fromBeginUntilEnd

/-- The terms in front of the groups. -/
def front (mode : CaptureMode) (multiline : Bool) : List Pattern :=
  match mode with
  | fromBegin | fromBeginUntilEnd => [.assertion (.lineStart multiline)]
  | anywhere | untilEnd => []

/-- The terms behind the groups. -/
def back (mode : CaptureMode) (multiline : Bool) : List Pattern :=
  match mode with
  | untilEnd | fromBeginUntilEnd => [.assertion (.lineEnd multiline)]
  | anywhere | fromBegin => []

variable {mode : CaptureMode} {t : Text} {k : Continuation} {p r : Place}

/-- The anchor in front is passed at the begin of the text only. -/
theorem run_front {terms : List Pattern}
    (h : (Pattern.sequence (mode.front false ++ terms)).run t .forward k p = some r) :
    (Pattern.sequence terms).run t .forward k p = some r ∧
      (mode.IsFromBegin → p.position = 0) := by
  have hanchor : (Pattern.sequence ([.assertion (.lineStart false)] ++ terms)).run t .forward k p =
      some r → (Pattern.sequence terms).run t .forward k p = some r ∧ p.position = 0 := by
    intro h
    have hrun : (if Assertion.holds t (.lineStart false) p.position then
        (Pattern.sequence terms).run t .forward k p else none) = some r := h
    split at hrun
    · next hholds => exact ⟨hrun, by simpa [Assertion.holds] using hholds⟩
    · cases hrun
  cases mode with
  | anywhere => exact ⟨h, by rintro (h | h) <;> cases h⟩
  | untilEnd => exact ⟨h, by rintro (h | h) <;> cases h⟩
  | fromBegin => exact (hanchor h).imp_right fun hp _ => hp
  | fromBeginUntilEnd => exact (hanchor h).imp_right fun hp _ => hp

/-- The anchor behind is passed at the end of the text only. -/
theorem run_back (h : (Pattern.sequence (mode.back false)).run t .forward k p = some r) :
    k p = some r ∧ (mode.IsUntilEnd → p.position = t.size) := by
  have hanchor : (Pattern.sequence [.assertion (.lineEnd false)]).run t .forward k p = some r →
      k p = some r ∧ p.position = t.size := by
    intro h
    have hrun : (if Assertion.holds t (.lineEnd false) p.position then k p else none) = some r := h
    split at hrun
    · next hholds => exact ⟨hrun, by simpa [Assertion.holds] using hholds⟩
    · cases hrun
  cases mode with
  | anywhere => exact ⟨h, by rintro (h | h) <;> cases h⟩
  | fromBegin => exact ⟨h, by rintro (h | h) <;> cases h⟩
  | untilEnd => exact (hanchor h).imp_right fun hp _ => hp
  | fromBeginUntilEnd => exact (hanchor h).imp_right fun hp _ => hp

/-- The terms in front have no groups. -/
@[simp]
theorem flatMap_groups_front (mode : CaptureMode) (multiline : Bool) :
    (mode.front multiline).flatMap Pattern.groups = [] := by
  cases mode <;> rfl

/-- The terms behind have no groups. -/
@[simp]
theorem flatMap_groups_back (mode : CaptureMode) (multiline : Bool) :
    (mode.back multiline).flatMap Pattern.groups = [] := by
  cases mode <;> rfl

end CaptureMode

/-! ## Groups without gaps outside -/

/-- A sequence of numbered groups with gaps that starts and ends with a group. -/
structure Linked (strict : Bool) (indices : List Nat) (terms : List Pattern) : Prop where
  segments : Segments strict indices terms
  first : ∃ i body rest, indices.head? = some i ∧ terms = .group i body :: rest
  last : ∃ i body init, indices.getLast? = some i ∧ terms = init ++ [.group i body]

namespace Linked

variable {strict : Bool} {i : Nat} {body : Pattern} {indices : List Nat}
variable {gaps terms : List Pattern}

/-- A group alone. -/
theorem single (strict : Bool) (i : Nat) (body : Pattern) :
    Linked strict [i] [.group i body] :=
  ⟨Segments.nil.group, ⟨i, body, [], rfl, rfl⟩, ⟨i, body, [], rfl, rfl⟩⟩

/-- One more group, and what stands between it and the others. -/
theorem cons (h : Linked strict indices terms) (hgaps : Segments strict indices (gaps ++ terms)) :
    Linked strict (i :: indices) (.group i body :: (gaps ++ terms)) := by
  rcases h.last with ⟨j, last, init, hj, rfl⟩
  refine ⟨hgaps.group, ⟨i, body, _, rfl, rfl⟩, ⟨j, last, .group i body :: (gaps ++ init), ?_, ?_⟩⟩
  · rw [List.getLast?_cons, hj]
    rfl
  · rw [List.cons_append, List.append_assoc]

end Linked

/-- The first group of a sequence records a span from where the sequence starts. -/
theorem Pattern.exists_start_of_run {t : Text} {i : Nat} {body : Pattern} {rest : List Pattern}
    {k : Continuation} {p r : Place}
    (hnodup : ((Pattern.group i body :: rest).flatMap groups).Nodup)
    (h : (sequence (.group i body :: rest)).run t .forward k p = some r) :
    ∃ q s, k q = some r ∧ q.captures.get? i = some s ∧ s.start = p.position := by
  rcases resumes_of_run (p := body) h with ⟨q, hq, _⟩
  rcases resumes_of_run hq with ⟨q', hq', hleads⟩
  have hi : i ∉ (sequence rest).groups := by
    rw [groups_sequence]
    intro hmem
    exact (List.nodup_cons.1 hnodup).1 (List.mem_append_right _ hmem)
  refine ⟨q', ⟨p.position, q.position⟩, hq', ?_, rfl⟩
  rw [hleads.captures i hi]
  exact Captures.get?_record_self _ _ _

/-- The last group of a sequence records a span up to where the sequence ends. -/
theorem Pattern.exists_stop_of_run {t : Text} {i : Nat} {body : Pattern} {init : List Pattern}
    {k : Continuation} {p r : Place}
    (h : (sequence (init ++ [.group i body])).run t .forward k p = some r) :
    ∃ q s, k q = some r ∧ q.captures.get? i = some s ∧ s.stop = q.position := by
  rw [run_sequence_append] at h
  rcases resumes_of_run (p := sequence init) h with ⟨q, hq, _⟩
  rcases resumes_of_run (p := body) hq with ⟨q', hq', _⟩
  exact ⟨q'.record .forward i q, _, hq', Captures.get?_record_self _ _ _, rfl⟩

/-! ## Reading the pattern -/

namespace CaptureEntry

open Assembly

variable {g : Grammar} {G : List (Option String)} {a b : Assembly} {e : CaptureEntry}
variable {entries : List CaptureEntry} {strict : Bool} {r : Regex} {t : Text} {o : Occurrence}
variable {spans : List Span} {options : CaptureOptions} {flags : Flags} {mode : CaptureMode}

/-- The groups of all entries are read as a sequence without gaps outside. -/
theorem exists_linked_of_reads {after : List Char} (hentries : ∀ e' ∈ e :: entries, e'.Encloses)
    (hG : Aligned G a (e.group.toList ++ (tail strict entries ++ after)))
    (h : Reads g a (e.group.toList ++ (tail strict entries ++ after)) b []) :
    ∃ d terms indices, Reads g a (e.group.toList ++ (tail strict entries ++ after)) d after ∧
      Appends terms a d ∧ Linked strict indices terms ∧
      List.Forall₂ (IsNumbered G) (e :: entries) indices := by
  induction entries generalizing e a with
  | nil =>
      rcases exists_reads_group (hentries e List.mem_cons_self) hG h with
        ⟨body, follows, count, hgroup, hnumber⟩
      exact ⟨_, _, _, hgroup, ⟨rfl, rfl, rfl⟩, Linked.single strict (a.groups + 1) body,
        List.Forall₂.cons ⟨a.groups, rfl, hnumber⟩ List.Forall₂.nil⟩
  | cons e' entries ih =>
      have htail : tail strict (e' :: entries) ++ after = (if strict then "" else gap).toList ++
          (e'.group.toList ++ (tail strict entries ++ after)) := by
        simp [tail]
      rw [htail] at hG h ⊢
      rcases exists_reads_group (hentries e List.mem_cons_self) hG h with
        ⟨body, follows, count, hgroup, hnumber⟩
      rcases IsGap.separator strict g
          ⟨a.current.push (.group (a.groups + 1) body) follows, a.enclosing, count⟩
          (e'.group.toList ++ (tail strict entries ++ after)) with
        ⟨m, gaps, hgap, hgaps, hsegments⟩
      have hbetween := hgroup.trans hgap
      rcases ih (fun e'' he'' => hentries e'' (List.mem_cons_of_mem e he''))
          (hG.of_reads hbetween) (hbetween.cancel h (Nat.zero_le _)) with
        ⟨d, terms, indices, hreads, hterms, hlinked, hnumbers⟩
      have hfirst : Appends [.group (a.groups + 1) body] a
          ⟨a.current.push (.group (a.groups + 1) body) follows, a.enclosing, count⟩ :=
        ⟨rfl, rfl, rfl⟩
      exact ⟨d, _, _, hbetween.trans hreads, hfirst.trans (hgaps.trans hterms),
        hlinked.cons (hsegments indices terms hlinked.segments),
        List.Forall₂.cons ⟨a.groups, rfl, hnumber⟩ hnumbers⟩

/-- The anchor in front is read as a term. -/
theorem exists_reads_front (g : Grammar) (a : Assembly) (mode : CaptureMode) (rest : List Char) :
    ∃ d, Reads g a (mode.beginAnchor.toList ++ rest) d rest ∧
      Appends (mode.front a.current.modes.multiline) a d := by
  have hanchor : ∃ d, Reads g a ('^' :: rest) d rest ∧
      Appends [.assertion (.lineStart a.current.modes.multiline)] a d := by
    have hread : Token.readAt g '^' rest = (.lineStart, 0) := rfl
    exact ⟨_, Reads.single hread rfl (Reads.done _ _), rfl, rfl, rfl⟩
  cases mode with
  | anywhere => exact ⟨a, Reads.done a rest, Appends.refl a⟩
  | untilEnd => exact ⟨a, Reads.done a rest, Appends.refl a⟩
  | fromBegin => exact hanchor
  | fromBeginUntilEnd => exact hanchor

/-- The anchor behind is read as a term. -/
theorem exists_reads_back (g : Grammar) (a : Assembly) (mode : CaptureMode) :
    ∃ d, Reads g a mode.endAnchor.toList d [] ∧ Appends (mode.back a.current.modes.multiline) a d := by
  have hanchor : ∃ d, Reads g a ['$'] d [] ∧
      Appends [.assertion (.lineEnd a.current.modes.multiline)] a d := by
    have hread : Token.readAt g '$' [] = (.lineEnd, 0) := rfl
    exact ⟨_, Reads.single hread rfl (Reads.done _ _), rfl, rfl, rfl⟩
  cases mode with
  | anywhere => exact ⟨a, Reads.done a [], Appends.refl a⟩
  | fromBegin => exact ⟨a, Reads.done a [], Appends.refl a⟩
  | untilEnd => exact hanchor
  | fromBeginUntilEnd => exact hanchor

/-- The pattern of all entries is a sequence of their groups between the anchors. -/
theorem exists_linked (hne : entries ≠ []) (hentries : ∀ e ∈ entries, e.Encloses)
    (h : Regex.compile (pattern options entries) flags = .ok r) :
    ∃ terms indices, r.program.pattern = Pattern.sequence
        (options.mode.front (flags.contains .multiline) ++
          (terms ++ options.mode.back (flags.contains .multiline))) ∧
      Linked options.strict indices terms ∧
      List.Forall₂ (IsNumbered r.program.groups) entries indices := by
  rcases Program.read_eq_ok_iff.1 (Regex.of_compile h).1 with
    ⟨hgroups, _, b, hreads, henclosing, hpattern⟩
  cases entries with
  | nil => exact absurd rfl hne
  | cons e entries =>
      have htext : (pattern options (e :: entries)).toList = options.mode.beginAnchor.toList ++
          (e.group.toList ++ (tail options.strict entries ++ options.mode.endAnchor.toList)) := by
        rw [pattern, String.toList_append, String.toList_append, toList_intercalate]
        simp only [List.append_assoc]
      have hG : Aligned r.program.groups (Assembly.start (Modes.ofFlags flags))
          (pattern options (e :: entries)).toList := hgroups
      rw [htext] at hreads hG
      rcases exists_reads_front _ _ options.mode _ with ⟨a₁, hfront, hterms₁⟩
      rcases exists_linked_of_reads hentries (hG.of_reads hfront)
          (hfront.cancel hreads (Nat.zero_le _)) with
        ⟨a₂, terms, indices, hgroup, hterms₂, hlinked, hnumbers⟩
      rcases exists_reads_back _ a₂ options.mode with ⟨a₃, hback, hterms₃⟩
      have hmodes : a₂.current.modes = Modes.ofFlags flags := by
        have houtermost := (hfront.trans hgroup).outermost
        have henclosing₂ : a₂.enclosing = [] := hterms₂.enclosing.trans hterms₁.enclosing
        rw [Assembly.outermost, Assembly.outermost] at houtermost
        simpa [henclosing₂, Assembly.start, Frame.start] using houtermost.2.2
      -- A text is read in one way only.
      have hend : a₃ = b := by
        cases (hfront.trans (hgroup.trans hback)).cancel hreads (Nat.zero_le _)
        rfl
      subst hend
      rw [hmodes] at hterms₃
      have hall := hterms₁.trans (hterms₂.trans hterms₃)
      refine ⟨terms, indices, ?_, hlinked, hnumbers⟩
      rw [hpattern, Frame.body, hall.terms, hall.branches]
      simp [Assembly.start, Frame.start, Pattern.alternation, Modes.ofFlags]

end CaptureEntry

/-! ## The matches -/

/-- The match is where its anchors ask for. -/
structure Occurrence.IsAnchored (o : Occurrence) (mode : CaptureMode) (t : Text) : Prop where
  start : mode.IsFromBegin → o.span.start = 0
  stop : mode.IsUntilEnd → o.span.stop = t.size

namespace CaptureEntry

variable {entries : List CaptureEntry} {r : Regex} {t : Text} {o : Occurrence}
variable {options : CaptureOptions} {flags : Flags}

/-- What is first in one list is related to what is first in the other. -/
theorem exists_head?_of_forall₂ {α β : Type} {R : α → β → Prop} {l : List α} {l' : List β} {x : α}
    (h : List.Forall₂ R l l') (hx : l.head? = some x) : ∃ y, l'.head? = some y ∧ R x y := by
  cases h with
  | nil => cases hx
  | cons hfirst _ =>
      obtain rfl := Option.some.inj hx
      exact ⟨_, rfl, hfirst⟩

/-- The groups of a match lie one behind the other, from where the match starts to where it
ends. -/
structure Fills (r : Regex) (t : Text) (strict : Bool) (entries : List CaptureEntry)
    (o : Occurrence) (spans : List Span) : Prop where
  reports : Reports r t strict entries o spans
  first : ∃ s, spans.head? = some s ∧ s.start = o.span.start
  last : ∃ s, spans.getLast? = some s ∧ s.stop = o.span.stop

/-- The matches of a sequence of groups between anchors are filled by the groups. -/
theorem exists_fills {mode : CaptureMode} {strict : Bool} {terms : List Pattern}
    {indices : List Nat} (hnodup : (r.program.groups.filterMap id).Nodup)
    (hgroups : r.program.pattern.groups.Nodup)
    (hpattern : r.program.pattern =
      Pattern.sequence (mode.front false ++ (terms ++ mode.back false)))
    (hlinked : Linked strict indices terms)
    (hnumbers : List.Forall₂ (IsNumbered r.program.groups) entries indices)
    (ho : o.IsMatchOf r.program.pattern t) :
    o.IsAnchored mode t ∧ ∃ spans, Fills r t strict entries o spans := by
  have hfound := ho.found
  have hterms : (terms.flatMap Pattern.groups).Nodup := by
    simpa [hpattern] using hgroups
  rw [hpattern, Pattern.matchAt] at hfound
  rcases CaptureMode.run_front hfound with ⟨hrun, hstart⟩
  rw [Pattern.run_sequence_append] at hrun
  rcases hlinked.segments.exists_tiles hterms hrun with
    ⟨q, spans, hq, hleads, htiles, hcaptures⟩
  rcases CaptureMode.run_back hq with ⟨hq, hstop⟩
  obtain rfl : q = ⟨o.span.stop, o.captures⟩ := Option.some.inj hq
  refine ⟨⟨hstart, hstop⟩, spans, ⟨htiles, forall₂_hasSpan hnodup hnumbers hcaptures,
    hleads.bounded ho.bounded⟩, ?_, ?_⟩
  · rcases hlinked.first with ⟨i, body, rest, hi, rfl⟩
    rcases Pattern.exists_start_of_run hterms hrun with ⟨q, s, hq, hs, hposition⟩
    obtain rfl : q = ⟨o.span.stop, o.captures⟩ := Option.some.inj (CaptureMode.run_back hq).1
    rcases exists_head?_of_forall₂ hcaptures hi with ⟨s', hs', hcapture⟩
    obtain rfl : s = s' := Option.some.inj (hs.symm.trans hcapture)
    exact ⟨s, hs', hposition⟩
  · rcases hlinked.last with ⟨i, body, init, hi, rfl⟩
    rcases Pattern.exists_stop_of_run hrun with ⟨q, s, hq, hs, hposition⟩
    obtain rfl : q = ⟨o.span.stop, o.captures⟩ := Option.some.inj (CaptureMode.run_back hq).1
    rw [← List.head?_reverse] at hi
    rcases exists_head?_of_forall₂ (List.rel_reverse hcaptures) hi with ⟨s', hs', hcapture⟩
    obtain rfl : s = s' := Option.some.inj (hs.symm.trans hcapture)
    exact ⟨s, by rwa [← List.head?_reverse], hposition⟩

/-- All matches of a pattern of entries are filled by their groups. -/
theorem fills_of_compile (hne : entries ≠ []) (hencloses : ∀ e ∈ entries, e.Encloses)
    (hmultiline : flags.contains .multiline = false)
    (h : Regex.compile (pattern options entries) flags = .ok r) : ∀ o ∈ r.occurrences t,
      o.IsAnchored options.mode t ∧ ∃ spans, Fills r t options.strict entries o spans := by
  intro o ho
  rcases exists_linked hne hencloses h with ⟨terms, indices, hpattern, hlinked, hnumbers⟩
  rw [hmultiline] at hpattern
  have hread := (Regex.of_compile h).1
  rcases Program.read_eq_ok_iff.1 hread with ⟨_, hnodup, _⟩
  have hgroups : r.program.pattern.groups.Nodup := by
    rw [Program.groups_pattern hread]
    exact List.nodup_range'
  exact exists_fills hnodup hgroups hpattern hlinked hnumbers
    (Regex.isMatchOf_of_mem_occurrences ho)

end CaptureEntry

/-! ## How many matches there are -/

namespace Occurrence

variable {mode : CaptureMode} {t : Text} {found : List Occurrence}

/-- There is one match at most that starts where the text does. -/
theorem length_le_one (hprecedes : found.Pairwise Precedes)
    (hanchored : ∀ o ∈ found, o.IsAnchored mode t) (hmode : mode.IsFromBegin) :
    found.length ≤ 1 := by
  match found with
  | [] => exact Nat.zero_le 1
  | [_] => exact Nat.le_refl 1
  | o :: o' :: rest =>
      have hstart := (hanchored o' (by simp)).start hmode
      have hlt := (List.rel_of_pairwise_cons hprecedes List.mem_cons_self).1
      omega

/-- Behind a match that ends where the text does there is only the empty one there. -/
theorem length_le_two (hprecedes : found.Pairwise Precedes)
    (hwithin : ∀ o ∈ found, o.span.IsWithin t) (hanchored : ∀ o ∈ found, o.IsAnchored mode t)
    (hmode : mode.IsUntilEnd) :
    found.length ≤ 2 ∧ ∀ o, found[1]? = some o → o.span.start = o.span.stop := by
  match found with
  | [] => exact ⟨Nat.zero_le 2, nofun⟩
  | [_] => exact ⟨Nat.le_succ 1, nofun⟩
  | o :: o' :: rest =>
      have hstop := (hanchored o (by simp)).stop hmode
      have hafter := (List.rel_of_pairwise_cons hprecedes List.mem_cons_self).2
      rcases hwithin o' (by simp) with ⟨hordered', hbounded'⟩
      refine ⟨?_, fun o'' ho'' => ?_⟩
      · cases rest with
        | nil => exact Nat.le_refl 2
        | cons o'' rest =>
            have hlt := (List.rel_of_pairwise_cons hprecedes.of_cons List.mem_cons_self).1
            rcases hwithin o'' (by simp) with ⟨hordered'', hbounded''⟩
            omega
      · obtain rfl := Option.some.inj ho''
        omega

end Occurrence

/-! ## What the anchors say -/

/-- Spans without gaps make up what lies between the begin and the end. -/
theorem Tiles.flatMap_charsOf {t : Text} {i j : Nat} {spans : List Span}
    (h : Tiles true i spans j) : spans.flatMap t.charsOf = t.charsOf ⟨i, j⟩ := by
  induction spans generalizing i with
  | nil =>
      obtain rfl := h.2 rfl
      simp [Text.charsOf]
  | cons s spans ih =>
      rcases h with ⟨_, hstart, hspan, hrest⟩
      obtain rfl := hstart rfl
      rw [List.flatMap_cons, ih hrest]
      simp only [Text.charsOf, ← Array.toList_append, Array.extract_append_extract,
        Nat.min_eq_left hspan, Nat.max_eq_right hrest.le]

/-- No span lies in front of the begin. -/
theorem Tiles.le_start {strict : Bool} {i j : Nat} {s : Span} {spans : List Span}
    (h : Tiles strict i spans j) (hs : s ∈ spans) : i ≤ s.start := by
  induction spans generalizing i with
  | nil => cases hs
  | cons s' spans ih =>
      rcases h with ⟨hstart, _, hspan, hrest⟩
      rcases List.mem_cons.1 hs with rfl | hs
      · exact hstart
      · exact Nat.le_trans hstart (Nat.le_trans hspan (ih hrest hs))

/-- What the anchors say about a match, numbered from 0 in order, with its groups at the given
spans: the first group starts where the text does, the last one ends where it does, the groups of a
second match are empty, and those of a match between two anchors make up the text if they have to be
adjacent. -/
structure CaptureMode.Holds (mode : CaptureMode) (strict : Bool) (text : String) (number : Nat)
    (spans : List Span) : Prop where
  first : mode.IsFromBegin → ∃ s, spans.head? = some s ∧ s.start = 0
  last : mode.IsUntilEnd → ∃ s, spans.getLast? = some s ∧ s.stop = text.length
  second : mode.IsUntilEnd → number = 1 → ∀ s ∈ spans, (Text.ofString text).slice s = ""
  whole : mode = .fromBeginUntilEnd → strict = true →
    String.join (spans.map (Text.ofString text).slice) = text

/-- The anchors say so about the groups that fill a match. -/
theorem CaptureEntry.Fills.holds {r : Regex} {text : String} {strict : Bool}
    {entries : List CaptureEntry} {o : Occurrence} {spans : List Span} {mode : CaptureMode}
    {number : Nat} (h : Fills r (Text.ofString text) strict entries o spans)
    (hanchored : o.IsAnchored mode (Text.ofString text))
    (hsecond : mode.IsUntilEnd → number = 1 → o.span.start = o.span.stop) :
    mode.Holds strict text number spans := by
  have hsize : (Text.ofString text).size = text.length := by
    simp [Text.size, Text.ofString, String.length_toList]
  refine ⟨fun hmode => ?_, fun hmode => ?_, fun hmode hnumber s hs => ?_, fun hmode hstrict => ?_⟩
  · rcases h.first with ⟨s, hs, hstart⟩
    exact ⟨s, hs, hstart.trans (hanchored.start hmode)⟩
  · rcases h.last with ⟨s, hs, hstop⟩
    exact ⟨s, hs, (hstop.trans (hanchored.stop hmode)).trans hsize⟩
  · have hstart := h.reports.tiles.le_start hs
    rcases h.reports.tiles.of_mem hs with ⟨hordered, hstop⟩
    have hempty := hsecond hmode hnumber
    have heq : s.start = s.stop := by omega
    simp [Text.slice, Text.charsOf, heq]
  · have htiles := h.reports.tiles
    rw [hstrict, hanchored.start (.inr hmode), hanchored.stop (.inr hmode)] at htiles
    rw [← String.toList_inj, String.toList_join, List.flatMap_map]
    simp only [Text.slice, String.toList_ofList]
    rw [htiles.flatMap_charsOf]
    simp [Text.charsOf, Text.size, Text.ofString]

namespace Graph

variable {g : Graph} {text : String} {groups : NameTable} {options : CaptureOptions}
variable {default : Option Flags} {flags : Flags} {records : List CaptureRecord}

/-- Without the flag `m`, capturing groups that are accepted one by one gives at most one record with
an anchor in front and at most two with one behind, and the anchors say what they have to about the
groups of each record. -/
theorem capture_anchored (hne : groups.entries ≠ [])
    (hflags : g.captureFlags options default groups.fragments = .ok flags)
    (hmultiline : flags.contains .multiline = false)
    (hgroups : ∀ group ∈ groups.entries, ∀ source, g.source group.2 = .ok source →
      ∃ r, Regex.compile source flags = .ok r)
    (h : g.capture text groups options default = .ok records) :
    ∃ entries combined, CaptureEntry.ofGroups g [] groups.entries = .ok entries ∧
      Regex.compile (CaptureEntry.pattern options entries) flags = .ok combined ∧
      (options.mode.IsFromBegin → records.length ≤ 1) ∧
      (options.mode.IsUntilEnd → records.length ≤ 2) ∧
      ∀ number record, records[number]? = some record → ∃ o spans,
        (combined.occurrences (Text.ofString text))[number]? = some o ∧
        CaptureEntry.Reports combined (Text.ofString text) options.strict entries o spans ∧
        record.groups = CaptureEntry.recorded (Text.ofString text) entries spans ∧
        options.mode.Holds options.strict text number spans := by
  rcases exists_of_capture hne hflags h with ⟨entries, combined, hentries, hcombined, rfl⟩
  have hforall := CaptureEntry.forall₂_ofGroups hentries
  have hentriesNe : entries ≠ [] := by
    rintro rfl
    exact hne (List.forall₂_nil_right_iff.1 hforall)
  have hfills := CaptureEntry.fills_of_compile (t := Text.ofString text) hentriesNe
    (CaptureEntry.encloses_of_forall₂ hforall hgroups) hmultiline hcombined
  have hrecords := CaptureEntry.forall₂_readMatches
    (P := CaptureEntry.Fills combined (Text.ofString text) options.strict entries)
    (fun _ _ hfill => hfill.reports) (fun o ho => (hfills o ho).2)
    (CharCursor.isAt_start (Text.ofString text))
  have hanchored := fun o ho => (hfills o ho).1
  have hprecedes := combined.pairwise_precedes (Text.ofString text)
  have htwo := Occurrence.length_le_two hprecedes
    (fun o ho => Regex.isWithin_of_mem_occurrences ho) hanchored
  refine ⟨entries, combined, hentries, hcombined, ?_, ?_, fun number record hrecord => ?_⟩
  · intro hmode
    exact hrecords.length_eq ▸ Occurrence.length_le_one hprecedes hanchored hmode
  · intro hmode
    exact hrecords.length_eq ▸ (htwo hmode).1
  · rcases List.forall₂_iff_get.1 hrecords with ⟨hlength, hget⟩
    rcases List.getElem?_eq_some_iff.1 hrecord with ⟨hnumber, rfl⟩
    have ho := List.getElem?_eq_getElem (hlength ▸ hnumber)
    rcases hget number (hlength ▸ hnumber) hnumber with ⟨spans, hspans, hrecorded⟩
    refine ⟨_, spans, ho, hspans.reports, hrecorded, ?_⟩
    refine hspans.holds (hanchored _ (List.getElem_mem _)) fun hmode hsecond => ?_
    subst hsecond
    exact (htwo hmode).2 _ ho

/-- A price alone, from the begin of the text to its end. -/
def wholePrice : CaptureOptions := { flags := some ∅, mode := .fromBeginUntilEnd }

theorem capture_anchored_wholePrice : ∃ records entries combined,
    prices.capture "£ 33" priceGroups wholePrice none = .ok records ∧
    records.map (·.groups) = [[("unit 1", ⟨"£", 1, 1⟩), ("count 2", ⟨"33", 4, 2⟩)]] ∧
    CaptureEntry.ofGroups prices [] priceGroups.entries = .ok entries ∧
    Regex.compile (CaptureEntry.pattern wholePrice entries) (Flags.withGlobal ∅) = .ok combined ∧
    (wholePrice.mode.IsFromBegin → records.length ≤ 1) ∧
    (wholePrice.mode.IsUntilEnd → records.length ≤ 2) ∧
    ∀ number record, records[number]? = some record → ∃ o spans,
      (combined.occurrences (Text.ofString "£ 33"))[number]? = some o ∧
      CaptureEntry.Reports combined (Text.ofString "£ 33") true entries o spans ∧
      record.groups = CaptureEntry.recorded (Text.ofString "£ 33") entries spans ∧
      CaptureMode.Holds .fromBeginUntilEnd true "£ 33" number spans := by
  have hrecords : (prices.capture "£ 33" priceGroups wholePrice none).toOption.map
      (·.map (·.groups)) = some [[("unit 1", ⟨"£", 1, 1⟩), ("count 2", ⟨"33", 4, 2⟩)]] := by
    decide +kernel
  cases h : prices.capture "£ 33" priceGroups wholePrice none with
  | error cause =>
      rw [h] at hrecords
      cases hrecords
  | ok records =>
      rw [h] at hrecords
      rcases capture_anchored (List.cons_ne_nil _ _) rfl (by decide) compile_priceGroups h with
        ⟨entries, combined, hentries, hcombined, hanchored⟩
      exact ⟨records, entries, combined, rfl, Option.some.inj hrecords, hentries, hcombined,
        hanchored⟩

end Graph

end RegexComposition

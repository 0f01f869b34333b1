import RegexComposition.Capture
import RegexComposition.Proofs.Pattern.Nesting

/-!
# The pattern of a capture

The groups of a capture are matched by one pattern.  However its source comes to be read, it is a
sequence of exactly these groups, with an anchor or a gap between them here and there.

Main results:

- `isPlainInName_of_nativeGroupName`: the characters of a native name.
- `Segments`: a sequence of numbered groups with gaps.
- `CaptureEntry.exists_segments`: the pattern of all entries is one.
-/

namespace RegexComposition

/-! ## Native names -/

/-- The character ends no group name and starts neither an escape nor a lookbehind. -/
def IsPlainInName (c : Char) : Prop := c ≠ '>' ∧ c ≠ '\\' ∧ c ≠ '=' ∧ c ≠ '!'

/-- The low line is plain. -/
theorem isPlainInName_lowLine : IsPlainInName '_' :=
  ⟨by decide, by decide, by decide, by decide⟩

/-- Alphabetic characters are plain. -/
theorem isPlainInName_of_isAlphabetic {c : Char} (hc : Unicode.isAlphabetic c.toNat = true) :
    IsPlainInName c := by
  refine ⟨?_, ?_, ?_, ?_⟩
  all_goals
    rintro rfl
    exact absurd hc (by decide)

/-- The words for digits are plain. -/
theorem isPlainInName_of_digitWord? {c d : Char} {word : String} (hword : digitWord? c = some word)
    (hd : d ∈ word.toList) : IsPlainInName d := by
  have hletters : word.toList.all (fun d => Unicode.isAlphabetic d.toNat) = true := by
    unfold digitWord? at hword
    split at hword
    case h_11 => cases hword
    all_goals
      obtain rfl := Option.some.inj hword
      decide
  exact isPlainInName_of_isAlphabetic (List.all_eq_true.1 hletters d hd)

/-- A native name is plain. -/
theorem isPlainInName_of_nativeGroupName {name : String} {c : Char}
    (hc : c ∈ (nativeGroupName name).toList) : IsPlainInName c := by
  rw [nativeGroupName, String.toList_ofList, List.mem_flatMap] at hc
  rcases hc with ⟨d, _, hpart⟩
  unfold nativeNamePart at hpart
  split at hpart
  · cases hpart
  · split at hpart
    · obtain rfl : c = '_' := List.mem_singleton.1 hpart
      exact isPlainInName_lowLine
    · split at hpart
      · next word hword => exact isPlainInName_of_digitWord? hword hpart
      · split at hpart
        · next hd =>
            obtain rfl : c = d := List.mem_singleton.1 hpart
            rcases Bool.or_eq_true_iff.1 hd with hline | halphabetic
            · obtain rfl : c = '_' := by simpa using hline
              exact isPlainInName_lowLine
            · exact isPlainInName_of_isAlphabetic halphabetic
        · cases hpart

/-! ## Named groups -/

namespace GroupName

/-- A plain name stands for itself. -/
theorem readFrom_plain {atStart : Bool} {name rest chars : List Char} {n : Nat}
    (hplain : ∀ c ∈ name, IsPlainInName c)
    (h : readFrom atStart (name ++ '>' :: rest) 0 = some (chars, n)) :
    chars = name ∧ n = name.length + 1 := by
  induction name generalizing atStart chars n with
  | nil =>
      rw [List.nil_append, readFrom_cons, if_pos rfl] at h
      split at h
      · cases h
      · rcases Prod.mk.inj (Option.some.inj h) with ⟨rfl, rfl⟩
        exact ⟨rfl, rfl⟩
  | cons c name ih =>
      rcases hplain c List.mem_cons_self with ⟨hend, hescape, _⟩
      rw [List.cons_append, readFrom_cons, if_neg hend, spelledCode?, if_neg hescape] at h
      dsimp only at h
      split at h
      · rcases Option.map_eq_some_iff.1 h with ⟨⟨chars', n'⟩, hrest, heq⟩
        rcases ih (fun d hd => hplain d (List.mem_cons_of_mem c hd)) hrest with ⟨rfl, rfl⟩
        rcases Prod.mk.inj heq with ⟨rfl, rfl⟩
        exact ⟨by rw [Char.ofNat_toNat], rfl⟩
      · cases h

/-- A plain name is read as itself. -/
theorem read?_plain {name rest : List Char} {chars : String} {n : Nat}
    (hplain : ∀ c ∈ name, IsPlainInName c) (h : read? (name ++ '>' :: rest) = some (chars, n)) :
    chars = String.ofList name ∧ n = name.length + 1 := by
  rcases Option.map_eq_some_iff.1 h with ⟨⟨chars', n'⟩, hread, heq⟩
  rcases readFrom_plain hplain hread with ⟨rfl, rfl⟩
  rcases Prod.mk.inj heq with ⟨rfl, rfl⟩
  exact ⟨rfl, rfl⟩

end GroupName

namespace Token

/-- Without a name there is a fault. -/
theorem readOpening_of_read?_eq_none {c : Char} {rest : List Char} (hlook : c ≠ '=' ∧ c ≠ '!')
    (h : GroupName.read? (c :: rest) = none) :
    readOpening ('?' :: '<' :: c :: rest) = (fault .invalidGroupName, 0) := by
  unfold readOpening
  split
  case h_6 inside _ _ heq =>
      obtain rfl := (List.cons.inj (List.cons.inj heq).2).2
      rw [h]
  case h_7 hmodifiers heq => exact absurd (List.cons.inj heq).2.symm (hmodifiers _)
  case h_8 hplain => exact absurd rfl (hplain _)
  all_goals simp_all

/-- The opening of a group with a plain name, if it is none of a fault. -/
theorem readAt_plainName {g : Grammar} {name rest : List Char} {token : Token} {extra : Nat}
    (hname : name ≠ []) (hplain : ∀ c ∈ name, IsPlainInName c)
    (h : readAt g '(' ('?' :: '<' :: (name ++ '>' :: rest)) = (token, extra))
    (ht : ∀ cause, token ≠ .fault cause) :
    token = .opening (.capturing (some (String.ofList name))) ∧ extra = name.length + 3 := by
  have hopening : readOpening ('?' :: '<' :: (name ++ '>' :: rest)) = (token, extra) := h
  cases hread : GroupName.read? (name ++ '>' :: rest) with
  | some found =>
      rcases found with ⟨chars, n⟩
      rcases GroupName.read?_plain hplain hread with ⟨rfl, rfl⟩
      rw [readOpening_of_read? hread] at hopening
      rcases Prod.mk.inj hopening with ⟨rfl, rfl⟩
      exact ⟨rfl, rfl⟩
  | none =>
      cases name with
      | nil => exact absurd rfl hname
      | cons c name =>
          rcases hplain c List.mem_cons_self with ⟨_, _, hlook⟩
          rw [List.cons_append] at hread hopening
          rw [readOpening_of_read?_eq_none hlook hread] at hopening
          exact absurd (Prod.mk.inj hopening).1.symm (ht _)

end Token

/-! ## The groups of the pattern -/

/-- A sequence of terms with the given groups among them; the other terms have no groups, and they
are assertions if there may be no gaps. -/
inductive Segments (strict : Bool) : List Nat → List Pattern → Prop
  | nil : Segments strict [] []
  | gap {p : Pattern} {indices : List Nat} {terms : List Pattern} : p.groups = [] →
      (strict = true → ∃ a, p = .assertion a) → Segments strict indices terms →
        Segments strict indices (p :: terms)
  | group {i : Nat} {body : Pattern} {indices : List Nat} {terms : List Pattern} :
      Segments strict indices terms → Segments strict (i :: indices) (.group i body :: terms)

namespace CaptureEntry

open Assembly Enclosure

/-- The name of the entry is a plain one, and its source is the inside of a group. -/
structure Encloses (e : CaptureEntry) : Prop where
  nonempty : e.nativeName ≠ ""
  plain : ∀ c ∈ e.nativeName.toList, IsPlainInName c
  closes : ∀ after, closingFrom 1 false false (e.source.toList ++ ')' :: after) =
    some e.source.toList.length

/-- A source that is accepted on its own is the inside of a group. -/
theorem closes_of_compile {source : String} {flags : Flags} {r : Regex}
    (h : Regex.compile source flags = .ok r) (after : List Char) :
    closingFrom 1 false false (source.toList ++ ')' :: after) = some source.toList.length := by
  rcases Program.read_eq_ok_iff.1 (Regex.of_compile h).1 with ⟨_, _, b, hreads, henclosing, _⟩
  exact closingFrom_of_closed hreads rfl henclosing

variable {G : List (Option String)} {g : Grammar} {a b : Assembly} {e : CaptureEntry}
variable {rest : List Char}

/-- The scan for names has come as far as the reading. -/
def Aligned (G : List (Option String)) (a : Assembly) (text : List Char) : Prop :=
  G.drop a.groups = GroupName.declaredFrom false text 0

/-- The scan for names keeps up with the reading. -/
theorem Aligned.of_reads {text remaining : List Char} (h : Aligned G a text)
    (hreads : Reads g a text b remaining) : Aligned G b remaining := by
  rcases hreads.declared with ⟨names, hnames, hcount⟩
  have hdrop : (G.drop a.groups).drop names.length = GroupName.declaredFrom false remaining 0 := by
    rw [h, hnames, List.drop_left]
  rw [Aligned, hcount, ← List.drop_drop, hdrop]

/-- The group of an entry is read as a term. -/
theorem exists_reads_group (he : e.Encloses) (hG : Aligned G a (e.group.toList ++ rest))
    (h : Reads g a (e.group.toList ++ rest) b []) :
    ∃ body follows count, Reads g a (e.group.toList ++ rest)
        ⟨a.current.push (.group (a.groups + 1) body) follows, a.enclosing, count⟩ rest ∧
      G[a.groups]? = some (some e.nativeName) := by
  have htext : e.group.toList ++ rest = '(' :: (('?' :: '<' :: (e.nativeName.toList ++ ['>'])) ++
      (e.source.toList ++ ')' :: rest)) := by
    simp [CaptureEntry.group]
  rw [htext] at hG h ⊢
  have hname : e.nativeName.toList ≠ [] := fun hnil =>
    he.nonempty (String.toList_eq_nil_iff.1 hnil)
  -- The name is plain, so a token that can stand here is the opening of the group.
  have hread : Token.readAt g '(' (('?' :: '<' :: (e.nativeName.toList ++ ['>'])) ++
      (e.source.toList ++ ')' :: rest)) = (.opening (.capturing (some e.nativeName)),
        ('?' :: '<' :: (e.nativeName.toList ++ ['>'])).length) := by
    rcases hopening : Token.readAt g '(' (('?' :: '<' :: (e.nativeName.toList ++ ['>'])) ++
      (e.source.toList ++ ')' :: rest)) with ⟨token, extra⟩
    rcases h.exists_of_cons hopening (Nat.zero_le _) with ⟨d, hstep, _⟩
    simp only [List.cons_append, List.append_assoc, List.nil_append] at hopening
    rcases Token.readAt_plainName hname he.plain hopening (ne_fault_of_step hstep) with
      ⟨rfl, rfl⟩
    simp
  rcases Assembly.exists_reads_group hread (he.closes []) h with
    ⟨inner, count, ⟨hkind, hindex, _⟩, hreads⟩
  have hclose : inner.close = .group (a.groups + 1) inner.body := by
    have hcapturing : inner.kind = .capturing (some e.nativeName) := hkind
    have hnumber : inner.index = a.groups + 1 := hindex
    rw [Frame.close, hcapturing, hnumber]
  rw [hclose] at hreads
  refine ⟨inner.body, inner.closeFollows, count, hreads, ?_⟩
  rw [Aligned, GroupName.declaredFrom_readAt hread (by simp)] at hG
  have hhead : (G.drop a.groups)[0]? = some (some e.nativeName) := by
    rw [hG]
    rfl
  rwa [List.getElem?_drop, Nat.add_zero] at hhead

/-- The gap between two groups is read as a term without groups. -/
theorem exists_reads_gap (g : Grammar) (a : Assembly) (rest : List Char) :
    ∃ p : Pattern, p.groups = [] ∧ Reads g a (gap.toList ++ rest) (a.push p .allowed) rest := by
  have hclass : Token.readAt g '[' ("\\s\\S]*?)".toList ++ rest) =
      (.set [.category .space false, .category .space true] false, 5) := by
    rcases g with ⟨unicode, groups⟩
    cases unicode <;> rfl
  have hopening : Token.readAt g '(' ("?:[\\s\\S]*?)".toList ++ rest) = (.opening .plain, 2) := rfl
  have hstar : Token.readAt g '*' ("?)".toList ++ rest) = (.quantifier ⟨0, none, false⟩ false, 1) :=
    rfl
  have hinside : Reads g (a.openGroup .plain) ("[\\s\\S]*?)".toList ++ rest)
      { (a.openGroup .plain) with
        current := ((a.openGroup .plain).current.push (.char ⟨a.current.modes.caseMode,
          [.category .space false, .category .space true], false⟩) .allowed).quantify
            ⟨0, none, false⟩ } (')' :: rest) :=
    Reads.token hclass rfl (Reads.token hstar rfl (Reads.done _ _))
  exact ⟨_, rfl, Reads.token hopening rfl (hinside.trans (Reads.closing rfl rest))⟩

/-- The open frame has got further terms, in the given order, and there are as many frames. -/
structure Appends (terms : List Pattern) (a b : Assembly) : Prop where
  terms : b.current.terms = terms.reverse ++ a.current.terms
  branches : b.current.branches = a.current.branches
  enclosing : b.enclosing = a.enclosing

namespace Appends

variable {terms terms' : List Pattern} {d : Assembly}

theorem refl (a : Assembly) : Appends [] a a := ⟨rfl, rfl, rfl⟩

theorem trans (h : Appends terms a b) (h' : Appends terms' b d) :
    Appends (terms ++ terms') a d := by
  refine ⟨?_, h'.branches.trans h.branches, h'.enclosing.trans h.enclosing⟩
  rw [h'.terms, h.terms, List.reverse_append, List.append_assoc]

end Appends

/-! ## Between the groups -/

/-- Wherever the text stands, it is read as terms without groups, which can be part of
segments. -/
def IsGap (strict : Bool) (text : List Char) : Prop :=
  ∀ (g : Grammar) (a : Assembly) (rest : List Char), ∃ d gaps,
    Reads g a (text ++ rest) d rest ∧ Appends gaps a d ∧
      ∀ (indices : List Nat) (terms : List Pattern), Segments strict indices terms →
        Segments strict indices (gaps ++ terms)

namespace IsGap

theorem nil (strict : Bool) : IsGap strict [] := by
  intro g a rest
  exact ⟨a, [], Reads.done a rest, Appends.refl a, fun _ _ h => h⟩

theorem lineStart (strict : Bool) : IsGap strict ['^'] := by
  intro g a rest
  have hread : Token.readAt g '^' rest = (.lineStart, 0) := rfl
  exact ⟨_, [_], Reads.single hread rfl (Reads.done _ _), ⟨rfl, rfl, rfl⟩,
    fun _ _ => Segments.gap rfl fun _ => ⟨_, rfl⟩⟩

theorem lineEnd (strict : Bool) : IsGap strict ['$'] := by
  intro g a rest
  have hread : Token.readAt g '$' rest = (.lineEnd, 0) := rfl
  exact ⟨_, [_], Reads.single hread rfl (Reads.done _ _), ⟨rfl, rfl, rfl⟩,
    fun _ _ => Segments.gap rfl fun _ => ⟨_, rfl⟩⟩

/-- What stands between two groups. -/
theorem separator (strict : Bool) : IsGap strict (if strict then "" else gap).toList := by
  cases strict with
  | true => exact nil true
  | false =>
      intro g a rest
      rcases exists_reads_gap g a rest with ⟨p, hp, hreads⟩
      exact ⟨_, [p], hreads, ⟨rfl, rfl, rfl⟩, fun _ _ => Segments.gap hp nofun⟩

/-- What stands in front of the groups. -/
theorem beginAnchor (strict : Bool) (mode : CaptureMode) :
    IsGap strict mode.beginAnchor.toList := by
  cases mode with
  | anywhere => exact nil strict
  | untilEnd => exact nil strict
  | fromBegin => exact lineStart strict
  | fromBeginUntilEnd => exact lineStart strict

/-- What stands behind the groups. -/
theorem endAnchor (strict : Bool) (mode : CaptureMode) :
    IsGap strict mode.endAnchor.toList := by
  cases mode with
  | anywhere => exact nil strict
  | fromBegin => exact nil strict
  | untilEnd => exact lineEnd strict
  | fromBeginUntilEnd => exact lineEnd strict

end IsGap

/-! ## The whole pattern -/

/-- The group with the given number has the native name of the entry. -/
def IsNumbered (G : List (Option String)) (e : CaptureEntry) (i : Nat) : Prop :=
  ∃ k, i = k + 1 ∧ G[k]? = some (some e.nativeName)

/-- The terms that the second assembly has got are segments with the groups of the entries. -/
def AppendsGroups (strict : Bool) (G : List (Option String)) (entries : List CaptureEntry)
    (a b : Assembly) : Prop :=
  ∃ terms indices, Appends terms a b ∧ Segments strict indices terms ∧
    List.Forall₂ (IsNumbered G) entries indices

namespace AppendsGroups

variable {strict : Bool} {entries : List CaptureEntry}

/-- Without entries there is nothing to read. -/
theorem nil (strict : Bool) (G : List (Option String)) (a : Assembly) :
    AppendsGroups strict G [] a a :=
  ⟨[], [], Appends.refl a, Segments.nil, List.Forall₂.nil⟩

/-- A gap is read, and then the groups of the entries. -/
theorem gap {text : List Char} (hgap : IsGap strict text) (hG : Aligned G a (text ++ rest))
    (h : Reads g a (text ++ rest) b [])
    (hrest : ∀ d, Aligned G d rest → Reads g d rest b [] → AppendsGroups strict G entries d b) :
    AppendsGroups strict G entries a b := by
  rcases hgap g a rest with ⟨d, gaps, hreads, hgaps, hsegments⟩
  rcases hrest d (hG.of_reads hreads) (hreads.cancel h (Nat.zero_le _)) with
    ⟨terms, indices, hterms, hindices, hnumbers⟩
  exact ⟨gaps ++ terms, indices, hgaps.trans hterms, hsegments indices terms hindices, hnumbers⟩

/-- The group of an entry is read, and then those of the other entries. -/
theorem group (he : e.Encloses) (hG : Aligned G a (e.group.toList ++ rest))
    (h : Reads g a (e.group.toList ++ rest) b [])
    (hrest : ∀ d, Aligned G d rest → Reads g d rest b [] → AppendsGroups strict G entries d b) :
    AppendsGroups strict G (e :: entries) a b := by
  rcases exists_reads_group he hG h with ⟨body, follows, count, hgroup, hnumber⟩
  rcases hrest _ (hG.of_reads hgroup) (hgroup.cancel h (Nat.zero_le _)) with
    ⟨terms, indices, hterms, hsegments, hnumbers⟩
  have hfirst : Appends [.group (a.groups + 1) body] a
      ⟨a.current.push (.group (a.groups + 1) body) follows, a.enclosing, count⟩ :=
    ⟨rfl, rfl, rfl⟩
  exact ⟨.group (a.groups + 1) body :: terms, (a.groups + 1) :: indices, hfirst.trans hterms,
    Segments.group hsegments, List.Forall₂.cons ⟨a.groups, rfl, hnumber⟩ hnumbers⟩

end AppendsGroups

/-- The text of the entries behind the first one. -/
def tail (strict : Bool) (entries : List CaptureEntry) : List Char :=
  entries.flatMap fun e => (if strict then "" else gap).toList ++ e.group.toList

/-- The entries behind the first one are read as segments. -/
theorem appendsGroups_of_tail {strict : Bool} {mode : CaptureMode} {entries : List CaptureEntry}
    (hentries : ∀ e ∈ entries, e.Encloses)
    (hG : Aligned G a (tail strict entries ++ mode.endAnchor.toList))
    (h : Reads g a (tail strict entries ++ mode.endAnchor.toList) b []) :
    AppendsGroups strict G entries a b := by
  induction entries generalizing a with
  | nil =>
      rw [← List.append_nil (tail strict [] ++ mode.endAnchor.toList)] at hG h
      refine AppendsGroups.gap (IsGap.endAnchor strict mode) hG h fun d _ hend => ?_
      cases hend
      exact AppendsGroups.nil strict G b
  | cons e entries ih =>
      have htext : tail strict (e :: entries) ++ mode.endAnchor.toList =
          (if strict then "" else gap).toList ++ (e.group.toList ++
            (tail strict entries ++ mode.endAnchor.toList)) := by
        simp [tail]
      rw [htext] at hG h
      refine AppendsGroups.gap (IsGap.separator strict) hG h fun _ hG h => ?_
      refine AppendsGroups.group (hentries e List.mem_cons_self) hG h fun _ hG h => ?_
      exact ih (fun e' he' => hentries e' (List.mem_cons_of_mem e he')) hG h

/-- The groups with what stands between them: the first one and those behind it. -/
theorem toList_intercalate (strict : Bool) (e : CaptureEntry) (entries : List CaptureEntry) :
    (String.intercalate (if strict then "" else gap) ((e :: entries).map group)).toList =
      e.group.toList ++ tail strict entries := by
  induction entries generalizing e with
  | nil => simp [tail]
  | cons e' entries ih =>
      rw [List.map_cons, List.map_cons, String.intercalate_cons_cons, String.toList_append,
        String.toList_append, ← List.map_cons, ih e', tail, tail, List.flatMap_cons]
      simp only [List.append_assoc]

/-- The pattern of all entries is a sequence of their groups. -/
theorem exists_segments {options : CaptureOptions} {entries : List CaptureEntry} {flags : Flags}
    {r : Regex} (hne : entries ≠ []) (hentries : ∀ e ∈ entries, e.Encloses)
    (h : Regex.compile (pattern options entries) flags = .ok r) :
    ∃ terms indices, r.program.pattern = Pattern.sequence terms ∧
      Segments options.strict indices terms ∧
      List.Forall₂ (IsNumbered r.program.groups) entries indices := by
  rcases Program.read_eq_ok_iff.1 (Regex.of_compile h).1 with
    ⟨hgroups, _, b, hreads, henclosing, hpattern⟩
  cases entries with
  | nil => exact absurd rfl hne
  | cons e entries =>
      have htext : (pattern options (e :: entries)).toList = options.mode.beginAnchor.toList ++
          (e.group.toList ++ (tail options.strict entries ++ options.mode.endAnchor.toList)) := by
        rw [pattern, String.toList_append, String.toList_append, toList_intercalate]
        simp only [List.append_assoc]
      have hG : Aligned r.program.groups (Assembly.start (Modes.ofFlags flags))
          (pattern options (e :: entries)).toList := hgroups
      rw [htext] at hreads hG
      have hall : AppendsGroups options.strict r.program.groups (e :: entries)
          (Assembly.start (Modes.ofFlags flags)) b := by
        refine AppendsGroups.gap (IsGap.beginAnchor options.strict options.mode) hG hreads
          fun _ hG h => ?_
        refine AppendsGroups.group (hentries e List.mem_cons_self) hG h fun _ hG h => ?_
        exact appendsGroups_of_tail (fun e' he' => hentries e' (List.mem_cons_of_mem e he')) hG h
      rcases hall with ⟨terms, indices, hterms, hrest, hnumbers⟩
      refine ⟨terms, indices, ?_, hrest, hnumbers⟩
      rw [hpattern, Frame.body, hterms.terms, hterms.branches]
      simp [Assembly.start, Frame.start, Pattern.alternation]

end CaptureEntry

end RegexComposition

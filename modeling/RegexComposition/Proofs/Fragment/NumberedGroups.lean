import RegexComposition.Builder
import RegexComposition.Proofs.Fragment.Concatenation
import RegexComposition.Proofs.Pattern.NamedGroup
import RegexComposition.Proofs.Pattern.Pairing
import RegexComposition.Proofs.Pattern.Renaming

/-!
# Numbered groups

The pattern of a list of sources has a group for each of them.  A source is stripped of its
parentheses first, and the group has a name with the position of the source unless the source is a
special group or starts with the shortest text.  Such a pattern is accepted if the sources are, and
it matches like their concatenation if no source refers to a group when it is read among the groups
of the pattern.

Main results:

- `Enclosure.stripPlain`: how the pattern itself is stripped.
- `Builder.NumberedGroup`: the three forms of a group.
- `Regex.IsNumberable.fitsNamed`, `Regex.Blends.gains_numbered`: a group in the pattern.
- `Regex.exists_compile_numbered`: the pattern is accepted, and what it matches.
- `Regex.matchesIn_numbered`: it matches like the concatenation of the sources.
-/

namespace RegexComposition

open Assembly Enclosure

/-! ## Sources among groups with names -/

/-- A source without the escape `\k` that can be read alone has no faults in a grammar with more
groups, which may have names, if it has no references there. -/
theorem Grammar.ReadsPlainly.of_unmentioned {g g₀ g' : Grammar} {a b : Assembly} {text : List Char}
    (hg : g.Agrees g₀) (hcount : g.groups.length ≤ g₀.groups.length) (hrenames : g₀.Renames g')
    (href : ∀ token ∈ Token.ofSource g' text, token.isReference = false)
    (hk : mentionsName false text = false) (h : Reads g a text b []) : g'.ReadsPlainly text := by
  generalize hend : ([] : List Char) = remaining at h
  induction h with
  | done a text =>
      subst hend
      exact fun token htoken => absurd htoken List.not_mem_nil
  | @token a b d c rest remaining token extra hread hstep _ ih =>
      have ht := ne_fault_of_step hstep
      -- What is read with the names can be told from what is read without them.
      have hunnamed : ∀ {token extra}, Token.readAt g₀ c rest = (token, extra) →
          (∀ cause, token ≠ .fault cause) → Token.readAt g' c rest = (token, extra) := by
        intro token extra hread ht
        refine Token.readAt_renamed hrenames hread ht (mentionsName_of_append (r := rest.drop extra) ?_)
        rwa [List.cons_append, List.take_append_drop]
      have hfirst : (Token.readAt g' c rest).1.isReference = false :=
        href _ (by rw [Token.ofSource_cons rfl]; exact List.mem_cons_self)
      have href₀ : (Token.readAt g₀ c rest).1.isReference = false := by
        rcases hread₀ : Token.readAt g₀ c rest with ⟨token₀, extra₀⟩
        cases token₀ with
        | backreference i =>
            rw [hunnamed hread₀ (by simp)] at hfirst
            exact hfirst
        | _ => rfl
      have hread' := hunnamed (Token.readAt_of_isReference_eq_false hg hcount hread ht href₀) ht
      rw [hread'] at hfirst
      rw [Token.ofSource_cons hread'] at href
      rw [ReadsPlainly, Token.ofSource_cons hread']
      refine List.forall_mem_cons.2 ⟨?_, ih
        (fun other hother => href other (List.mem_cons_of_mem token hother)) ?_ hend⟩
      · cases token with
        | backreference i => cases hfirst
        | fault cause => exact absurd rfl (ht cause)
        | _ => rfl
      · rcases Token.spelling_readAt hread ht with ⟨-, hspelling⟩
        rw [← List.append_nil (rest.drop extra)] at hspelling
        refine mentionsName_of_spelling hspelling ?_
        rwa [List.cons_append, List.take_append_drop]

/-- A part of a grammar with names, in which the escape `\k` does not occur, blends into it. -/
theorem Regex.IsPart.blends_unmentioned {g : Grammar} {flags : Flags} {r : Regex}
    (h : r.IsPart g flags) (hu : g.unicode = flags.contains .unicode)
    (hcount : r.program.groups.length ≤ g.groups.length)
    (hk : mentionsName false r.source.toList = false) : r.Blends g flags := by
  rcases Regex.exists_reads_of_compile h.accepted h.unnamed with ⟨hgroups, b, hreads, -⟩
  have hagrees : (Program.grammar r.source flags).Agrees
      ⟨g.unicode, List.replicate g.groups.length none⟩ :=
    Grammar.agrees_of_unnamed hgroups hu (by simp [Grammar.hasGroupNames])
  refine ⟨h.accepted, h.unnamed, hu, hcount, ?_⟩
  refine Grammar.ReadsPlainly.of_unmentioned hagrees ?_ ⟨rfl, by simp⟩ h.unreferenced hk hreads
  rw [hgroups, List.length_replicate, List.length_replicate]
  exact hcount

namespace Enclosure

/-! ## Stripping the pattern -/

/-- Removes one pair of parentheses if it encloses the whole source, except those of a special
group. -/
def stripPlain (source : String) : String :=
  if startsWithGroupMark (strip source).toList then "(" ++ strip source ++ ")" else strip source

variable {inside rest : List Char}

/-- A group at the start of a source is stripped of its parentheses if nothing follows it. -/
theorem stripChars_of_pairs (h : Pairs inside) :
    stripChars ('(' :: (inside ++ ')' :: rest)) =
      if rest = [] then inside else '(' :: (inside ++ ')' :: rest) := by
  have hindex : closingIndex? ('(' :: (inside ++ ')' :: rest)) = some (inside.length + 1) := by
    have hopening : closingFrom 0 false false ('(' :: (inside ++ ')' :: rest)) =
        (closingFrom 1 false false (inside ++ ')' :: rest)).map (· + 1) := rfl
    have hclosing : closingFrom 1 false false (')' :: rest) = some 0 := rfl
    rw [closingIndex?, List.head?_cons, if_pos rfl, hopening, h.closingFrom_append Nat.one_pos,
      hclosing]
    simp
  rw [stripChars, hindex]
  cases rest with
  | nil => simp
  | cons c rest => simp

/-- The mark of a special group starts with a question mark. -/
theorem head?_of_startsWithGroupMark (h : startsWithGroupMark inside = true) :
    inside.head? = some '?' := by
  unfold startsWithGroupMark at h
  split at h
  · rfl
  · cases h

/-- The mark of a special group stands in front of more than a closing parenthesis. -/
theorem startsWithGroupMark_of_append
    (h : startsWithGroupMark (inside ++ [')']) = true) : startsWithGroupMark inside = true := by
  cases inside with
  | nil => cases h
  | cons c inside =>
      by_cases hc : c = '?'
      · subst hc
        cases inside with
        | nil => cases h
        | cons d inside => exact h
      · simp [startsWithGroupMark, hc] at h

theorem startsWithGroupMark_append (h : startsWithGroupMark inside = true) (rest : List Char) :
    startsWithGroupMark (inside ++ rest) = true := by
  unfold startsWithGroupMark at h
  split at h
  · exact h
  · cases h

/-- A source that starts with a special group stays as it is. -/
theorem stripPlain_special (h : startsWithGroupMark rest = true) :
    stripPlain (String.ofList ('(' :: rest)) = String.ofList ('(' :: rest) := by
  rw [stripPlain, strip, String.toList_ofList, String.toList_ofList]
  rcases stripChars_cases ('(' :: rest) with hsame | ⟨inside, hrest, hstrip, -⟩
  · rw [hsame, if_neg (by simp [startsWithGroupMark])]
  · obtain rfl := (List.cons.inj hrest).2
    rw [hstrip, if_pos (startsWithGroupMark_of_append h)]
    exact String.toList_injective (by simp)

end Enclosure

/-! ## The group of a source -/

namespace Regex

/-- The source can be put in a numbered group: it is accepted on its own, without named groups,
references and the escape `\k`, and it is no group with modifiers. -/
structure IsNumberable (flags : Flags) (r : Regex) : Prop where
  part : r.IsPart (Program.grammar r.source flags) flags
  unmentioned : mentionsName false r.source.toList = false
  unmodified : (stripChars r.source.toList).head? = some '?' →
    startsWithGroupMark (stripChars r.source.toList) = true

instance (flags : Flags) (r : Regex) : Decidable (r.IsNumberable flags) :=
  decidable_of_iff (r.IsPart (Program.grammar r.source flags) flags ∧
      mentionsName false r.source.toList = false ∧
      ((stripChars r.source.toList).head? = some '?' →
        startsWithGroupMark (stripChars r.source.toList) = true))
    ⟨fun h => ⟨h.1, h.2.1, h.2.2⟩, fun h => ⟨h.1, h.2, h.3⟩⟩

end Regex

/-- The forms of the group for the source at a position: a special group stays as it is, the shortest
text gets no name, and everything else is named after the position. -/
inductive Builder.NumberedGroup (position : Nat) (source : List Char) : List Char → Prop
  | special {inside : List Char} (hsource : source = '(' :: (inside ++ [')']))
      (hmark : startsWithGroupMark inside = true)
      (hscan : closingFrom 1 false false (inside ++ [')']) = some inside.length) :
      NumberedGroup position source source
  | unnamed (hdots : ['.', '*', '?'] <+: stripChars source) :
      NumberedGroup position source ('(' :: (stripChars source ++ [')']))
  | named (hhead : (stripChars source).head? ≠ some '?') :
      NumberedGroup position source
        ('(' :: (GroupName.mark (GroupName.numbered position) ++ (stripChars source ++ [')'])))

namespace Builder.NumberedGroup

variable {position : Nat} {source text : List Char}

/-- A group that is no special one holds the source without its parentheses. -/
theorem special_or_opens (h : NumberedGroup position source text) :
    (text = source ∧ ∃ inside, source = '(' :: (inside ++ [')']) ∧
        closingFrom 1 false false (inside ++ [')']) = some inside.length) ∨
      ∃ name mark, Opens (.capturing name) mark ∧
        (∀ n, name = some n → n = GroupName.numbered position) ∧
        (stripChars source).head? ≠ some '?' ∧
        text = '(' :: (mark ++ (stripChars source ++ [')'])) := by
  cases h with
  | special hsource _ hscan => exact .inl ⟨rfl, _, hsource, hscan⟩
  | unnamed hdots =>
      refine .inr ⟨none, [], OpensWith.capturing.opens, by simp, ?_, rfl⟩
      rcases hdots with ⟨rest, hrest⟩
      rw [← hrest]
      simp
  | named hhead =>
      have hidentifier := GroupName.isIdentifier_numbered position
      exact .inr ⟨_, _, Opens.named hidentifier, fun n hn => (Option.some.inj hn).symm, hhead, rfl⟩

/-- The group stops every reader in front of it. -/
theorem stops (h : NumberedGroup position source text) : Stops text := by
  rcases h.special_or_opens with ⟨rfl, inside, rfl, -⟩ | ⟨_, _, -, -, -, rfl⟩
  · exact stops_opening _
  · exact stops_opening _

end Builder.NumberedGroup

/-- Stripped of its parentheses, a source that does not start with a mark is one that matches alike. -/
theorem Regex.Blends.exists_stripChars {g : Grammar} {flags : Flags} {r : Regex}
    (h : r.Blends g flags) (hhead : (stripChars r.source.toList).head? ≠ some '?') :
    ∃ r' : Regex, r'.source.toList = stripChars r.source.toList ∧ r'.Blends g flags ∧
      r'.program.pattern.Alike r.program.pattern := by
  have hstrip : (strip r.source).toList = stripChars r.source.toList := by
    rw [strip, String.toList_ofList]
  rcases h.exists_strip (hstrip.symm ▸ hhead) with ⟨r', hsource, hr', halike⟩
  exact ⟨r', by rw [hsource, hstrip], hr', halike⟩

/-- The scan for the escape passes over the parentheses. -/
theorem mentionsName_stripChars {source : List Char} (h : mentionsName false source = false) :
    mentionsName false (stripChars source) = false := by
  rcases stripChars_cases source with hsame | ⟨inside, hsource, hstrip, -⟩
  · rwa [hsame]
  · rw [hsource, mentionsName_plain (by decide)] at h
    rw [hstrip]
    exact mentionsName_of_append h

namespace Regex.IsNumberable

variable {flags : Flags} {r : Regex} {position : Nat} {text : List Char}

/-- The source blends into its own grammar. -/
theorem blends (h : r.IsNumberable flags) : r.Blends (Program.grammar r.source flags) flags := by
  have hgroups := (Regex.exists_reads_of_compile h.part.accepted h.part.unnamed).1
  refine h.part.blends rfl ?_ ?_
  · rw [Grammar.hasGroupNames, hgroups]
    simp
  · rw [hgroups, List.length_replicate]

/-- The group has one of the forms. -/
theorem numberedGroup (h : r.IsNumberable flags) (position : Nat) :
    Builder.NumberedGroup position r.source.toList
      (Builder.numberedGroup position r.source).toList := by
  have hstrip : (strip r.source).toList = stripChars r.source.toList := by
    rw [strip, String.toList_ofList]
  have hplain : ("(" ++ strip r.source ++ ")").toList =
      '(' :: (stripChars r.source.toList ++ [')']) := by simp [hstrip]
  unfold Builder.numberedGroup
  dsimp only
  rw [hstrip]
  by_cases hmark : startsWithGroupMark (stripChars r.source.toList) = true
  · rw [if_pos (by simp [hmark]), hplain]
    rcases stripChars_cases r.source.toList with hsame | ⟨inside, hsource, hinside, hscan⟩
    · rw [hsame] at hmark
      exact absurd (head?_of_startsWithGroupMark hmark) h.blends.fits.head
    · rw [hinside] at hmark ⊢
      rw [← hsource]
      exact .special hsource hmark hscan
  · by_cases hdots : ['.', '*', '?'] <+: stripChars r.source.toList
    · rw [if_pos (by simp [List.isPrefixOf_iff_prefix.2 hdots]), hplain]
      exact .unnamed hdots
    · rw [if_neg (by simp [hmark, List.isPrefixOf_iff_prefix, hdots])]
      have htext : ("(?<group_" ++ toString position ++ ">" ++ strip r.source ++ ")").toList =
          '(' :: (GroupName.mark (GroupName.numbered position) ++
            (stripChars r.source.toList ++ [')'])) := by
        simp [hstrip, GroupName.mark, GroupName.numbered]
      rw [htext]
      exact .named (mt h.unmodified hmark)

/-- Stripped of its parentheses the source has at most one group less than as a part of a
composite. -/
theorem composedGroups_le (h : r.IsNumberable flags)
    (hhead : (stripChars r.source.toList).head? ≠ some '?') :
    r.composedGroups ≤ 1 + (GroupName.declared (stripChars r.source.toList)).length := by
  have hgroups := (Regex.exists_reads h.part.accepted).1
  unfold composedGroups
  rcases stripChars_cases r.source.toList with hsame | ⟨inside, hsource, hinside, -⟩
  · rw [hsame, hgroups]
    split <;> omega
  · rw [hinside] at hhead ⊢
    rw [if_pos (by rw [hsource]; rfl), hgroups, hsource]
    rcases h.blends.exists_stripChars (by rwa [hinside]) with ⟨r', hstrip, hr', -⟩
    rcases hr'.exists_reads with ⟨b, hreads, -⟩
    rw [hstrip, hinside] at hreads
    rw [hreads.declared_inside hhead, List.length_cons, Nat.add_comm]

/-- The group can stand between others.  Its only name is that of the position, and it has no fewer
groups than the source has as a part of a composite. -/
theorem fitsNamed (h : r.IsNumberable flags)
    (hform : Builder.NumberedGroup position r.source.toList text) :
    FitsNamed (Modes.ofFlags flags) (GroupName.declared text) text ∧
      ((GroupName.declared text).filterMap id).Sublist [GroupName.numbered position] ∧
      r.composedGroups ≤ (GroupName.declared text).length := by
  have hnone : ∀ n : Nat, (List.replicate n (none : Option String)).filterMap id = [] :=
    fun n => List.filterMap_replicate_of_none rfl
  rcases hform.special_or_opens with ⟨rfl, inside, hsource, -⟩ |
    ⟨name, mark, hopens, hname, hhead, rfl⟩
  · have hfits := h.blends.fits
    rw [hfits.declared_eq]
    refine ⟨hfits.named h.unmentioned, by simp, ?_⟩
    rw [List.length_replicate, composedGroups, if_pos (by rw [hsource]; rfl)]
  · rcases h.blends.exists_stripChars hhead with ⟨r', hinside, hr', -⟩
    have hfits := hr'.fits
    rw [hinside] at hfits
    have hgroup := (hfits.named (mentionsName_stripChars h.unmentioned)).grouped hhead hopens
    have hcount := h.composedGroups_le hhead
    rw [hfits.declared_eq, List.length_replicate] at hcount
    rw [hgroup.declared_eq]
    refine ⟨hgroup, ?_, ?_⟩
    · rw [List.filterMap_append, hnone, List.append_nil]
      cases name with
      | none => exact List.nil_sublist _
      | some name =>
          obtain rfl := hname name rfl
          exact List.Sublist.refl _
    · rw [List.length_append, List.length_replicate]
      exact hcount

end Regex.IsNumberable

/-- In a grammar in which the source has no references, the group adds a term that matches like the
source. -/
theorem Regex.Blends.gains_numbered {g : Grammar} {flags : Flags} {r : Regex} {position : Nat}
    {text : List Char} (h : r.Blends g flags)
    (hform : Builder.NumberedGroup position r.source.toList text) :
    ReadsIn g (Modes.ofFlags flags) (GroupName.declared text).length
      (Frame.Gains fun ps => (Pattern.sequence ps).Alike r.program.pattern) text := by
  rcases hform.special_or_opens with ⟨rfl, inside, hsource, hscan⟩ |
    ⟨name, mark, hopens, -, hhead, rfl⟩
  · have hbar : r.program.pattern.isEither = false := by
      rcases h.exists_reads with ⟨b, hreads, -, -, hpattern⟩
      rw [hsource] at hreads
      rw [hpattern]
      exact hreads.isEither_eq_false hscan
    rw [h.fits.declared_eq, List.length_replicate]
    exact h.gains (Grammar.CarriesTo.refl g) (Nat.le_refl _) hbar
  · rcases h.exists_stripChars hhead with ⟨r', hinside, hr', halike⟩
    rcases hr'.exists_reads with ⟨b, hreads, -⟩
    rw [← hinside] at hhead ⊢
    rw [Fits.declared_grouped_of_reads hreads hhead hopens, hr'.fits.declared_eq, List.length_append,
      List.length_replicate]
    exact hr'.gains_grouped (Grammar.CarriesTo.refl g) (Nat.le_refl _) hopens
      fun i _ hp => (hp.trans halike).group_left i

/-! ## The pattern -/

namespace Builder

/-- The groups of sources at positions. -/
def numberedText (items : List (Nat × Regex)) : String :=
  String.join (items.map fun item => numberedGroup item.1 item.2.source)

/-- The groups of the source at a position. -/
def numberedNames (item : Nat × Regex) : List (Option String) :=
  GroupName.declared (numberedGroup item.1 item.2.source).toList

theorem toList_numberedText (items : List (Nat × Regex)) : (numberedText items).toList =
    items.flatMap fun item => (numberedGroup item.1 item.2.source).toList := by
  rw [numberedText, String.toList_join, List.flatMap_map]

theorem numberedGroup_ne_empty (position : Nat) (source : String) :
    numberedGroup position source ≠ "" := by
  unfold numberedGroup
  dsimp only
  split <;> simp

theorem numberedText_cons (item : Nat × Regex) (items : List (Nat × Regex)) :
    numberedText (item :: items) = numberedGroup item.1 item.2.source ++ numberedText items := by
  refine String.toList_injective ?_
  rw [String.toList_append, toList_numberedText, toList_numberedText, List.flatMap_cons]

end Builder

namespace Regex

open Builder

variable {flags : Flags} {items : List (Nat × Regex)}

/-- The groups can stand one behind the other. -/
theorem fitsNamed_numbered (hitems : ∀ item ∈ items, item.2.IsNumberable flags) :
    FitsNamed (Modes.ofFlags flags) (items.flatMap numberedNames) (numberedText items).toList := by
  rw [toList_numberedText]
  refine (FitsNamed.flatMap (fun item hitem => ?_) fun item hitem => ?_).1
  · exact ((hitems item hitem).fitsNamed ((hitems item hitem).numberedGroup item.1)).1
  · exact ((hitems item hitem).numberedGroup item.1).stops

/-- Different positions have different names. -/
theorem nodup_numberedNames (hitems : ∀ item ∈ items, item.2.IsNumberable flags)
    (hpositions : (items.map Prod.fst).Nodup) :
    ((items.flatMap numberedNames).filterMap id).Nodup := by
  have hsublist : ((items.flatMap numberedNames).filterMap id).Sublist
      ((items.map Prod.fst).map GroupName.numbered) := by
    clear hpositions
    induction items with
    | nil => exact List.Sublist.refl _
    | cons item items ih =>
        have hitem := hitems item List.mem_cons_self
        rw [List.flatMap_cons, List.filterMap_append]
        exact (hitem.fitsNamed (hitem.numberedGroup item.1)).2.1.append
          (ih fun other hother => hitems other (List.mem_cons_of_mem item hother))
  exact hsublist.nodup (hpositions.map GroupName.numbered_injective)

/-- The groups of the pattern. -/
theorem groups_grammar_numbered (hitems : ∀ item ∈ items, item.2.IsNumberable flags) :
    (Program.grammar (numberedText items) flags).groups = items.flatMap numberedNames :=
  (fitsNamed_numbered hitems).declared_eq

/-- There are no fewer groups than in a composite of the sources. -/
theorem sum_composedGroups_le (hitems : ∀ item ∈ items, item.2.IsNumberable flags) :
    ((items.map Prod.snd).map composedGroups).sum ≤
      (Program.grammar (numberedText items) flags).groups.length := by
  rw [groups_grammar_numbered hitems, List.map_map, List.length_flatMap]
  refine List.sum_le_sum fun item hitem => ?_
  exact ((hitems item hitem).fitsNamed ((hitems item hitem).numberedGroup item.1)).2.2

/-- Sources that refer to no groups of the pattern blend into it. -/
theorem IsNumberable.blends_numbered (hitems : ∀ item ∈ items, item.2.IsNumberable flags)
    {item : Nat × Regex} (hitem : item ∈ items)
    (hpart : item.2.IsPart (Program.grammar (numberedText items) flags) flags) :
    item.2.Blends (Program.grammar (numberedText items) flags) flags := by
  refine hpart.blends_unmentioned rfl ?_ (hitems item hitem).unmentioned
  refine Nat.le_trans ?_ (sum_composedGroups_le hitems)
  exact item.2.length_groups_le_composedGroups.trans
    (List.le_sum_of_mem (List.mem_map_of_mem (List.mem_map_of_mem hitem)))

/-- The groups one behind the other are accepted, and match like a sequence of the sources if these
refer to none of them. -/
theorem exists_compile_numberedText (hitems : ∀ item ∈ items, item.2.IsNumberable flags)
    (hpositions : (items.map Prod.fst).Nodup) :
    ∃ r, compile (numberedText items) flags = .ok r ∧
      ((∀ item ∈ items, item.2.Blends (Program.grammar (numberedText items) flags) flags) →
        r.program.pattern.Alike
          (Pattern.sequence (items.map fun item => item.2.program.pattern))) := by
  have hfits := fitsNamed_numbered hitems
  have hnodup := nodup_numberedNames hitems hpositions
  rcases hfits.compile hnodup with ⟨r, hcompile, -⟩
  rw [String.ofList_toList] at hcompile
  refine ⟨r, hcompile, fun hblends => ?_⟩
  have hreads := ReadsIn.flatMap (fun item hitem =>
      (hblends item hitem).gains_numbered ((hitems item hitem).numberedGroup item.1))
    fun item hitem => ((hitems item hitem).numberedGroup item.1).stops
  rw [← toList_numberedText] at hreads
  nth_rewrite 1 [← String.ofList_toList (s := numberedText items)] at hreads
  rcases hreads.compile_of_nodup (hfits.declared_eq ▸ hnodup) with
    ⟨r', frame, hcompile', -, hpattern, hgains⟩
  rw [String.ofList_toList, hcompile] at hcompile'
  obtain rfl := Except.ok.inj hcompile'
  rcases hgains.body with ⟨ps, halike, hbody⟩
  rw [hpattern, hbody]
  exact halike

/-- The groups stay as they are when the pattern is stripped, unless there is a single one without a
name. -/
theorem stripPlain_numberedText {item : Nat × Regex} (hitem : item.2.IsNumberable flags) :
    stripPlain (numberedText (item :: items)) = numberedText (item :: items) ∨
      items = [] ∧ (strip item.2.source).toList.head? ≠ some '?' ∧
        stripPlain (numberedText (item :: items)) = strip item.2.source := by
  have htext : numberedText (item :: items) =
      String.ofList ((numberedGroup item.1 item.2.source).toList ++
        items.flatMap fun item => (numberedGroup item.1 item.2.source).toList) := by
    rw [numberedText_cons, ← toList_numberedText, String.ofList_append, String.ofList_toList,
      String.ofList_toList]
  have hform := hitem.numberedGroup item.1
  rw [htext]
  generalize hrest : (items.flatMap fun item => (numberedGroup item.1 item.2.source).toList) = rest
  generalize (numberedGroup item.1 item.2.source).toList = text at hform
  cases hform with
  | @special inside hsource hmark _ =>
      refine .inl ?_
      rw [hsource, List.cons_append]
      exact stripPlain_special (startsWithGroupMark_append (startsWithGroupMark_append hmark _) _)
  | named _ =>
      refine .inl ?_
      rw [List.cons_append]
      exact stripPlain_special rfl
  | unnamed hdots =>
      rcases hdots with ⟨tail, htail⟩
      have hhead : (stripChars item.2.source.toList).head? ≠ some '?' := by
        rw [← htail]
        simp
      rcases hitem.blends.exists_stripChars hhead with ⟨r', hinside, hr', -⟩
      have hpairs := Pairs.of_compile hr'.accepted
      rw [hinside] at hpairs
      rw [stripPlain, strip, String.toList_ofList, String.toList_ofList, List.cons_append,
        List.append_assoc, List.singleton_append, stripChars_of_pairs hpairs]
      cases rest with
      | cons c rest => exact .inl rfl
      | nil =>
          refine .inr ⟨?_, ?_, ?_⟩
          · rw [List.flatMap_eq_nil_iff] at hrest
            exact List.eq_nil_iff_forall_not_mem.2 fun other hother =>
              numberedGroup_ne_empty _ _ (String.toList_eq_nil_iff.1 (hrest other hother))
          · rwa [strip, String.toList_ofList]
          · rw [if_pos rfl, if_neg (by rw [← htail]; simp [startsWithGroupMark])]
            rfl

/-- The pattern is accepted.  It matches like the sources one behind the other if these refer to none
of its groups. -/
theorem exists_compile_numbered (hitems : ∀ item ∈ items, item.2.IsNumberable flags)
    (hpositions : (items.map Prod.fst).Nodup) :
    ∃ r, compile (stripPlain (numberedText items)) flags = .ok r ∧
      ((∀ item ∈ items, item.2.Blends (Program.grammar (numberedText items) flags) flags) →
        r.program.pattern.Alike
          (Pattern.sequence (items.map fun item => item.2.program.pattern))) := by
  have hwhole := exists_compile_numberedText hitems hpositions
  cases items with
  | nil => exact hwhole
  | cons item items =>
      have hitem := hitems item List.mem_cons_self
      rcases @stripPlain_numberedText _ items _ hitem with heq | ⟨rfl, hhead, heq⟩
      · rwa [heq]
      · rw [heq]
        rcases hitem.blends.exists_strip hhead with ⟨r, hstrip, hr, halike⟩
        refine ⟨r, hstrip ▸ hr.accepted, fun _ => ?_⟩
        exact (Pattern.Alike.singleton_iff.2 halike.symm).symm

/-- The pattern has the same matches as the concatenation of the sources if these refer to none of its
groups, and the same as a composite of them if moreover there is a single one or none has an open
bar. -/
theorem matchesIn_numbered (hitems : ∀ item ∈ items, item.2.IsNumberable flags)
    (hpositions : (items.map Prod.fst).Nodup) :
    ∃ r, compile (stripPlain (numberedText items)) flags = .ok r ∧
      ((∀ part ∈ items.map Prod.snd, part.IsPart (Program.grammar (numberedText items) flags) flags) →
        (∃ r', compile (concatenation (items.map Prod.snd)) flags = .ok r' ∧
          ∀ text, r.matchesIn text = r'.matchesIn text) ∧
        ((items.map Prod.snd).length = 1 ∨
            (∀ part ∈ items.map Prod.snd, part.hasOpenBar = false) →
          ∃ r', compile (String.ofList ((items.map Prod.snd).flatMap composed)) flags = .ok r' ∧
            ∀ text, r.matchesIn text = r'.matchesIn text)) := by
  rcases exists_compile_numbered hitems hpositions with ⟨r, hcompile, hmatches⟩
  refine ⟨r, hcompile, fun hparts => ?_⟩
  have hblends : ∀ item ∈ items,
      item.2.Blends (Program.grammar (numberedText items) flags) flags := fun item hitem =>
    IsNumberable.blends_numbered hitems hitem (hparts item.2 (List.mem_map_of_mem hitem))
  have hall : ∀ part ∈ items.map Prod.snd,
      part.Blends (Program.grammar (numberedText items) flags) flags :=
    List.forall_mem_map.2 hblends
  have hcount := sum_composedGroups_le hitems
  -- Whatever matches like the sources one behind the other has the same matches as the pattern.
  have hsame : ∀ {source r'}, compile source flags = .ok r' →
      r'.program.pattern.Alike
        (Pattern.sequence ((items.map Prod.snd).map fun part => part.program.pattern)) →
      ∀ text, r.matchesIn text = r'.matchesIn text := by
    intro source r' hr' halike
    rw [List.map_map] at halike
    refine matchesIn_eq_of_alike ((hmatches hblends).trans halike.symm) ?_
    rw [(eq_of_compile hcompile).2, (eq_of_compile hr').2]
  constructor
  · rcases exists_compile_concatenation_of_blends hall hcount with ⟨r', hr', halike⟩
    exact ⟨r', hr', hsame hr' halike⟩
  · intro hbars
    rcases exists_compile_composite hall hcount hbars with ⟨r', hr', halike⟩
    exact ⟨r', hr', hsame hr' halike⟩

end Regex

end RegexComposition

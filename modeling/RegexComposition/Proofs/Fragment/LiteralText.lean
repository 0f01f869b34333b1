import RegexComposition.Proofs.Fragment.Denotation
import RegexComposition.Proofs.Fragment.Insertion

/-!
# The text of a literal

The source of a literal can be read wherever it stands, and a group around it among the groups of
other arguments.  Only a hyphen, which is always escaped, cannot be read with the flag `u`, under
which no backslash may stand in front of it.

Main results:

- `Flags.Refuses`: the texts that cannot be escaped under the flags.
- `Regex.exists_compile_escapeLiteral_iff`: all other texts can.
- `Builder.exists_compile_literal`: an accepted source stays accepted with a literal more.
- `Builder.compile_literal_eq_error`: unless the flags refuse it.
-/

namespace RegexComposition

open Assembly Enclosure

/-! ## Escaped texts -/

/-- The text has a hyphen, which the flag `u` forbids to escape. -/
def Flags.Refuses (flags : Flags) (text : String) : Prop :=
  .unicode ∈ flags.toList ∧ '-' ∈ text.toList

instance (flags : Flags) (text : String) : Decidable (flags.Refuses text) :=
  inferInstanceAs (Decidable (_ ∧ _))

theorem mem_unpaired_hyphen {text : List Char} : '-' ∈ unpaired text ↔ '-' ∈ text := by
  induction text using unpaired.induct with
  | case1 rest ih => simp [unpaired, ih]
  | case2 c rest hpair ih => simp [unpaired, ih]
  | case3 => rfl

namespace Escapes

variable {text source after remaining : List Char} {g : Grammar}

/-- With the flag `u` an escaped text with a hyphen cannot be read to its end. -/
theorem not_reads (h : Escapes text source) (hunicode : g.unicode = true) (hmem : '-' ∈ text)
    (hlength : remaining.length ≤ after.length) (a b : Assembly) :
    ¬ Reads g a (source ++ after) b remaining := by
  have hrest : ∀ source : List Char, remaining.length ≤ (source ++ after).length := by
    intro source
    rw [List.length_append]
    omega
  induction h generalizing a with
  | nil => cases hmem
  | @plain c text source hc _ ih =>
      intro hreads
      have hne : '-' ≠ c := by
        rintro rfl
        cases hc
      rcases hreads.exists_of_cons (Token.readAt_of_not_metaCharacter hc) (hrest source) with
        ⟨d, -, hd⟩
      exact ih (List.mem_of_ne_of_mem hne hmem) d hd
  | @escaped c text source hc _ ih =>
      intro hreads
      by_cases hhyphen : '-' = c
      · subst hhyphen
        rcases hreads.exists_of_cons (Token.readAt_hyphen hunicode _) (hrest _) with ⟨d, hstep, -⟩
        cases hstep
      · rcases hreads.exists_of_cons (Token.readAt_of_metaCharacter (fun _ => Ne.symm hhyphen) hc)
          (hrest _) with ⟨d, -, hd⟩
        exact ih (List.mem_of_ne_of_mem hhyphen hmem) d hd

/-- The parentheses of an escaped text are characters. -/
theorem neutralText (h : Escapes text source) : NeutralText source := by
  induction h with
  | nil => exact .nil
  | @plain c text source hc _ ih =>
      by_cases hend : c = '>'
      · subst hend
        exact .nameEnd ih
      · refine .inert (fun hmem => ?_) ih
        simp only [List.mem_cons, List.not_mem_nil, or_false] at hmem
        rcases hmem with rfl | rfl | rfl | rfl | rfl | rfl
        all_goals first
          | exact hend rfl
          | cases hc
  | escaped _ _ ih => exact .escaped _ ih

/-- An escaped text is enclosed like every other text that does not start with a parenthesis. -/
theorem enclose_eq (h : Escapes text source) : Emission.enclose (Emission.ofChars source) =
    Emission.ofChars ('(' :: ([] ++ (source ++ [')']))) := by
  rw [Emission.enclose, Emission.chars_ofChars, if_neg (h.head?_ne rfl (by decide))]
  simp [Emission.wrap, Emission.ofString, Emission.ofChars]

end Escapes

namespace Regex

/-- What is not accepted is an invalid pattern. -/
theorem exists_invalidPattern {source : String} {flags : Flags}
    (h : ∀ r, compile source flags ≠ .ok r) :
    ∃ cause, compile source flags = .error (.invalidPattern source cause) := by
  unfold compile at h ⊢
  cases hread : Program.read source flags with
  | ok program =>
      rw [hread] at h
      exact absurd rfl (h _)
  | error cause => exact ⟨cause, rfl⟩

/-- The source of a text is accepted under all flags, unless the flag `u` forbids to escape one of
its hyphens. -/
theorem exists_compile_escapeLiteral_iff (text : String) (flags : Flags) :
    (∃ r, compile (escapeLiteral text) flags = .ok r) ↔ ¬ flags.Refuses text := by
  have hescapes := escapes_escapeChars text.toList
  constructor
  · rintro ⟨r, hcompile⟩ ⟨hunicode, hhyphen⟩
    rcases Program.read_eq_ok_iff.1 (of_compile hcompile).1 with ⟨-, -, b, hreads, -⟩
    rw [escapeLiteral, String.toList_ofList, ← List.append_nil (escapeChars _)] at hreads
    exact hescapes.not_reads (Flags.contains_iff.2 hunicode) (mem_unpaired_hyphen.2 hhyphen)
      (Nat.le_refl _) _ _ hreads
  · intro hrefuses
    have hhyphen : (Modes.ofFlags flags).unicode = true → '-' ∉ unpaired text.toList :=
      fun hunicode hmem =>
        hrefuses ⟨Flags.contains_iff.1 hunicode, mem_unpaired_hyphen.1 hmem⟩
    rcases (Fits.escaped hescapes hhyphen).compile with ⟨r, -, hcompile, -⟩
    exact ⟨r, hcompile⟩

end Regex

/-! ## Further groups without a name -/

/-- The second list has the names of the first one in the same order, and no fewer groups. -/
def GroupName.Pads (groups groups' : List (Option String)) : Prop :=
  groups'.filterMap id = groups.filterMap id ∧ groups.length ≤ groups'.length

namespace GroupName.Pads

variable {first groups groups' : List (Option String)}

theorem cons_none (groups : List (Option String)) : Pads groups (none :: groups) :=
  ⟨rfl, Nat.le_succ _⟩

/-- Behind the same groups. -/
theorem behind (h : Pads groups groups') : Pads (first ++ groups) (first ++ groups') := by
  refine ⟨by simp only [List.filterMap_append, h.1], ?_⟩
  simp only [List.length_append]
  exact Nat.add_le_add_left h.2 _

/-- Groups that are there twice. -/
theorem twice (h : Pads groups groups') : Pads (groups ++ groups) (groups' ++ groups') := by
  refine ⟨by simp only [List.filterMap_append, h.1], ?_⟩
  simp only [List.length_append]
  exact Nat.add_le_add h.2 h.2

/-- Groups without a name in front change no names. -/
theorem unnamed (h : Pads groups groups') (k : Nat) :
    Pads groups (List.replicate k none ++ groups') := by
  have hunnamed : (List.replicate k (none : Option String)).filterMap id = [] :=
    List.filterMap_eq_nil_iff.2 fun _ hname => List.eq_of_mem_replicate hname
  refine ⟨by rw [List.filterMap_append, hunnamed, List.nil_append, h.1], ?_⟩
  exact h.2.trans (by simp)

end GroupName.Pads

/-! ## A literal among arguments -/

namespace Builder

variable {g : Grammar} {modes : Modes} {part : FragmentId → Emission} {pre post : List Slot}
variable {id : FragmentId} {text source : List Char} {flags : Flags} {r : Regex}

/-- An escaped text can be read as an argument, and is one group without a name. -/
theorem exists_readsIn_literal (hpart : part id = Emission.ofChars source)
    (h : Escapes text source) (hu : g.unicode = modes.unicode)
    (hhyphen : modes.unicode = true → '-' ∉ text) :
    (∃ n, ReadsIn g modes n (fun _ _ => True) (argumentText part id)) ∧
      GroupName.declared (argumentText part id) = [none] := by
  have hhead : source.head? ≠ some '?' := h.head?_ne rfl (by decide)
  have hreads := ReadsIn.escaped hu h hhyphen
  have hdeclared : GroupName.declared source = [] := by
    rw [GroupName.declared, ← List.append_nil source, h.declaredFrom_append]
    rfl
  rw [argumentText, hpart, h.enclose_eq, Emission.chars_ofChars]
  refine ⟨⟨_, (hreads.enclosed hhead OpensWith.capturing).mono fun _ _ _ => trivial⟩, ?_⟩
  rw [hreads.declared_enclosed hhead OpensWith.capturing, hdeclared]
  rfl

/-- A text without marks is readable if it can be read. -/
theorem isReadable_ofChars {n : Nat} {l : List Char}
    (h : ReadsIn g modes n (fun _ _ => True) l) : (Emission.ofChars l).IsReadable g modes := by
  have hresolve : Emission.resolve (Emission.ofChars l) = l :=
    (Emission.resolves_resolve _).eq_of_ofChars
  refine ⟨⟨n, ?_⟩, ⟨n, ?_⟩, ?_⟩
  · rwa [Emission.chars_ofChars]
  · rwa [hresolve]
  · rw [hresolve, Emission.chars_ofChars]

namespace ReadsEach

/-- If the arguments can be read one by one, they can be read with a literal among them, and there
are only further groups without a name. -/
theorem literal (h : ReadsEach g modes part (pre ++ post))
    (hpart : part id = Emission.ofChars source) (hsource : Escapes text source)
    (hu : g.unicode = modes.unicode) (hhyphen : modes.unicode = true → '-' ∉ text) :
    (assembled part (pre ++ .product id :: post)).IsReadable g modes ∧
      GroupName.Pads (GroupName.declared (assembled part (pre ++ post)).chars)
        (GroupName.declared (assembled part (pre ++ .product id :: post)).chars) := by
  rcases exists_readsIn_literal hpart hsource hu hhyphen with ⟨hid, hunnamed⟩
  have hliteral : assembled part (.product id :: post) ≠ [] :=
    assembled_ne_of_mem List.mem_cons_self
  -- The induction is on what stands in front, since a reference there copies the literal as well.
  induction pre with
  | nil =>
      rw [List.nil_append, List.nil_append]
      by_cases hpost : assembled part post = []
      · have halone : assembled part (.product id :: post) =
            Emission.ofChars (argumentText part id) := by
          rw [assembled, hpost, List.append_nil, argumentText, hpart, hsource.enclose_eq,
            Emission.chars_ofChars]
        rcases hid with ⟨n, hid⟩
        rw [halone, hpost, Emission.chars_ofChars, hunnamed]
        exact ⟨isReadable_ofChars hid, .cons_none _⟩
      · rcases append_argument hid (h.suffix [] post rfl hpost) hpost with ⟨hwhole, hdeclared⟩
        refine ⟨hwhole, ?_⟩
        rw [hdeclared, hunnamed]
        exact .cons_none _
  | cons slot pre ih =>
      have hrest : assembled part (pre ++ .product id :: post) ≠ [] := assembled_append_ne hliteral
      replace h : ReadsEach g modes part (slot :: (pre ++ post)) := h
      rcases ih h.tail with ⟨hreadable, hpads⟩
      rw [List.cons_append, List.cons_append]
      cases slot with
      | product first =>
          rcases append_argument (h.argument first List.mem_cons_self) hreadable hrest with
            ⟨hwhole, hdeclared⟩
          refine ⟨hwhole, ?_⟩
          rw [h.declared_product, hdeclared]
          exact hpads.behind
      | dropped => exact ⟨hreadable, hpads⟩
      | forward d =>
          rcases hreadable.forward (head?_assembled hrest) d with ⟨hwhole, hdeclared⟩
          rw [assembled_forward hrest]
          refine ⟨hwhole, ?_⟩
          rw [hdeclared]
          by_cases hbefore : assembled part (pre ++ post) = []
          · -- The reference had nothing to refer to before.
            rw [assembled, if_pos hbefore]
            rw [hbefore] at hpads
            exact hpads.twice.unnamed _
          · have hdeclared' := ((h.suffix [_] (pre ++ post) rfl hbefore).forward
              (head?_assembled hbefore) d).2
            rw [assembled_forward hbefore, hdeclared']
            exact hpads.twice.behind

end ReadsEach

/-- Let the source of arguments be accepted.  With a literal among them it is accepted under the
same flags, if these do not refuse the text. -/
theorem exists_compile_literal {l : String} (hpart : part id = Emission.ofString (escapeLiteral l))
    (hcompile : Regex.compile (assembledSource part (pre ++ post)) flags = .ok r)
    (hpairs : PairsAll part (pre ++ post)) (hrefuses : ¬ flags.Refuses l) : ∃ r',
      Regex.compile (assembledSource part (pre ++ .product id :: post)) flags = .ok r' := by
  rw [Emission.ofString, escapeLiteral, String.toList_ofList] at hpart
  rcases exists_readsEach hcompile hpairs with ⟨groups, hnodup, hgroups, heach⟩
  have hhyphen : (Modes.ofFlags flags).unicode = true → '-' ∉ unpaired l.toList :=
    fun hunicode hmem => hrefuses ⟨Flags.contains_iff.1 hunicode, mem_unpaired_hyphen.1 hmem⟩
  rcases heach.literal hpart (escapes_escapeChars l.toList) rfl hhyphen with ⟨hreadable, hpads⟩
  rw [← hgroups] at hpads
  exact exists_compile_of_isReadable hnodup hreadable hpads.1 hpads.2

/-- A literal that the flags refuse is refused among arguments, too. -/
theorem compile_literal_eq_error {l : String}
    (hpart : part id = Emission.ofString (escapeLiteral l)) (hpairs : PairsAll part (pre ++ post))
    (hrefuses : flags.Refuses l) : ∃ cause,
      Regex.compile (assembledSource part (pre ++ .product id :: post)) flags =
        .error (.invalidPattern (assembledSource part (pre ++ .product id :: post)) cause) := by
  rw [Emission.ofString, escapeLiteral, String.toList_ofList] at hpart
  have hescapes := escapes_escapeChars l.toList
  have htext : argumentText part id = '(' :: ([] ++ (escapeChars l.toList ++ [')'])) := by
    rw [argumentText, hpart, hescapes.enclose_eq, Emission.chars_ofChars]
  have hall : PairsAll part (pre ++ .product id :: post) := by
    intro other hother
    rcases List.mem_append.1 hother with hfirst | hlater
    · exact hpairs other (List.mem_append_left _ hfirst)
    · rcases List.mem_cons.1 hlater with heq | hlater
      · obtain rfl := Slot.product.inj heq
        rw [htext]
        exact (Pairs.of_neutral hescapes.neutralText).group NeutralText.nil
      · exact hpairs other (List.mem_append_right _ hlater)
  refine Regex.exists_invalidPattern fun r hcompile => ?_
  rcases exists_readsEach hcompile hall with ⟨groups, -, -, heach⟩
  rcases heach.argument id (List.mem_append_right _ List.mem_cons_self) with ⟨n, hreads⟩
  rcases hreads (Assembly.start (Modes.ofFlags flags)) [] rfl Stops.nil with ⟨frame, hread, -⟩
  rw [htext, List.append_nil] at hread
  have hopening : Token.readOpening (escapeChars l.toList ++ [')']) =
      (.opening (.capturing none), 0) :=
    Token.readOpening_of_head?_ne (head?_closed_ne (hescapes.head?_ne rfl (by decide)) [])
  rcases hread.exists_of_cons hopening (Nat.zero_le _) with ⟨d, -, hinside⟩
  exact hescapes.not_reads (Flags.contains_iff.2 hrefuses.1) (mem_unpaired_hyphen.2 hrefuses.2)
    (Nat.zero_le _) _ _ hinside

end Builder

end RegexComposition

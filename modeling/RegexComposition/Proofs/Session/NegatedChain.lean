import RegexComposition.Proofs.Fragment.Wrapper
import RegexComposition.Proofs.Registry.SuffixChain
import RegexComposition.Proofs.Session.NegatedName

/-!
# Suffixes behind a negated name

Suffixes behind a name in brackets are kept together with the negation as switches of one wrapper, and
a wrapper repeats before it negates.  So a repetition stands inside of the class: it does not repeat
anything, its signs are further characters that are excluded.  Only a question mark that belongs to
no star stands outside, and makes the class optional.

Main results:

- `Registry.resolve?_negatedChain`: what a name in brackets with further suffixes refers to.
- `Graph.language_repeated_negation`, `Graph.language_optional_negation`: what a negated wrapper with
  further switches matches.
- `Builder.negated_chain_matches`: the language of such a name, compared with the negation alone.
- `Builder.negated_chain_repeats_not`: a plus behind the brackets does not repeat.
-/

namespace RegexComposition

open scoped Computability

/-! ## Resolving a chain -/

/-- The name in brackets with further suffixes behind it. -/
def Suffix.negatedChain (name : String) (chain : List Suffix) : String :=
  String.ofList (chained ("[^" ++ name ++ "]").toList chain)

namespace Registry

variable {names : Registry} {name : String} {id : FragmentId} {chain : List Suffix}

/-- A registered name in brackets, with suffixes behind these, is a reference with all their
modifiers, unless it is registered with some of them. -/
theorem resolve?_negatedChain (hname : name ≠ "") (hget : names.get? name = some id)
    (hfree : ∀ init, init <+: chain → names.contains (Suffix.negatedChain name init) = false) :
    names.resolve? (Suffix.negatedChain name chain) =
      some ⟨name, id, (Suffix.merged chain).merge Suffix.negation.modifiers⟩ := by
  have hnegated := hfree [] (List.nil_prefix)
  rw [Suffix.negatedChain, Suffix.chained_nil, String.ofList_toList] at hnegated
  have hbracket : ("[^" ++ name ++ "]").toList = ('[' :: '^' :: name.toList) ++ [']'] := by simp
  have hlast : ("[^" ++ name ++ "]").toList.getLast? = some ']' := by
    rw [hbracket, List.getLast?_concat]
  have hne : ("[^" ++ name ++ "]").toList ≠ [] := by simp
  rw [resolve?, Suffix.negatedChain, String.toList_ofList, resolveFrom_chained hne
      (by rw [hlast]; decide) (fun init hinit _ => get?_eq_none_iff.2 (hfree init hinit)),
    resolveFrom_negated hname hget hnegated, Modifiers.none_merge]

end Registry

/-! ## Negation with further switches -/

namespace Graph

variable {g : Graph} {id : FragmentId} {m : Modifiers} {given default : Option Flags} {r₀ r : Regex}

/-- A negated wrapper, and one that has further switches, are compiled from one text under the same
flags. -/
theorem exists_complement (hquantifier : m.quantifier = none)
    (h₀ : (g.addWrapper id Suffix.negation.modifiers).2.regex
      (g.addWrapper id Suffix.negation.modifiers).1 given default = .ok r₀)
    (h : (g.addWrapper id (m.merge Suffix.negation.modifiers)).2.regex
      (g.addWrapper id (m.merge Suffix.negation.modifiers)).1 given default = .ok r) :
    ∃ e, g.emit maxNesting id = .ok e ∧
      Regex.compile (Regex.complement (Emission.enclose e).chars) r₀.flags = .ok r₀ ∧
      Regex.compile (String.ofList (if m.optional && !m.zeroOrMore then
        '(' :: ((Regex.complement (m.frontSigns ++ ((Emission.enclose e).chars ++
          m.backSigns))).toList ++ [')', '?'])
        else (Regex.complement (m.frontSigns ++ ((Emission.enclose e).chars ++
          m.backSigns))).toList)) r₀.flags = .ok r := by
  rcases exists_of_regex_addWrapper h₀ with ⟨e, hemit, hflags, hcompile₀⟩
  rcases exists_of_regex_addWrapper h with ⟨e', hemit', hflags', hcompile⟩
  obtain rfl := Except.ok.inj (hemit.symm.trans hemit')
  have hsame := Except.ok.inj (hflags.symm.trans hflags')
  have hfront : (m.merge Suffix.negation.modifiers).frontSigns = m.frontSigns := by
    simp [Modifiers.frontSigns, Modifiers.merge, Suffix.modifiers]
  have hback : (m.merge Suffix.negation.modifiers).backSigns = m.backSigns := by
    simp [Modifiers.backSigns, Modifiers.merge, Suffix.modifiers]
  have hnegated : (m.merge Suffix.negation.modifiers).negated = true := Bool.or_true _
  have hoptional : ((m.merge Suffix.negation.modifiers).optional &&
      !(m.merge Suffix.negation.modifiers).zeroOrMore) = (m.optional && !m.zeroOrMore) := by
    simp [Modifiers.merge, Suffix.modifiers]
  have hquantifier' : (m.merge Suffix.negation.modifiers).quantifier = none := by
    simp [Modifiers.merge, Suffix.modifiers, hquantifier]
  rw [Modifiers.resolve_apply_negated hquantifier' hnegated, hfront, hback, hoptional, ← hsame]
    at hcompile
  refine ⟨e, hemit, ?_, hcompile⟩
  have halone := Modifiers.resolve_apply_negated (m := Suffix.negation.modifiers) rfl rfl
    (Emission.enclose e)
  have hplain : Emission.resolve (Suffix.negation.modifiers.apply (Emission.enclose e)) =
      (Regex.complement (Emission.enclose e).chars).toList := by
    rw [halone]
    simp [Suffix.modifiers, Modifiers.frontSigns, Modifiers.backSigns]
  rw [hplain, String.ofList_toList] at hcompile₀
  exact hcompile₀

/-- Without a repetition a question mark makes the negation optional. -/
theorem language_optional_negation (hquantifier : m.quantifier = none) (hoptional : m.optional = true)
    (hone : m.oneOrMore = false) (hmany : m.zeroOrMore = false)
    (h₀ : (g.addWrapper id Suffix.negation.modifiers).2.regex
      (g.addWrapper id Suffix.negation.modifiers).1 given default = .ok r₀)
    (h : (g.addWrapper id (m.merge Suffix.negation.modifiers)).2.regex
      (g.addWrapper id (m.merge Suffix.negation.modifiers)).1 given default = .ok r)
    (hnames : (Program.grammar ("(" ++ r₀.source ++ ")") r₀.flags).RefersByNames r₀.source.toList) :
    r.language = r₀.language + 1 := by
  rcases exists_complement hquantifier h₀ h with ⟨e, -, hcompile₀, hcompile⟩
  have hfront : m.frontSigns = [] := by simp [Modifiers.frontSigns, hone, hmany]
  have hback : m.backSigns = [] := by simp [Modifiers.backSigns, hone, hmany]
  have hsource := (Regex.eq_of_compile hcompile₀).1
  rw [hfront, hback, List.append_nil, List.nil_append, hoptional, hmany, Bool.not_false,
    Bool.and_true, if_pos rfl, ← hsource] at hcompile
  rw [← hsource] at hcompile₀
  have hgroup : "(" ++ r₀.source ++ ")" = String.ofList ('(' :: (r₀.source.toList ++ [')'])) :=
    String.toList_injective (by simp)
  rw [hgroup] at hnames
  rcases Regex.exists_compile_optional hcompile₀ hnames with ⟨r', i, hcompile', hpattern⟩
  obtain rfl := Except.ok.inj (hcompile.symm.trans hcompile')
  exact Regex.language_optional hpattern

/-- A repetition in a negation adds its signs to what is excluded. -/
theorem language_repeated_negation (hquantifier : m.quantifier = none)
    (hrepeated : m.oneOrMore = true ∨ m.zeroOrMore = true)
    (h₀ : (g.addWrapper id Suffix.negation.modifiers).2.regex
      (g.addWrapper id Suffix.negation.modifiers).1 given default = .ok r₀)
    (h : (g.addWrapper id (m.merge Suffix.negation.modifiers)).2.regex
      (g.addWrapper id (m.merge Suffix.negation.modifiers)).1 given default = .ok r)
    {r' : Regex} (halone : g.regex id given default = .ok r')
    (hhyphen : r₀.excludedAtoms.getLast? ≠ some .hyphen) :
    r.language = if m.optional && !m.zeroOrMore
      then r₀.languageWithout (m.frontSigns ++ m.backSigns) + 1
      else r₀.languageWithout (m.frontSigns ++ m.backSigns) := by
  rcases exists_complement hquantifier h₀ h with ⟨e, hemit, hcompile₀, hcompile⟩
  have hpass := pass_of_regex halone hemit
  have hhead := Emission.head?_enclose e
  generalize (Emission.enclose e).chars = text at hcompile₀ hcompile hpass hhead
  rcases Modifiers.exists_backSigns_eq hrepeated with ⟨after, hback⟩
  have hsigns := m.signs_plain
  have hunescaped : ∀ c ∈ m.frontSigns ++ m.backSigns, c ∉ ['\\', ']'] := fun c hc hmem =>
    (hsigns c hc).2 (List.mem_cons_of_mem _ hmem)
  have hfront : ∀ c ∈ m.frontSigns, c ∉ ['\\', ']'] := fun c hc =>
    hunescaped c (List.mem_append_left _ hc)
  have hoptional : (m.optional && !m.zeroOrMore) = true → m.backSigns = [')', '+'] := by
    intro hoptional
    have hmany : m.zeroOrMore = false := by simpa using (Bool.and_eq_true_iff.1 hoptional).2
    have hone : m.oneOrMore = true := hrepeated.resolve_right (by simp [hmany])
    simp [Modifiers.backSigns, hone, hmany]
  -- The repetition puts a parenthesis behind the text, so the class cannot end in it.
  have hclass : ClassText (text ++ [']']) := by
    cases houtside : m.optional && !m.zeroOrMore with
    | true =>
        rw [houtside, if_pos rfl, hoptional houtside] at hcompile
        exact ClassText.of_compile_optional hpass hcompile₀ hfront hcompile
    | false =>
        rw [houtside, if_neg Bool.false_ne_true, String.ofList_toList, hback] at hcompile
        exact ClassText.of_compile hpass hcompile₀ hfront hcompile
  rw [Regex.excludedAtoms_eq (Regex.eq_of_compile hcompile₀).1] at hhyphen
  have hstops : Stops (m.backSigns ++ [']']) := by
    rw [hback]
    exact stops_closing _
  rcases Regex.exists_compile_between hclass hcompile₀ hhead hhyphen hsigns hstops with
    ⟨r₁, hcompile₁, hlanguage⟩
  rw [← hlanguage]
  cases houtside : m.optional && !m.zeroOrMore with
  | true =>
      rcases Regex.exists_compile_optional_complement (hclass.between hunescaped) hcompile₁ with
        ⟨r₂, hcompile₂, hlanguage₂⟩
      rw [houtside, if_pos rfl, hcompile₂] at hcompile
      obtain rfl := Except.ok.inj hcompile
      exact hlanguage₂
  | false =>
      rw [houtside, if_neg Bool.false_ne_true, String.ofList_toList, hcompile₁] at hcompile
      obtain rfl := Except.ok.inj hcompile
      rfl

end Graph

/-! ## Names -/

namespace Builder

open Session

variable {σ : Type} {b : Builder} {s s₀ s₁ : SessionState σ} {name : String} {id : FragmentId}
variable {flags : Option Flags} {chain : List Suffix} {r₀ r : Regex}

/-- Without a name the brackets refer to nothing. -/
theorem after_toRegex_brackets (hfree : (s.workspace.names b.registry).contains "[^]" = false) :
    (b.toRegex (.name "[^]") flags).after s = (.error (.notFound "[^]"), s) := by
  have hnone : (s.workspace.names b.registry).resolve? "[^]" = none := by
    rw [Registry.resolve?, Registry.resolveFrom]
    simp only [String.ofList_toList, Registry.get?_eq_none_iff.2 hfree]
    rfl
  have hvalue : (b.resolveValue (.name "[^]")).after s = (.error (.notFound "[^]"), s) := by
    simp only [resolveValue, resolveReference, after_bind, after_workspace, hnone]
    rfl
  simp only [toRegex, after_bind, hvalue]

/-- Take a registered name in brackets and the same with further suffixes behind the brackets, and let
both be accepted.  If all suffixes are question marks, the second one matches what the first one
matches and the empty text, provided that this refers to groups by their names only.  If one of them
is a repetition, and the name is accepted alone, the second one matches what the first one matches
without the parentheses and signs of the repetitions, unless the class ends with a hyphen; and a
question mark that belongs to no star adds the empty text. -/
theorem negated_chain_matches (hchain : .negation ∉ chain) (hne : chain ≠ [])
    (hget : (s.workspace.names b.registry).get? name = some id)
    (hfree : ∀ init, init <+: chain →
      (s.workspace.names b.registry).contains (Suffix.negatedChain name init) = false)
    (h₀ : (b.toRegex (.name ("[^" ++ name ++ "]")) flags).after s = (.ok r₀, s₀))
    (h : (b.toRegex (.name (Suffix.negatedChain name chain)) flags).after s = (.ok r, s₁)) :
    let m := Suffix.merged chain
    (m.oneOrMore = false → m.zeroOrMore = false →
      (Program.grammar ("(" ++ r₀.source ++ ")") r₀.flags).RefersByNames r₀.source.toList →
        r.language = r₀.language + 1) ∧
    (m.oneOrMore = true ∨ m.zeroOrMore = true → ∀ r' s', (b.toRegex (.name name) flags).after s =
        (.ok r', s') → r₀.excludedAtoms.getLast? ≠ some .hyphen →
      r.language = if m.optional && !m.zeroOrMore
        then r₀.languageWithout (m.frontSigns ++ m.backSigns) + 1
        else r₀.languageWithout (m.frontSigns ++ m.backSigns)) := by
  intro m
  have hnegated : (s.workspace.names b.registry).contains ("[^" ++ name ++ "]") = false := by
    have hfirst := hfree [] List.nil_prefix
    rwa [Suffix.negatedChain, Suffix.chained_nil, String.ofList_toList] at hfirst
  have hname : name ≠ "" := by
    rintro rfl
    have hbrackets : "[^" ++ "" ++ "]" = "[^]" := by decide
    rw [hbrackets] at hnegated h₀
    rw [after_toRegex_brackets hnegated] at h₀
    cases h₀
  have hquantifier : m.quantifier = none := Suffix.quantifier_merged chain
  have hmodifiers : (m.merge Suffix.negation.modifiers).isEmpty = false := by
    simp [Modifiers.isEmpty, Modifiers.merge, Suffix.modifiers]
  rw [after_toRegex_negated hname hget hnegated] at h₀
  rw [after_toRegex_of_resolve? (Registry.resolve?_negatedChain hname hget hfree) hmodifiers]
    at h
  have hregex₀ := congrArg Prod.fst h₀
  have hregex := congrArg Prod.fst h
  refine ⟨fun hone hmany hnames => ?_, fun hrepeated r' s' halone hhyphen => ?_⟩
  · exact Graph.language_optional_negation hquantifier (Suffix.optional_merged hchain hne
      hone hmany) hone hmany hregex₀ hregex hnames
  · rw [after_toRegex_name hget] at halone
    exact Graph.language_repeated_negation hquantifier hrepeated hregex₀ hregex
      (congrArg Prod.fst halone) hhyphen

/-- An alias for the digits is compiled in a wrapper with the modifiers of the suffixes. -/
theorem after_toRegex_digit {token : String} {m : Modifiers} {r : Regex}
    (hresolve : (characters.workspace.names ⟨0⟩).resolve? token = some ⟨"digit", ⟨0⟩, m⟩)
    (hm : m.isEmpty = false) (hregex : (characters.workspace.graph.addWrapper ⟨0⟩ m).2.regex
      (characters.workspace.graph.addWrapper ⟨0⟩ m).1 none none = .ok r) :
    ((⟨⟨0⟩, none⟩ : Builder).toRegex (.name token) none).after characters =
      (.ok r, characters.withGraph (characters.workspace.graph.addWrapper ⟨0⟩ m).2) := by
  rw [after_toRegex_of_resolve? hresolve hm, hregex]

/-- The negation of the digits excludes the parentheses as well. -/
theorem after_toRegex_notDigit :
    ((⟨⟨0⟩, none⟩ : Builder).toRegex (.name "[^digit]") none).after characters =
      (.ok ⟨"[^(\\d)]", Flags.withGlobal ∅, ⟨.sequence [.char ⟨.exact,
        [.single 40, .category .digit false, .single 41], true⟩], []⟩, []⟩,
      characters.withGraph
        (characters.workspace.graph.addWrapper ⟨0⟩ Suffix.negation.modifiers).2) := by
  have hget : (characters.workspace.names ⟨0⟩).get? "digit" = some ⟨0⟩ := rfl
  have hresolve := Registry.resolve?_negated (by decide) hget (by decide)
  exact after_toRegex_digit hresolve rfl rfl

/-- For digits a question mark is applied to the negation, and of a plus and a question mark only the
latter. -/
theorem negated_chain_matches_digit : ∃ r₀ r₁ r₂ s₀ s₁ s₂,
    ((⟨⟨0⟩, none⟩ : Builder).toRegex (.name "[^digit]") none).after characters = (.ok r₀, s₀) ∧
    ((⟨⟨0⟩, none⟩ : Builder).toRegex (.name "[^digit]?") none).after characters = (.ok r₁, s₁) ∧
    ((⟨⟨0⟩, none⟩ : Builder).toRegex (.name "[^digit]+?") none).after characters = (.ok r₂, s₂) ∧
    r₁.language = r₀.language + 1 ∧ r₂.language = r₀.languageWithout ['(', ')', '+'] + 1 := by
  have hget : (characters.workspace.names ⟨0⟩).get? "digit" = some ⟨0⟩ := rfl
  have hfree : ∀ chain : List Suffix, (∀ init ∈ chain.inits, (characters.workspace.names ⟨0⟩).contains
      (Suffix.negatedChain "digit" init) = false) → ∀ init, init <+: chain →
        (characters.workspace.names ⟨0⟩).contains (Suffix.negatedChain "digit" init) = false :=
    fun _ h init hinit => h init ((List.mem_inits _ _).2 hinit)
  have hquestion := hfree [.optional] (by decide)
  have hplus := hfree [.optionalPlus] (by decide)
  have hrun₁ := after_toRegex_digit (r := ⟨"([^(\\d)])?", Flags.withGlobal ∅, ⟨.sequence [.repeated
    ⟨0, some 1, true⟩ (.group 1 (.sequence [.char ⟨.exact,
      [.single 40, .category .digit false, .single 41], true⟩]))], [none]⟩, [none]⟩)
    (Registry.resolve?_negatedChain (by decide) hget hquestion) rfl rfl
  have hrun₂ := after_toRegex_digit (r := ⟨"([^((\\d))+])?", Flags.withGlobal ∅, ⟨.sequence [.repeated
    ⟨0, some 1, true⟩ (.group 1 (.sequence [.char ⟨.exact, [.single 40, .single 40,
      .category .digit false, .single 41, .single 41, .single 43], true⟩]))], [none]⟩, [none]⟩)
    (Registry.resolve?_negatedChain (by decide) hget hplus) rfl rfl
  have hrun₀ : ((⟨⟨0⟩, none⟩ : Builder).toRegex (.name ("[^" ++ "digit" ++ "]")) none).after
      characters = _ := after_toRegex_notDigit
  have halone : ((⟨⟨0⟩, none⟩ : Builder).toRegex (.name "digit") none).after characters =
      (.ok ⟨"\\d", Flags.withGlobal ∅, ⟨.sequence [.char ⟨.exact, [.category .digit false], false⟩],
        []⟩, []⟩, characters) :=
    (after_toRegex_name (b := ⟨⟨0⟩, none⟩) (s := characters) hget).trans rfl
  refine ⟨_, _, _, _, _, _, after_toRegex_notDigit, hrun₁, hrun₂, ?_, ?_⟩
  · exact (negated_chain_matches (b := ⟨⟨0⟩, none⟩) (s := characters) (by decide) (by decide) hget
      hquestion hrun₀ hrun₁).1 rfl rfl (by decide)
  · exact (negated_chain_matches (b := ⟨⟨0⟩, none⟩) (s := characters) (by decide) (by decide) hget
      hplus hrun₀ hrun₂).2 (.inl rfl) _ _ halone (by decide)

/-- Two letters are two texts that the negation of the digits matches, but with a plus behind it they
are not matched. -/
theorem negated_chain_repeats_not : ∃ r₀ r s₀ s₁,
    ((⟨⟨0⟩, none⟩ : Builder).toRegex (.name "[^digit]") none).after characters = (.ok r₀, s₀) ∧
    ((⟨⟨0⟩, none⟩ : Builder).toRegex (.name "[^digit]+") none).after characters = (.ok r, s₁) ∧
    ['a', 'a'] ∈ r₀.language * r₀.language∗ ∧ ['a', 'a'] ∉ r.language := by
  have hget : (characters.workspace.names ⟨0⟩).get? "digit" = some ⟨0⟩ := rfl
  have hfree : ∀ init ∈ ([.plus] : List Suffix).inits, (characters.workspace.names ⟨0⟩).contains
      (Suffix.negatedChain "digit" init) = false := by decide
  have hrun := after_toRegex_digit (r := ⟨"[^((\\d))+]", Flags.withGlobal ∅, ⟨.sequence [.char ⟨.exact,
    [.single 40, .single 40, .category .digit false, .single 41, .single 41, .single 43], true⟩],
      []⟩, []⟩) (Registry.resolve?_negatedChain (by decide) hget
        fun init hinit => hfree init ((List.mem_inits _ _).2 hinit)) rfl rfl
  refine ⟨_, _, _, _, after_toRegex_notDigit, hrun, ?_, by decide⟩
  refine Language.append_mem_mul (a := ['a']) (b := ['a']) (by decide) ?_
  refine Language.mem_kstar.2 ⟨[['a']], rfl, fun w hw => ?_⟩
  obtain rfl := List.mem_singleton.1 hw
  decide

end Builder

end RegexComposition

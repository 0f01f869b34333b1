import RegexComposition.Proofs.Fragment.Leaf
import RegexComposition.Proofs.Session.Calls

/-!
# Negated names

A name in brackets refers to the negation of its fragment.  The fragment is put in parentheses
first, which are then characters of the class that excludes it.

Main results:

- `Suffix.split?_negated`, `Registry.resolveFrom_negated`: what a name in brackets refers to.
- `Builder.after_toRegex_of_resolve?`, `Builder.after_toRegex_negated`: it is compiled like a wrapper
  around the fragment.
- `Builder.negated_name_matches`: what the negation of a single character matches, and when it is
  rejected.
- `Builder.negated_name_misses`: it need not match all other characters.
-/

namespace RegexComposition

/-! ## Resolving a negated name -/

/-- In brackets a name carries the suffix that negates it, and no other one. -/
theorem Suffix.split?_negated {name : List Char} (h : name ≠ []) :
    split? ('[' :: '^' :: (name ++ [']'])) = some (name, negation) := by
  have hothers : ∀ s : Suffix, s ≠ negation → s.strip? ('[' :: '^' :: (name ++ [']'])) = none := by
    intro s hs
    cases s with
    | negation => exact absurd rfl hs
    | _ => simp [strip?, opening, closing, List.isSuffixOf, List.isPrefixOf]
  have hnegation : negation.strip? ('[' :: '^' :: (name ++ [']'])) = some name := by
    simp [strip?, opening, closing, List.isSuffixOf, List.isPrefixOf]
  rcases List.exists_cons_of_ne_nil h with ⟨c, rest, rfl⟩
  simp only [split?, all, List.findSome?, hothers, hnegation, ne_eq, reduceCtorEq,
    not_false_eq_true, Option.map_none, Option.map_some]

namespace Registry

variable {names : Registry} {name : String} {id : FragmentId}

/-- Nothing is found for a name that is not registered. -/
theorem get?_eq_none_iff : names.get? name = none ↔ names.contains name = false := by
  rw [← Option.not_isSome_iff_eq_none, get?, Option.isSome_or, Bool.not_eq_true]
  exact Iff.rfl

/-- A registered name in brackets is a negated reference, unless it is registered as it stands. -/
theorem resolveFrom_negated (hname : name ≠ "") (hget : names.get? name = some id)
    (hfree : names.contains ("[^" ++ name ++ "]") = false) (m : Modifiers) :
    names.resolveFrom m ("[^" ++ name ++ "]").toList =
      some ⟨name, id, m.merge Suffix.negation.modifiers⟩ := by
  have htoken : ("[^" ++ name ++ "]").toList = '[' :: '^' :: (name.toList ++ [']']) := by simp
  rw [resolveFrom]
  simp only [String.ofList_toList, get?_eq_none_iff.2 hfree]
  rw [htoken, Suffix.split?_negated (mt String.toList_eq_nil_iff.1 hname)]
  dsimp only
  rw [resolveFrom]
  simp only [String.ofList_toList, hget]

theorem resolve?_negated (hname : name ≠ "") (hget : names.get? name = some id)
    (hfree : names.contains ("[^" ++ name ++ "]") = false) :
    names.resolve? ("[^" ++ name ++ "]") =
      some ⟨name, id, Suffix.negation.modifiers⟩ := by
  rw [resolve?, resolveFrom_negated hname hget hfree, Modifiers.none_merge]

end Registry

namespace Builder

open Session

variable {σ : Type} {b : Builder} {s : SessionState σ} {name : String} {id : FragmentId}
variable {flags : Option Flags}

/-- A registered name is compiled like its fragment. -/
theorem after_toRegex_name (hget : (s.workspace.names b.registry).get? name = some id) :
    (b.toRegex (.name name) flags).after s = (s.workspace.graph.regex id flags b.flags, s) := by
  have hresolve : (b.resolveValue (.name name)).after s = (.ok id, s) := by
    simp only [resolveValue, resolveReference, after_bind, after_workspace,
      Registry.resolve?_of_get? hget]
    rfl
  simp only [toRegex, after_bind, hresolve, after_graph, after_ofExcept]

/-- A name with modifiers is compiled like a wrapper around its fragment. -/
theorem after_toRegex_of_resolve? {token : String} {m : Modifiers}
    (hresolve : (s.workspace.names b.registry).resolve? token = some ⟨name, id, m⟩)
    (hmodifiers : m.isEmpty = false) :
    (b.toRegex (.name token) flags).after s =
      ((s.workspace.graph.addWrapper id m).2.regex (s.workspace.graph.addWrapper id m).1 flags b.flags,
        s.withGraph (s.workspace.graph.addWrapper id m).2) := by
  have hvalue : (b.resolveValue (.name token)).after s =
      (.ok (s.workspace.graph.addWrapper id m).1,
        s.withGraph (s.workspace.graph.addWrapper id m).2) := by
    simp only [resolveValue, resolveReference, after_bind, after_workspace, hresolve, ofResolution,
      hmodifiers]
    rfl
  simp only [toRegex, after_bind, hvalue, after_graph, after_ofExcept]
  rfl

/-- A negated name is compiled like a wrapper around its fragment. -/
theorem after_toRegex_negated (hname : name ≠ "")
    (hget : (s.workspace.names b.registry).get? name = some id)
    (hfree : (s.workspace.names b.registry).contains ("[^" ++ name ++ "]") = false) :
    (b.toRegex (.name ("[^" ++ name ++ "]")) flags).after s =
      ((s.workspace.graph.addWrapper id Suffix.negation.modifiers).2.regex
        (s.workspace.graph.addWrapper id Suffix.negation.modifiers).1 flags b.flags,
        s.withGraph (s.workspace.graph.addWrapper id Suffix.negation.modifiers).2) :=
  after_toRegex_of_resolve? (Registry.resolve?_negated hname hget hfree) rfl

variable {r : Regex} {items : List ClassItem} {s' : SessionState σ}

/-- The negation of a name whose pattern stands for one character.  The pattern is put in parentheses
before it is negated, so the parentheses belong to the class that excludes it.  A plain character
or an escape is accepted there, and the class matches the other characters apart from the
parentheses; a hyphen makes a range of these and is not excluded itself.  The closing bracket of a
class ends the class too early, and a source that is a closing bracket does so too. -/
theorem negated_name_matches (hname : name ≠ "")
    (hget : (s.workspace.names b.registry).get? name = some id)
    (hfree : (s.workspace.names b.registry).contains ("[^" ++ name ++ "]") = false)
    (hflags : ∀ fs : Flags, some fs ∈ [flags, b.flags, (s.workspace.graph.node id).flags,
      (s.workspace.graph.node id).nativePattern?.map (·.flags)] → fs.IsBasic)
    (hrun : (b.toRegex (.name name) flags).after s = (.ok r, s')) (hsingle : r.IsSingle items) :
    (r.source.toList.head? ≠ some '[' → r.source ≠ "]" →
      ∃ r' s₁, (b.toRegex (.name ("[^" ++ name ++ "]")) flags).after s = (.ok r', s₁) ∧
        ∀ c : Char, r'.isMatch (String.singleton c) = true ↔
          c ≠ '(' ∧ c ≠ ')' ∧ (r.isMatch (String.singleton c) = true → r.source = "-")) ∧
    (r.source.toList.head? = some '[' ∨ r.source = "]" →
      ∃ cause s₁, (b.toRegex (.name ("[^" ++ name ++ "]")) flags).after s =
        (.error (.invalidPattern (Regex.negatedSource r.source) cause), s₁)) := by
  rw [after_toRegex_name hget] at hrun
  have hregex : s.workspace.graph.regex id flags b.flags = .ok r := congrArg Prod.fst hrun
  rcases exists_of_bind_eq_ok hregex with ⟨source, hsource, hregex⟩
  rcases exists_of_bind_eq_ok hregex with ⟨own, hown, hcompile⟩
  obtain ⟨rfl, rfl⟩ := Regex.eq_of_compile hcompile
  rcases Graph.exists_isLeaf_of_source hsource hsingle with ⟨pattern, hleaf, hpattern⟩
  have hbasic : pattern.flags.IsBasic :=
    hflags _ (by simp [Node.nativePattern?, hleaf.kind])
  have hbasic' : ∀ o : Option Flags, (∀ fs ∈ o, fs.IsBasic) →
      ((o.getD (Flags.ofList pattern.flags.toList)).withGlobal).IsBasic := by
    intro o ho
    cases o with
    | none => exact hbasic.ofList.withGlobal
    | some fs => exact (ho fs rfl).withGlobal
  have hr : r.flags.IsBasic := by
    rw [hleaf.resolveFlags_eq] at hown
    rw [← Except.ok.inj hown]
    refine hbasic' _ fun fs hfs => hflags fs ?_
    rcases Option.or_eq_some_iff.1 hfs with hfs | ⟨-, hfs⟩
    · rcases Option.or_eq_some_iff.1 hfs with hfs | ⟨-, hfs⟩
      · simp [hfs]
      · simp [hfs]
    · simp [hfs]
  have hgiven : ∀ fs ∈ flags.or b.flags, fs.IsBasic := by
    intro fs hfs
    refine hflags fs ?_
    rcases Option.or_eq_some_iff.1 hfs with hfs | ⟨-, hfs⟩
    · simp [hfs]
    · simp [hfs]
  have hhead : pattern.source.toList.head? ≠ some '(' := by
    rw [hpattern]
    exact fun hhead => Token.head?_of_set hsingle (by simp [hhead])
  have hwrapper := Graph.isWrapper_addWrapper s.workspace.graph id Suffix.negation.modifiers
  have hchild := hleaf.of_keeps
    (Graph.keeps_addWrapper s.workspace.graph id Suffix.negation.modifiers)
  have hnegated := @after_toRegex_negated σ b s name id flags hname hget hfree
  rw [Graph.regex_of_source (hwrapper.source_negated hchild hhead)
    (hwrapper.resolveFlags_eq hchild _ _), hpattern] at hnegated
  rw [hnegated]
  refine ⟨fun hclass hend => ?_, fun hbracket => ?_⟩
  · rcases hsingle.exists_compile_negated hr (hbasic' _ hgiven) hclass hend with
      ⟨r', hcompile', hmatch⟩
    refine ⟨r', _, congrArg (·, _) hcompile', fun c => ?_⟩
    rw [hmatch c, hsingle.isMatch_iff hcompile hr]
  · rcases hsingle.compile_negated_eq_error hbracket _ with ⟨cause, hcause⟩
    exact ⟨cause, _, congrArg (·, _) hcause⟩

/-- The aliases `digit` and `vowel`, for an escape and for a class. -/
def characters : SessionState Unit :=
  ⟨⟨⟨#[{ kind := .native (.ofSource "\\d") }, { kind := .native (.ofSource "[aeiou]") }]⟩,
    #[⟨⟨⟨[("digit", ⟨0⟩), ("vowel", ⟨1⟩)]⟩, NameTable.empty⟩, 1⟩]⟩, ()⟩

theorem negated_name_matches_digit : ∃ r s', ((⟨⟨0⟩, none⟩ : Builder).toRegex (.name "digit")
      none).after characters = (.ok r, s') ∧ r.IsSingle [.category .digit false] ∧
    ∃ r' s₁, ((⟨⟨0⟩, none⟩ : Builder).toRegex (.name "[^digit]") none).after characters =
        (.ok r', s₁) ∧
      ∀ c : Char, r'.isMatch (String.singleton c) = true ↔
        c ≠ '(' ∧ c ≠ ')' ∧ (r.isMatch (String.singleton c) = true → r.source = "-") := by
  have hget : (characters.workspace.names ⟨0⟩).get? "digit" = some ⟨0⟩ := rfl
  have hrun : ((⟨⟨0⟩, none⟩ : Builder).toRegex (.name "digit") none).after characters =
      (.ok ⟨"\\d", Flags.withGlobal ∅, ⟨.sequence [.char ⟨.exact, [.category .digit false], false⟩],
        []⟩, []⟩, characters) :=
    (after_toRegex_name (b := ⟨⟨0⟩, none⟩) (s := characters) hget).trans rfl
  have hflags : ∀ fs : Flags, some fs ∈ [none, none, (characters.workspace.graph.node ⟨0⟩).flags,
      (characters.workspace.graph.node ⟨0⟩).nativePattern?.map (·.flags)] → fs.IsBasic := by
    intro fs hfs
    have hnone : some fs ∈ [none, none, none, some (∅ : Flags)] := hfs
    obtain rfl : fs = ∅ := by simpa using hnone
    decide
  have hsingle : Regex.IsSingle ⟨"\\d", Flags.withGlobal ∅,
      ⟨.sequence [.char ⟨.exact, [.category .digit false], false⟩], []⟩, []⟩
        [.category .digit false] := by decide
  exact ⟨_, _, hrun, hsingle, (negated_name_matches (b := ⟨⟨0⟩, none⟩) (s := characters) (by decide)
    hget (by decide) hflags hrun hsingle).1 (by decide) (by decide)⟩

/-- The negation of an alias for the digits does not match a parenthesis, which is no digit, and
that of an alias for a class is rejected. -/
theorem negated_name_misses : (∃ r r' s₁ s₂,
      ((⟨⟨0⟩, none⟩ : Builder).toRegex (.name "digit") none).after characters = (.ok r, s₁) ∧
      ((⟨⟨0⟩, none⟩ : Builder).toRegex (.name "[^digit]") none).after characters = (.ok r', s₂) ∧
      r.isMatch "(" = false ∧ r'.isMatch "(" = false) ∧
    ∃ cause s', ((⟨⟨0⟩, none⟩ : Builder).toRegex (.name "[^vowel]") none).after characters =
      (.error (.invalidPattern "[^([aeiou])]" cause), s') := by
  have hdigit : (characters.workspace.names ⟨0⟩).get? "digit" = some ⟨0⟩ := rfl
  have hvowel : (characters.workspace.names ⟨0⟩).get? "vowel" = some ⟨1⟩ := rfl
  have haccepted : (characters.workspace.graph.addWrapper ⟨0⟩ Suffix.negation.modifiers).2.regex
      (characters.workspace.graph.addWrapper ⟨0⟩ Suffix.negation.modifiers).1 none none =
        .ok ⟨"[^(\\d)]", Flags.withGlobal ∅, ⟨.sequence [.char
          ⟨.exact, [.single 40, .category .digit false, .single 41], true⟩], []⟩, []⟩ := rfl
  have hrejected : (characters.workspace.graph.addWrapper ⟨1⟩ Suffix.negation.modifiers).2.regex
      (characters.workspace.graph.addWrapper ⟨1⟩ Suffix.negation.modifiers).1 none none =
        .error (.invalidPattern "[^([aeiou])]" .unbalancedParenthesis) := rfl
  have hrun := @after_toRegex_name Unit ⟨⟨0⟩, none⟩ characters "digit" ⟨0⟩ none hdigit
  have hnegated := @after_toRegex_negated Unit ⟨⟨0⟩, none⟩ characters "digit" ⟨0⟩ none
    (by decide) hdigit (by decide)
  have hnegated' := @after_toRegex_negated Unit ⟨⟨0⟩, none⟩ characters "vowel" ⟨1⟩ none
    (by decide) hvowel (by decide)
  rw [haccepted] at hnegated
  rw [hrejected] at hnegated'
  refine ⟨⟨_, _, _, _, hrun.trans rfl, hnegated, ?_, ?_⟩, _, _, hnegated'⟩
  · decide
  · decide

end Builder

end RegexComposition

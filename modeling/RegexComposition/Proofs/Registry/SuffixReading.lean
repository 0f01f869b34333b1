import RegexComposition.Proofs.Registry.SuffixChain
import RegexComposition.Proofs.Session.NegatedName

/-!
# Reading names with suffixes

A token can be read as a registered name with a chain of suffixes, perhaps in several ways, because a
name can itself look like one with suffixes.  Suffixes are taken off until the rest is registered.
A question mark behind a star or a plus is taken off together with it, so of all registered names
only one that ends with the star or the plus is passed over.

Main results:

- `Suffix.suffixed`, `Suffix.merged_eq`: a name with a chain of suffixes, and what they switch on.
- `Registry.reference_of_chain`: what a registered name with a chain of suffixes refers to.
- `Registry.IsLongest`: the longest registered name that a token can be read as.
- `Registry.resolve?_longest`: when a name with one suffix refers to that one.
- `Registry.resolve?_passes_over`: it need not.
-/

namespace RegexComposition

/-! ## Chains -/

namespace Suffix

variable {chain : List Suffix}

/-- The name with further suffixes, one behind the other. -/
def suffixed (name : String) (chain : List Suffix) : String :=
  String.ofList (chained name.toList chain)

@[simp]
theorem toList_suffixed (name : String) (chain : List Suffix) :
    (suffixed name chain).toList = chained name.toList chain := String.toList_ofList

/-- The token ends with the sign of a repetition. -/
def EndsInRepetition (token : List Char) : Prop :=
  token.getLast? = some '*' ∨ token.getLast? = some '+'

instance (token : List Char) : Decidable (EndsInRepetition token) :=
  inferInstanceAs (Decidable (_ ∨ _))

theorem EndsInRepetition.exists_eq {token : List Char} (h : EndsInRepetition token) :
    ∃ front c, (c = '*' ∨ c = '+') ∧ token = front ++ [c] := by
  rcases h with h | h
  · exact ⟨_, _, .inl rfl, (List.dropLast_append_getLast? _ h).symm⟩
  · exact ⟨_, _, .inr rfl, (List.dropLast_append_getLast? _ h).symm⟩

/-- A chain switches on what its signs stand for, and it is no quantifier. -/
theorem merged_eq (chain : List Suffix) : merged chain =
    { optional := chain.any (·.closing.contains '?')
      oneOrMore := chain.any (·.closing.contains '+')
      zeroOrMore := chain.any (·.closing.contains '*')
      quantifier := none
      negated := chain.contains negation } := by
  induction chain with
  | nil => rfl
  | cons s chain ih =>
      have hcons : merged (s :: chain) = s.modifiers.merge (merged chain) := rfl
      rw [hcons, ih]
      cases s <;> simp [Modifiers.merge, modifiers, closing]

/-- Only the empty chain switches nothing on. -/
theorem isEmpty_merged_iff : (merged chain).isEmpty = true ↔ chain = [] := by
  rw [merged_eq]
  cases chain with
  | nil => simp [Modifiers.isEmpty]
  | cons s chain => cases s <;> simp [Modifiers.isEmpty, closing]

end Suffix

namespace Registry

variable {names : Registry} {name other token : String} {id : FragmentId} {chain : List Suffix}

/-- No name of a valid registry is empty. -/
theorem IsValid.toList_ne_nil (hvalid : names.IsValid) (h : names.contains name = true) :
    name.toList ≠ [] := by
  intro hempty
  rw [String.toList_eq_nil_iff.1 hempty, contains_iff] at h
  exact hvalid.empty_notMem h

theorem contains_of_get? (h : names.get? name = some id) : names.contains name = true := by
  by_contra hcontains
  rw [get?_eq_none_iff.2 (Bool.not_eq_true _ ▸ hcontains)] at h
  cases h

/-- A name that is not registered is looked up again without its last suffix. -/
theorem resolveFrom_of_split? {m : Modifiers} {rest : List Char} {s : Suffix}
    (hfree : names.contains token = false) (hsplit : Suffix.split? token.toList = some (rest, s)) :
    names.resolveFrom m token.toList = names.resolveFrom (m.merge s.modifiers) rest := by
  rw [resolveFrom]
  simp only [String.ofList_toList, get?_eq_none_iff.2 hfree]
  rw [hsplit]

/-- What is found is not longer than the token. -/
theorem length_le_of_resolveFrom {m : Modifiers} {token : List Char} {resolution : Resolution}
    (h : names.resolveFrom m token = some resolution) :
    resolution.name.toList.length ≤ token.length := by
  fun_induction resolveFrom names m token with
  | case1 m token name target htarget =>
      obtain rfl := Option.some.inj h
      exact (congrArg List.length String.toList_ofList).le
  | case2 m token name hname rest suffix hsplit ih =>
      exact (ih h).trans (Suffix.length_lt_of_split? hsplit).le
  | case3 => cases h

/-- A registered name with a chain of suffixes, of which no part is registered as it stands, refers to
the name with the modifiers that are written in the chain.  Without suffixes this is the fragment of
the name itself, otherwise a new node with these modifiers around it alone. -/
theorem reference_of_chain {σ : Type} (hvalid : names.IsValid) (hget : names.get? name = some id)
    (hname : ¬ Suffix.EndsInRepetition name.toList)
    (hfree : ∀ init, init <+: chain → init ≠ [] →
      names.contains (Suffix.suffixed name init) = false) (s : SessionState σ) :
    let m : Modifiers :=
      { optional := chain.any (·.closing.contains '?')
        oneOrMore := chain.any (·.closing.contains '+')
        zeroOrMore := chain.any (·.closing.contains '*')
        quantifier := none
        negated := chain.contains .negation }
    names.resolve? (Suffix.suffixed name chain) = some ⟨name, id, m⟩ ∧
      (chain = [] → (Session.ofResolution ⟨name, id, m⟩).after s = (.ok id, s)) ∧
      (chain ≠ [] → ∃ wrapper g, (Session.ofResolution ⟨name, id, m⟩).after s =
          (.ok wrapper, s.withGraph g) ∧ s.workspace.graph.Extends g ∧
        ¬ s.workspace.graph.Has wrapper ∧ g.IsWrapper wrapper id m) := by
  intro m
  have hm : m = Suffix.merged chain := (Suffix.merged_eq chain).symm
  have hne := hvalid.toList_ne_nil (contains_of_get? hget)
  refine ⟨?_, fun hchain => ?_, fun hchain => ?_⟩
  · rw [hm, resolve?, Suffix.toList_suffixed, resolveFrom_chained hne (not_or.1 hname)
      fun init hinit hne => get?_eq_none_iff.2 (hfree init hinit hne), Modifiers.none_merge, resolveFrom]
    simp only [String.ofList_toList, hget]
  · have hempty : m.isEmpty = true := hm ▸ Suffix.isEmpty_merged_iff.2 hchain
    rw [Session.ofResolution, if_pos hempty]
    rfl
  · have hempty : ¬ m.isEmpty = true := hm ▸ mt Suffix.isEmpty_merged_iff.1 hchain
    rw [Session.ofResolution, if_neg hempty]
    exact ⟨_, _, rfl, Graph.extends_addWrapper _ id m, Graph.not_has_addComposite _ [id],
      Graph.isWrapper_addWrapper _ id m⟩

/-- A negated name with a plus and a question mark, in the state that it is looked up in. -/
theorem reference_of_chain_digit : ∃ wrapper g,
    let m : Modifiers := { optional := true, oneOrMore := true, negated := true }
    (Builder.characters.workspace.names ⟨0⟩).resolve? "[^digit]+?" = some ⟨"digit", ⟨0⟩, m⟩ ∧
      (Session.ofResolution ⟨"digit", ⟨0⟩, m⟩).after Builder.characters =
        (.ok wrapper, Builder.characters.withGraph g) ∧
      (g.node wrapper).kind = .composite [⟨0⟩] := by
  have hvalid : (Builder.characters.workspace.names ⟨0⟩).IsValid := ⟨by decide, by decide⟩
  have hget : (Builder.characters.workspace.names ⟨0⟩).get? "digit" = some ⟨0⟩ := rfl
  have hfree : ∀ init ∈ ([.negation, .plus, .optional] : List Suffix).inits, init ≠ [] →
      (Builder.characters.workspace.names ⟨0⟩).contains (Suffix.suffixed "digit" init) = false := by
    decide
  rcases reference_of_chain hvalid hget (by decide)
    (fun init hinit => hfree init ((List.mem_inits _ _).2 hinit)) Builder.characters with
      ⟨hresolve, -, hwrapper⟩
  rcases hwrapper nofun with ⟨wrapper, g, hafter, -, -, hkind⟩
  exact ⟨wrapper, g, hresolve, hafter, hkind.kind⟩

/-! ## The longest name -/

/-- The token is the registered name with suffixes or the name itself, and no longer registered name
is one that it can be read as. -/
structure IsLongest (names : Registry) (token name : String) : Prop where
  contains : names.contains name = true
  reads : ∃ chain, token = Suffix.suffixed name chain
  longest : ∀ other chain, names.contains other = true → token = Suffix.suffixed other chain →
    other.toList.length ≤ name.toList.length

/-- The token is the registered name with a question mark, and the name ends with a star or a plus
that this question mark is taken off with. -/
structure PassesOver (names : Registry) (token other : String) : Prop where
  contains : names.contains other = true
  reads : token = Suffix.suffixed other [.optional]
  endsInRepetition : Suffix.EndsInRepetition other.toList

/-- A name is read from a token that is not registered by taking off at least one suffix. -/
theorem exists_of_suffixed (hfree : names.contains token = false)
    (hother : names.contains other = true) (hread : token = Suffix.suffixed other chain) :
    ∃ init s, chain = init ++ [s] ∧
      token.toList = Suffix.chained (Suffix.chained other.toList init) [s] := by
  rcases List.eq_nil_or_concat' chain with rfl | ⟨init, s, rfl⟩
  · rw [hread, Suffix.suffixed, Suffix.chained_nil, String.ofList_toList, hother] at hfree
    cases hfree
  · exact ⟨init, s, rfl, by rw [hread, Suffix.toList_suffixed, Suffix.chained_append]⟩

/-- If the token is not registered, a name that is passed over is the longest one. -/
theorem PassesOver.isLongest (h : names.PassesOver token other) (hfree : names.contains token = false) :
    names.IsLongest token other where
  contains := h.contains
  reads := ⟨_, h.reads⟩
  longest := by
    intro name chain hname hread
    rcases exists_of_suffixed hfree hname hread with ⟨init, s, -, hlast⟩
    have hlength : token.toList.length = other.toList.length + 1 := by
      rw [h.reads, Suffix.toList_suffixed]
      simp [Suffix.chained, Suffix.decorate, Suffix.opening, Suffix.closing]
    have hle := Suffix.length_le_chained name.toList init
    have hlt := Suffix.length_lt_decorate s (Suffix.chained name.toList init)
    have htoken : token.toList.length = (s.decorate (Suffix.chained name.toList init)).length :=
      congrArg List.length hlast
    omega

/-- A name that is passed over is not found, at best a shorter one is. -/
theorem PassesOver.length_lt (h : names.PassesOver token other) (hfree : names.contains token = false)
    {resolution : Resolution} (hresolve : names.resolve? token = some resolution) :
    resolution.name.toList.length < other.toList.length := by
  rcases h.endsInRepetition.exists_eq with ⟨front, c, hc, hother⟩
  have htoken : token.toList = Suffix.chained (front ++ [c]) [.optional] := by
    rw [h.reads, Suffix.toList_suffixed, hother]
  rw [hother, List.length_append]
  by_cases hfront : front = []
  · -- The sign is the whole name, so that nothing would be left of it.
    have hsplit : Suffix.split? token.toList = none := by
      rw [htoken, hfront]
      rcases hc with rfl | rfl <;> rfl
    rw [resolve?, resolveFrom] at hresolve
    simp only [String.ofList_toList, get?_eq_none_iff.2 hfree] at hresolve
    rw [hsplit] at hresolve
    cases hresolve
  · rcases Suffix.exists_split?_optional hc hfront with ⟨long, hsplit, -⟩
    rw [← htoken] at hsplit
    rw [resolve?, resolveFrom_of_split? hfree hsplit] at hresolve
    exact Nat.lt_succ_of_le (length_le_of_resolveFrom hresolve)

/-- If no name is passed over, the suffix of a token is what is taken off first. -/
theorem split?_of_not_passesOver {s : Suffix} (hvalid : names.IsValid)
    (hname : names.contains name = true)
    (hpasses : ∀ other, ¬ names.PassesOver (Suffix.suffixed name [s]) other) :
    Suffix.split? (Suffix.suffixed name [s]).toList = some (name.toList, s) := by
  rw [Suffix.toList_suffixed]
  refine Suffix.split?_chained (hvalid.toList_ne_nil hname) fun hs => ?_
  subst hs
  exact not_or.1 fun hends => hpasses name ⟨hname, rfl, hends⟩

/-- If no name is passed over, a name with one suffix cannot be read as a longer name. -/
theorem isLongest_of_not_passesOver {s : Suffix} (hvalid : names.IsValid)
    (hname : names.contains name = true)
    (hfree : names.contains (Suffix.suffixed name [s]) = false)
    (hpasses : ∀ other, ¬ names.PassesOver (Suffix.suffixed name [s]) other) :
    names.IsLongest (Suffix.suffixed name [s]) name where
  contains := hname
  reads := ⟨_, rfl⟩
  longest := by
    intro other chain hother hread
    rcases exists_of_suffixed hfree hother hread with ⟨init, s', rfl, hlast⟩
    have hsplit := split?_of_not_passesOver hvalid hname hpasses
    rw [hlast] at hsplit
    by_cases hlonger : s' = .optional ∧ Suffix.EndsInRepetition (Suffix.chained other.toList init)
    · -- The question mark is taken off together with the sign in front of it.
      rcases hlonger with ⟨rfl, hends⟩
      have hinit : init ≠ [] := by
        rintro rfl
        exact hpasses other ⟨hother, hread, hends⟩
      have hlt := Suffix.length_lt_chained other.toList hinit
      rcases hends.exists_eq with ⟨front, c, hc, hfront⟩
      rw [hfront, List.length_append, List.length_singleton] at hlt
      have hne : front ≠ [] := by
        rintro rfl
        exact hvalid.toList_ne_nil hother (List.length_eq_zero_iff.1 (Nat.lt_one_iff.1 hlt))
      rcases Suffix.exists_split?_optional hc hne with ⟨long, hlong, -⟩
      rw [hfront, hlong] at hsplit
      rw [← (Prod.mk.inj (Option.some.inj hsplit)).1]
      exact Nat.le_of_lt_succ hlt
    · rw [Suffix.split?_chained (Suffix.chained_ne_nil (hvalid.toList_ne_nil hother) init)
        fun hs => not_or.1 fun hends => hlonger ⟨hs, hends⟩] at hsplit
      rw [← (Prod.mk.inj (Option.some.inj hsplit)).1]
      exact Suffix.length_le_chained other.toList init

/-- A token that is a registered name with one suffix, and not registered as it stands.  If there is no
registered name that is passed over, the token refers to the name with the modifiers of the suffix,
and this is the longest registered name that it can be read as.  A name that is passed over is the
longest one instead, and the token refers to a shorter one or to none. -/
theorem resolve?_longest (hvalid : names.IsValid) (hget : names.get? name = some id) (s : Suffix)
    (hfree : names.contains (Suffix.suffixed name [s]) = false) :
    let token := Suffix.suffixed name [s]
    ((∀ other, ¬ names.PassesOver token other) →
      names.resolve? token = some ⟨name, id, s.modifiers⟩ ∧ names.IsLongest token name) ∧
    ∀ other, names.PassesOver token other → names.IsLongest token other ∧
      ∀ resolution, names.resolve? token = some resolution →
        resolution.name.toList.length < other.toList.length := by
  intro token
  have hname := contains_of_get? hget
  refine ⟨fun hpasses => ⟨?_, isLongest_of_not_passesOver hvalid hname hfree hpasses⟩,
    fun other hother => ⟨hother.isLongest hfree, fun _ => hother.length_lt hfree⟩⟩
  rw [resolve?, resolveFrom_of_split? hfree (split?_of_not_passesOver hvalid hname hpasses),
    Modifiers.none_merge, resolveFrom]
  simp only [String.ofList_toList, hget]

/-- A plain name with a star refers to the name. -/
theorem resolve?_longest_digit :
    (Builder.characters.workspace.names ⟨0⟩).resolve? "digit*" =
      some ⟨"digit", ⟨0⟩, Suffix.star.modifiers⟩ ∧
    (Builder.characters.workspace.names ⟨0⟩).IsLongest "digit*" "digit" := by
  have hvalid : (Builder.characters.workspace.names ⟨0⟩).IsValid := ⟨by decide, by decide⟩
  have hget : (Builder.characters.workspace.names ⟨0⟩).get? "digit" = some ⟨0⟩ := rfl
  refine (resolve?_longest hvalid hget .star (by decide)).1 fun other hother => ?_
  have hreads := congrArg String.toList hother.reads
  rw [Suffix.toList_suffixed, Suffix.toList_suffixed] at hreads
  have hlast : Suffix.star.closing.getLast? = Suffix.optional.closing.getLast? := by
    rw [← Suffix.getLast?_chained .star, hreads, Suffix.getLast?_chained]
  cases hlast

/-- If `a*` is a name, the token `a*?` is unknown, and if `a` is a name as well, the token refers to
the shorter one. -/
theorem resolve?_passes_over :
    let starred : Registry := ⟨⟨[("a*", ⟨0⟩)]⟩, NameTable.empty⟩
    let both : Registry := ⟨⟨[("a*", ⟨0⟩), ("a", ⟨1⟩)]⟩, NameTable.empty⟩
    Suffix.suffixed "a*" [.optional] = "a*?" ∧
      (starred.IsValid ∧ starred.contains "a*?" = false ∧ starred.resolve? "a*?" = none) ∧
      both.IsValid ∧ both.contains "a*?" = false ∧
        both.resolve? "a*?" = some ⟨"a", ⟨1⟩, Suffix.lazyStar.modifiers⟩ := by
  intro starred both
  have hsplit : Suffix.split? "a*?".toList = some (['a'], .lazyStar) := by decide
  refine ⟨by decide, ⟨⟨by decide, by decide⟩, by decide, ?_⟩, ⟨by decide, by decide⟩, by decide, ?_⟩
  · rw [resolve?, resolveFrom_of_split? (by decide) hsplit, resolveFrom]
    rfl
  · rw [resolve?, resolveFrom_of_split? (by decide) hsplit, resolveFrom]
    rfl

end Registry

end RegexComposition

import RegexComposition.Proofs.Flags.Insertion
import RegexComposition.Proofs.Pattern.Nesting
import RegexComposition.Proofs.Regex.Occurrences

/-!
# Sources for a single character

A source that is one token for a set of characters: a plain character, an escape or a class.  Put
in parentheses between the brackets of a class, it is not a group there: the parentheses are
characters of the class themselves.

Main results:

- `Regex.IsSingle`: the sources for one character, with the items that name it.
- `Regex.IsSingle.isMatch_iff`: the texts of one character that they match.
- `Regex.IsSingle.exists_compile_negated`: the class that excludes such a source in parentheses.
- `Regex.IsSingle.compile_negated_eq_error`: a bracket in the source ends the class too early.
-/

namespace RegexComposition

/-! ## Escapes in a class -/

namespace Escape

variable {g : Grammar} {c : Char} {text : List Char} {e : Escape} {n : Nat}

/-- Without the flag `u` an escape means the same in a class, unless it is a word boundary outside
or the backslash stands for itself. -/
theorem readAt_inClass (hu : g.unicode = false) (hc : c ≠ 'b') (hn : 0 < n)
    (h : readAt g false c text = (e, n)) : readAt g true c text = (e, n) := by
  have hcontrol : c = 'c' → readControl g false text = (e, n) → readControl g true text = (e, n) := by
    rintro - hread
    unfold readControl at hread ⊢
    cases text with
    | nil =>
        simp only [hu, Bool.false_eq_true, if_false] at hread
        rw [← (Prod.mk.inj hread).2] at hn
        exact absurd hn (Nat.lt_irrefl 0)
    | cons d text =>
        simp only [hu, Bool.false_eq_true, if_false, Bool.false_and, Bool.or_false] at hread ⊢
        split at hread
        · next hletter => simpa [hletter] using hread
        · rw [← (Prod.mk.inj hread).2] at hn
          exact absurd hn (Nat.lt_irrefl 0)
  unfold readAt at h ⊢
  split at h
  · exact h
  · exact h
  · simp only [hu, Bool.false_and, Bool.false_eq_true, if_false, Bool.and_false, Bool.true_and,
      beq_iff_eq, hc] at h ⊢
    by_cases hcc : c = 'c'
    · rw [if_pos hcc] at h ⊢
      exact hcontrol hcc h
    · rw [if_neg hcc] at h ⊢
      exact h

end Escape

namespace ClassAtom

/-- The atom that an escape is. -/
def ofEscape : Escape → ClassAtom
  | .code c => code c
  | .category k negated => category k negated
  | .fault e => fault e

variable {g : Grammar} {c : Char} {l s : List Char} {atom : ClassAtom}

theorem readAt_escape (g : Grammar) (c : Char) (text : List Char) : readAt g '\\' (c :: text) =
    (ofEscape (Escape.readAt g true c text).1, (Escape.readAt g true c text).2) := by
  rw [readAt, if_neg (by decide), if_pos rfl]
  rcases Escape.readAt g true c text with ⟨e, n⟩
  cases e <;> rfl

/-- What belongs to an atom already read is passed over. -/
theorem readAll_skip (g : Grammar) (l s : List Char) :
    readAll g (l ++ s) l.length = ((readAll g s 0).1, (readAll g s 0).2 + l.length) := by
  induction l with
  | nil => rfl
  | cons c l ih =>
      rw [List.cons_append, List.length_cons, readAll, ih]
      rfl

/-- The first atom of a class and those after it. -/
theorem readAll_cons (hc : c ≠ ']') (h : readAt g c (l ++ s) = (atom, l.length)) :
    readAll g (c :: (l ++ s)) 0 =
      (atom :: (readAll g s 0).1, (readAll g s 0).2 + (l.length + 1)) := by
  rw [readAll, if_neg hc, h]
  dsimp only
  rw [readAll_skip]
  rfl

end ClassAtom

/-! ## Tokens -/

namespace Token

variable {g g' : Grammar} {c : Char} {rest text s : List Char} {token : Token}
variable {items : List ClassItem} {n : Nat}

/-- A text with a single token that can be read is all spelling of it. -/
theorem exists_readAt_of_ofSource (h : ofSource g text = [token])
    (ht : ∀ cause, token ≠ fault cause) :
    ∃ c rest, text = c :: rest ∧ readAt g c rest = (token, rest.length) := by
  cases text with
  | nil => cases h
  | cons c rest =>
      rcases hread : readAt g c rest with ⟨first, extra⟩
      rw [ofSource_cons hread] at h
      rcases List.cons.inj h with ⟨rfl, hrest⟩
      have hend : rest.drop extra = [] := by
        cases hdrop : rest.drop extra with
        | nil => rfl
        | cons d tail =>
            rw [hdrop, ofSource_cons rfl] at hrest
            cases hrest
      have hle := (spelling_readAt hread ht).1
      rw [List.drop_eq_nil_iff] at hend
      exact ⟨c, rest, rfl, by rw [hread, Nat.le_antisymm hle hend]⟩

theorem readOpening_ne_set (text : List Char) : (readOpening text).1 ≠ set items false := by
  unfold readOpening
  split <;> try split
  all_goals nofun

/-- A plain character stands for itself. -/
theorem eq_single_of_readAt (hescape : c ≠ '\\') (hclass : c ≠ '[')
    (h : readAt g c rest = (set items false, n)) : items = [.single c.toNat] ∧ n = 0 := by
  have hlaziness : ∀ {min : Nat} {max : Option Nat} {braced : Bool} {used : Nat} {text : List Char},
      withLaziness min max braced used text ≠ (set items false, n) := by
    intro min max braced used text heq
    unfold withLaziness at heq
    split at heq <;> cases heq
  have hliteral : ∀ {d : Nat}, (literal d, 0) = (set items false, n) →
      items = [.single d] ∧ n = 0 := by
    intro d heq
    rcases Prod.mk.inj heq with ⟨hset, rfl⟩
    exact ⟨(Token.set.inj hset).1.symm, rfl⟩
  unfold readAt at h
  split at h
  · exact absurd rfl hescape
  · exact absurd rfl hclass
  · exact absurd (congrArg Prod.fst h) (readOpening_ne_set rest)
  · cases h
  · cases h
  · cases h
  · cases h
  · cases h
  · exact absurd h hlaziness
  · exact absurd h hlaziness
  · exact absurd h hlaziness
  · unfold readBraces at h
    split at h
    · exact absurd h hlaziness
    · split at h
      · cases h
      · exact hliteral h
  · split at h
    · cases h
    · exact hliteral h
  · split at h
    · cases h
    · exact hliteral h
  · exact hliteral h

/-- An escape for a set of characters is no word boundary and no reference. -/
theorem exists_escape_of_readEscape (h : readEscape g c text = (set items false, n)) :
    c ≠ 'b' ∧ ∃ e, Escape.readAt g false c text = (e, n) ∧ ofEscape e = set items false := by
  have hescape : ∀ {token : Token} {n : Nat},
      (ofEscape (Escape.readAt g false c text).1, (Escape.readAt g false c text).2) = (token, n) →
        ∃ e, Escape.readAt g false c text = (e, n) ∧ ofEscape e = token := by
    intro token n heq
    rcases Prod.mk.inj heq with ⟨htoken, hn⟩
    exact ⟨_, Prod.ext rfl hn, htoken⟩
  by_cases hdigit : '1' ≤ c ∧ c ≤ '9'
  · refine ⟨by rintro rfl; exact absurd hdigit (by decide), ?_⟩
    rw [readEscape_digit g hdigit] at h
    split_ifs at h
    · cases h
    · cases h
    · exact hescape h
  · by_cases hb : c = 'b'
    · rw [readEscape, if_pos hb] at h
      cases h
    refine ⟨hb, ?_⟩
    rw [readEscape, if_neg hb] at h
    split_ifs at h
    · cases h
    · rcases hname : readNamedReference g text with ⟨token, m⟩
      rw [hname] at h
      obtain ⟨rfl, -⟩ := Prod.mk.inj h
      rcases refersByName_of_readNamedReference hname nofun with ⟨_, _, _, _, _, _, _, href, _⟩
      cases href
    · exact hescape h

/-- A plain character or an escape is one atom of a class, which names the same characters.  Only a
hyphen is something else there. -/
theorem exists_atom_of_readAt (hg : g.CarriesTo g') (hu : g.unicode = false) (hclass : c ≠ '[')
    (h : readAt g c rest = (set items false, rest.length)) (hs : Stops s) :
    ∃ atom item, ClassAtom.readAt g' c (rest ++ s) = (atom, rest.length) ∧
      atom.item = .ok item ∧ items = [item] ∧ (atom = .hyphen ↔ c = '-') := by
  by_cases hescape : c = '\\'
  · subst hescape
    cases rest with
    | nil => cases h
    | cons d text =>
        have hread : readEscape g d text = (set items false, text.length + 1) := h
        rcases exists_escape_of_readEscape hread with ⟨hd, e, he, hitems⟩
        have hfault : ∀ cause, e ≠ .fault cause := by
          rintro cause rfl
          cases hitems
        have hclass := Escape.readAt_append hg hs
          (Escape.readAt_inClass hu hd (Nat.succ_pos _) he) hfault
        rw [List.cons_append, ClassAtom.readAt_escape, hclass]
        cases e with
        | code value => exact ⟨_, _, rfl, rfl, (Token.set.inj hitems).1.symm, by simp [ClassAtom.ofEscape]⟩
        | category k negated =>
            exact ⟨_, _, rfl, rfl, (Token.set.inj hitems).1.symm, by simp [ClassAtom.ofEscape]⟩
        | fault cause => exact absurd rfl (hfault cause)
  · rcases eq_single_of_readAt hescape hclass h with ⟨rfl, hlength⟩
    obtain rfl := List.eq_nil_of_length_eq_zero hlength
    by_cases hhyphen : c = '-'
    · subst hhyphen
      exact ⟨.hyphen, _, rfl, rfl, rfl, by simp⟩
    · refine ⟨.code c.toNat, _, ?_, rfl, rfl, by simp [hhyphen]⟩
      unfold ClassAtom.readAt
      rw [if_neg hhyphen, if_neg hescape]
      rfl

/-- What parentheses name in a class together with the items between them, which start with the
character: a hyphen makes them the ends of a range. -/
def betweenParentheses (c : Char) (items : List ClassItem) : List ClassItem :=
  if c = '-' then [.range '('.toNat ')'.toNat]
  else .single '('.toNat :: (items ++ [.single ')'.toNat])

theorem names_betweenParentheses (c : Char) (items : List ClassItem) (d : Char) :
    (betweenParentheses c items).any (·.names .exact d.toNat) = true ↔
      d = '(' ∨ d = ')' ∨ (c ≠ '-' ∧ items.any (·.names .exact d.toNat) = true) := by
  have hchar : ∀ e : Char, d.toNat = e.toNat ↔ d = e := fun e => Char.toNat_inj
  unfold betweenParentheses
  split
  · next hc =>
      have hrange : ClassItem.names .exact (.range '('.toNat ')'.toNat) d.toNat = true ↔
          d = '(' ∨ d = ')' := by
        rw [← hchar, ← hchar]
        simp only [ClassItem.names, Bool.and_eq_true, decide_eq_true_eq]
        show 40 ≤ d.toNat ∧ d.toNat ≤ 41 ↔ d.toNat = 40 ∨ d.toNat = 41
        omega
      simp only [List.any_cons, List.any_nil, Bool.or_false, hrange, hc, ne_eq, not_true_eq_false,
        false_and, or_false]
  · next hc =>
      simp only [List.any_cons, List.any_append, List.any_nil, Bool.or_false, Bool.or_eq_true,
        ClassItem.names_single, hchar, hc, ne_eq, not_false_eq_true, true_and]
      exact or_congr Iff.rfl or_comm

/-- Between the brackets of a class the parentheses around a plain character or an escape are two
more characters, and around a hyphen they are the ends of a range. -/
theorem readAt_negated (hg : g.CarriesTo g') (hu : g.unicode = false) (hclass : c ≠ '[')
    (hend : c ≠ ']') (h : readAt g c rest = (set items false, rest.length)) :
    readAt g' '[' ('^' :: '(' :: (c :: (rest ++ [')', ']']))) =
      (set (betweenParentheses c items) true, rest.length + 5) := by
  have hstops : Stops [')', ']'] := by simp [Stops]
  rcases exists_atom_of_readAt hg hu hclass h hstops with ⟨atom, item, hatom, hitem, rfl, hhyphen⟩
  have hclosing : ClassAtom.readAll g' [')', ']'] 0 = ([.code ')'.toNat], 2) := rfl
  have hinside : ClassAtom.readAll g' ('(' :: (c :: (rest ++ [')', ']']))) 0 =
      ([.code '('.toNat, atom, .code ')'.toNat], rest.length + 4) := by
    have hopening : ClassAtom.readAt g' '(' ([] ++ (c :: (rest ++ [')', ']']))) =
        (.code '('.toNat, 0) := rfl
    have hcons := ClassAtom.readAll_cons (l := []) (by decide) hopening
    rw [List.nil_append, ClassAtom.readAll_cons hend hatom, hclosing] at hcons
    rw [hcons]
    simp only [List.length_nil, Prod.mk.injEq, true_and]
    omega
  have hitems : ClassAtom.items g'.unicode [.code '('.toNat, atom, .code ')'.toNat] =
      .ok (betweenParentheses c [item]) := by
    unfold betweenParentheses
    split
    · next hc =>
        obtain rfl := hhyphen.2 hc
        rfl
    · next hc =>
        cases atom with
        | hyphen => exact absurd (hhyphen.1 rfl) hc
        | fault cause => cases hitem
        | code value =>
            obtain rfl := Except.ok.inj hitem
            rfl
        | category k negated =>
            obtain rfl := Except.ok.inj hitem
            rfl
  have hread : readAt g' '[' ('^' :: '(' :: (c :: (rest ++ [')', ']']))) =
      classOf g' true ('(' :: (c :: (rest ++ [')', ']']))) := rfl
  rw [hread, classOf, hinside]
  simp only [hitems]
  rfl

end Token

/-! ## One character -/

/-- Without the flags `i` and `u` a character is only equal to itself, and letters without a meaning
can be escaped. -/
def Flags.IsBasic (flags : Flags) : Prop :=
  .caseInsensitive ∉ flags.toList ∧ .unicode ∉ flags.toList

namespace Flags.IsBasic

variable {flags : Flags}

instance : Decidable flags.IsBasic :=
  inferInstanceAs (Decidable (.caseInsensitive ∉ flags.toList ∧ .unicode ∉ flags.toList))

theorem caseMode_eq (h : flags.IsBasic) : (Modes.ofFlags flags).caseMode = .exact := by
  have hcase : flags.contains .caseInsensitive = false := by
    rw [Bool.eq_false_iff, Ne, contains_iff]
    exact h.1
  simp [Modes.caseMode, Modes.ofFlags, hcase]

theorem unicode_eq (h : flags.IsBasic) (source : String) :
    (Program.grammar source flags).unicode = false := by
  rw [Program.grammar, Bool.eq_false_iff, Ne, contains_iff]
  exact h.2

theorem withGlobal (h : flags.IsBasic) : flags.withGlobal.IsBasic := by
  rw [IsBasic, toList_withGlobal]
  split
  · exact h
  · simpa [IsBasic] using h

/-- The flags of a list without `i` and `u`. -/
theorem ofList (h : flags.IsBasic) : (Flags.ofList flags.toList).IsBasic := by
  rwa [ofList_toList]

end Flags.IsBasic

/-- With exact comparison a set contains what its items name, or everything else. -/
theorem CharSet.contains_exact (items : List ClassItem) (negated : Bool) (c : Char) :
    (⟨.exact, items, negated⟩ : CharSet).contains c =
      (negated != items.any (·.names .exact c.toNat)) := by
  simp [contains, CaseMode.equivalents]

namespace Pattern

/-- A pattern for one character matches where there is such a character. -/
theorem matchAt_char (set : CharSet) (t : Text) (i : Nat) :
    ((sequence [char set]).matchAt t i).isSome = true ↔
      ∃ c, t.next? .forward i = some c ∧ set.contains c = true := by
  show ((sequence [char set]).run t .forward some ⟨i, Captures.empty⟩).isSome = true ↔ _
  simp only [sequence, List.foldr, run]
  cases t.next? .forward i with
  | none => simp
  | some c =>
      cases hset : set.contains c with
      | false => simp [hset]
      | true => simp [hset]

end Pattern

namespace Regex

variable {r : Regex} {source : String} {flags : Flags} {items : List ClassItem}

/-- A pattern for one character matches a text of one character if that belongs to the set. -/
theorem isMatch_char {set : CharSet}
    (hpattern : r.program.pattern = Pattern.sequence [.char set]) (c : Char) :
    r.isMatch (String.singleton c) = true ↔ set.contains c = true := by
  set t := Text.ofString (String.singleton c) with ht
  have hsize : t.size = 1 := by simp [ht, Text.ofString, Text.size]
  have hnext : t.next? .forward 0 = some c := by simp [ht, Text.ofString, Text.next?]
  have hhead : (r.program.pattern.occurrences t).head? =
      (r.program.pattern.search t 1 0).map fun found =>
        ⟨⟨found.1, found.2.position⟩, found.2.captures⟩ := by
    rw [Pattern.head?_occurrences, hsize]
  have hmatch : r.isMatch (String.singleton c) = (r.occurrences t).head?.isSome := by
    rw [isMatch, find?, matchesIn, List.head?_map, Option.isSome_map]
  rw [hmatch]
  constructor
  · intro h
    rcases Option.isSome_iff_exists.1 h with ⟨o, ho⟩
    have hfound := isMatchOf_of_mem_occurrences (List.mem_of_head? ho)
    have hsome : (r.program.pattern.matchAt t o.span.start).isSome = true := by
      rw [hfound.found]
      rfl
    rw [hpattern, Pattern.matchAt_char] at hsome
    rcases hsome with ⟨d, hd, hcontains⟩
    have hlt : o.span.start < t.size := (Array.getElem?_eq_some_iff.1 hd).1
    have hstart : o.span.start = 0 := by omega
    rw [hstart, hnext] at hd
    rwa [Option.some.inj hd]
  · intro hcontains
    have hsome : (r.program.pattern.matchAt t 0).isSome = true := by
      rw [hpattern, Pattern.matchAt_char]
      exact ⟨c, hnext, hcontains⟩
    rcases Option.isSome_iff_exists.1 hsome with ⟨place, hplace⟩
    rw [Pattern.search_of_matchAt hplace] at hhead
    rcases List.head?_eq_some_iff.1 hhead with ⟨others, hothers⟩
    -- The match starts where the text does, so the flag `y` does not matter.
    unfold occurrences
    rw [hothers]
    split
    · simp [Occurrence.takeAdjacent]
    · rfl

/-- The source is a single token, which stands for the characters that the items name: a plain
character, an escape or a class. -/
def IsSingle (r : Regex) (items : List ClassItem) : Prop :=
  Token.ofSource (Program.grammar r.source r.flags) r.source.toList = [.set items false]

instance (r : Regex) (items : List ClassItem) : Decidable (r.IsSingle items) :=
  inferInstanceAs (Decidable (Token.ofSource _ _ = _))

/-- A source of one token for a set of characters is accepted. -/
theorem exists_compile_set {negated : Bool}
    (h : Token.ofSource (Program.grammar source flags) source.toList = [.set items negated]) :
    ∃ r, compile source flags = .ok r ∧ r.program.pattern =
      Pattern.sequence [.char ⟨(Modes.ofFlags flags).caseMode, items, negated⟩] := by
  rcases Token.exists_readAt_of_ofSource h nofun with ⟨c, rest, htext, hread⟩
  have hdeclared : GroupName.declared source.toList = [] := by
    rw [htext, GroupName.declared, GroupName.declaredFrom_readAt hread nofun, List.drop_length]
    rfl
  have hreads : Assembly.Reads (Program.grammar source flags)
      (Assembly.start (Modes.ofFlags flags)) source.toList
      ((Assembly.start (Modes.ofFlags flags)).push
        (.char ⟨(Modes.ofFlags flags).caseMode, items, negated⟩) .allowed) [] := by
    rw [htext]
    refine Assembly.Reads.token hread rfl ?_
    rw [List.drop_length]
    exact Assembly.Reads.done _ _
  have hprogram : Program.read source flags =
      .ok ⟨Pattern.sequence [.char ⟨(Modes.ofFlags flags).caseMode, items, negated⟩], []⟩ := by
    rw [Program.read_eq_ok_iff]
    exact ⟨hdeclared.symm, List.nodup_nil, _, hreads, rfl, rfl⟩
  exact ⟨_, by rw [compile, hprogram], rfl⟩

/-- The class that excludes the characters of a source, which it has in parentheses. -/
def negatedSource (source : String) : String := "[^(" ++ source ++ ")]"

namespace IsSingle

/-- The texts of one character that a source for one character matches. -/
theorem isMatch_iff (h : r.IsSingle items) (hcompile : compile source flags = .ok r)
    (hflags : flags.IsBasic) (c : Char) : r.isMatch (String.singleton c) = true ↔
      items.any (·.names .exact c.toNat) = true := by
  obtain ⟨rfl, rfl⟩ := eq_of_compile hcompile
  rcases exists_compile_set h with ⟨r', hcompile', hpattern⟩
  rw [hflags.caseMode_eq] at hpattern
  obtain rfl := Except.ok.inj (hcompile.symm.trans hcompile')
  rw [isMatch_char hpattern, CharSet.contains_exact, Bool.false_bne]

/-- A plain character or an escape can be excluded by a class, which excludes the parentheses as
well.  A hyphen has its place between them, so that it is not excluded itself. -/
theorem exists_compile_negated (h : r.IsSingle items) (hr : r.flags.IsBasic)
    (hflags : flags.IsBasic) (hclass : r.source.toList.head? ≠ some '[') (hend : r.source ≠ "]") :
    ∃ r', compile (negatedSource r.source) flags = .ok r' ∧
      ∀ c : Char, r'.isMatch (String.singleton c) = true ↔
        c ≠ '(' ∧ c ≠ ')' ∧ (items.any (·.names .exact c.toNat) = true → r.source = "-") := by
  rcases Token.exists_readAt_of_ofSource h nofun with ⟨c, rest, htext, hread⟩
  have hclass' : c ≠ '[' := by
    rintro rfl
    exact hclass (by rw [htext]; rfl)
  have hbracket : c ≠ ']' := by
    rintro rfl
    rcases Token.eq_single_of_readAt (by decide) (by decide) hread with ⟨-, hlength⟩
    rw [List.eq_nil_of_length_eq_zero hlength] at htext
    exact hend (String.toList_injective htext)
  have hnegated : (negatedSource r.source).toList =
      '[' :: '^' :: '(' :: (c :: (rest ++ [')', ']'])) := by
    simp [negatedSource, htext]
  have hcarries : (Program.grammar r.source r.flags).CarriesTo ⟨false, []⟩ :=
    ⟨(hr.unicode_eq r.source).symm, nofun⟩
  have hset := Token.readAt_negated hcarries (hr.unicode_eq r.source) hclass' hbracket hread
  have hlength : ('^' :: '(' :: (c :: (rest ++ [')', ']']))).length = rest.length + 5 := by simp
  -- The source is a single class, so there are no groups that its grammar could depend on.
  have hgrammar : Program.grammar (negatedSource r.source) flags = ⟨false, []⟩ := by
    have hdeclared : GroupName.declared (negatedSource r.source).toList = [] := by
      have hfault : ∀ cause,
          Token.set (Token.betweenParentheses c items) true ≠ Token.fault cause := by
        rintro _ ⟨⟩
      rw [hnegated, GroupName.declared, GroupName.declaredFrom_readAt hset hfault, ← hlength,
        List.drop_length]
      rfl
    have hunicode := hflags.unicode_eq (negatedSource r.source)
    rw [Program.grammar, hdeclared] at hunicode ⊢
    rw [show flags.contains .unicode = false from hunicode]
  have htokens : Token.ofSource (Program.grammar (negatedSource r.source) flags)
      (negatedSource r.source).toList = [.set (Token.betweenParentheses c items) true] := by
    rw [hgrammar, hnegated, Token.ofSource_cons hset, ← hlength, List.drop_length]
    rfl
  have hhyphen : r.source = "-" ↔ c = '-' := by
    constructor
    · intro hsource
      rw [hsource] at htext
      exact (List.cons.inj htext).1.symm
    · rintro rfl
      rcases Token.eq_single_of_readAt (by decide) (by decide) hread with ⟨-, hrest⟩
      rw [List.eq_nil_of_length_eq_zero hrest] at htext
      exact String.toList_injective htext
  rcases exists_compile_set htokens with ⟨r', hcompile, hpattern⟩
  rw [hflags.caseMode_eq] at hpattern
  refine ⟨r', hcompile, fun d => ?_⟩
  rw [isMatch_char hpattern, CharSet.contains_exact, Bool.true_bne, Bool.not_eq_true',
    Bool.eq_false_iff, Ne, Token.names_betweenParentheses, hhyphen, not_or, not_or, not_and', Ne,
    not_not]

/-- A bracket in the source ends the class in front of the closing parenthesis, which has no opening
one then. -/
theorem compile_negated_eq_error (h : r.IsSingle items)
    (hbracket : r.source.toList.head? = some '[' ∨ r.source = "]") (flags : Flags) :
    ∃ cause, compile (negatedSource r.source) flags =
      .error (.invalidPattern (negatedSource r.source) cause) := by
  have hclosed : (Enclosure.closingFrom 1 false false (negatedSource r.source).toList).isSome := by
    rcases hbracket with hclass | hend
    · rcases Token.exists_readAt_of_ofSource h nofun with ⟨c, rest, htext, hread⟩
      obtain rfl : c = '[' := by
        rw [htext] at hclass
        exact Option.some.inj hclass
      have hbody : ClassText rest := by
        have hspelling := (Token.spelling_readAt hread nofun).2
        rw [List.take_length] at hspelling
        rcases hspelling with hneutral | hend | ⟨hescape, _⟩ | ⟨body, hbody, hclass⟩
        · cases hneutral with
          | inert hinert _ => exact absurd hinert (by decide)
        · cases hend
        · cases hescape
        · rw [(List.cons.inj hbody).2]
          exact hclass
      have hscan : Enclosure.closingFrom 1 false true (rest ++ [')', ']']) = some rest.length := by
        rw [Enclosure.closingFrom_class 1 hbody]
        simp [Enclosure.closingFrom]
      simp [negatedSource, htext, Enclosure.closingFrom, hscan]
    · rw [hend]
      rfl
  cases hread : Program.read (negatedSource r.source) flags with
  | error cause => exact ⟨cause, by rw [compile, hread]⟩
  | ok program =>
      rcases Program.read_eq_ok_iff.1 hread with ⟨_, _, b, hreads, henclosing, _⟩
      have hopen := Assembly.closingFrom_of_reads hreads Stops.nil Nat.one_pos
      rw [List.append_nil] at hopen
      have hnone : Enclosure.closingFrom 1 false false (negatedSource r.source).toList = none := hopen
      rw [hnone] at hclosed
      cases hclosed

end IsSingle

end Regex

end RegexComposition

import RegexComposition.Literal
import RegexComposition.Proofs.Fragment.Emission
import RegexComposition.Proofs.Fragment.Nesting
import RegexComposition.Proofs.Pattern.Language
import RegexComposition.Proofs.Pattern.Quantifier
import RegexComposition.Proofs.Pattern.Terms
import RegexComposition.Proofs.Regex.Anchored
import RegexComposition.Proofs.Regex.Occurrences

/-!
# The words of a fragment

A fragment whose leaves are literals stands for a language.  Its source matches the words of this
language and no others.

Main results:

- `unpaired`: the text that a literal matches.
- `Adds`, `Widens`: a part of a source adds terms or alternatives with a language to the open
  frame.
- `Graph.denotation`: the language of a fragment.
- `Graph.isMatch_source`: the anchored source of a fragment matches exactly its language.
-/

namespace RegexComposition

open scoped Computability

/-! ## Added terms -/

/-- The frame has got further terms, which one after the other match the language. -/
def Adds (L : Language Char) (f f' : Frame) : Prop :=
  f'.branches = f.branches ∧ ∃ terms, f'.terms = terms ++ f.terms ∧
    (Pattern.sequence terms.reverse).IsRegular ∧ (Pattern.sequence terms.reverse).language = L

namespace Adds

variable {L M : Language Char} {f f' f'' : Frame} {p : Pattern}
variable {R : Frame → Frame → Prop} {modes : Modes} {q : Quantifier}

/-- The added terms are regular and have the language. -/
theorem gains : Adds L f f' ↔ f.Gains (fun ps =>
    (Pattern.sequence ps).IsRegular ∧ (Pattern.sequence ps).language = L) f' := Iff.rfl

theorem refl (f : Frame) : Adds 1 f f := gains.2 (.refl ⟨trivial, rfl⟩ f)

/-- Terms can be added behind others. -/
theorem trans (h : Adds L f f') (h' : Adds M f' f'') : Adds (L * M) f f'' := by
  refine gains.2 ((gains.1 h).trans (gains.1 h') ?_)
  rintro ps qs ⟨hps, rfl⟩ ⟨hqs, rfl⟩
  rw [Pattern.isRegular_sequence] at hps hqs ⊢
  refine ⟨fun p hp => (List.mem_append.1 hp).elim (hps p) (hqs p), ?_⟩
  simp only [Pattern.language_sequence, List.map_append, List.prod_append]

/-- A single term is added. -/
theorem push (hp : p.IsRegular) (f : Frame) (follows : Quantifiable) :
    Adds p.language f (f.push p follows) :=
  gains.2 (.push ⟨⟨hp, trivial⟩, mul_one p.language⟩ f follows)

/-- What is added to a frame in which nothing has been read. -/
theorem body {kind : GroupKind} {index : Nat} (h : Adds L (Frame.start kind index modes) f) :
    f.body.IsRegular ∧ f.body.language = L := by
  rcases (gains.1 h).body with ⟨ps, hps, hbody⟩
  rw [hbody]
  exact hps

/-- The language of the group that a part becomes in parentheses. -/
theorem close_of_encloses (h : Encloses modes (.capturing none) R f f')
    (hR : ∀ index inner, R (Frame.start (.capturing none) index modes) inner →
      inner.body.IsRegular ∧ inner.body.language = L) :
    ∃ p : Pattern, p.IsRegular ∧ p.language = L ∧ f' = f.push p .allowed := by
  rcases Frame.exists_push_of_encloses h with ⟨index, inner, hrel, hkind, rfl⟩
  rcases hR index inner hrel with ⟨hregular, hlanguage⟩
  refine ⟨.group inner.index inner.body, hregular, hlanguage, ?_⟩
  rw [Frame.closeFollows, hkind]
  rfl

/-- A part in parentheses. -/
theorem of_encloses (h : Encloses modes (.capturing none) R f f')
    (hR : ∀ index inner, R (Frame.start (.capturing none) index modes) inner →
      inner.body.IsRegular ∧ inner.body.language = L) : Adds L f f' := by
  rcases close_of_encloses h hR with ⟨p, hp, rfl, rfl⟩
  exact push hp f .allowed

/-- Terms in parentheses. -/
theorem enclosed (h : Encloses modes (.capturing none) (Adds L) f f') : Adds L f f' :=
  of_encloses h fun _ _ hinner => hinner.body

/-- Terms in parentheses that are repeated. -/
theorem repeated (hq : q.isPossible = true) (h : Repeats modes q (Adds L) f f') :
    Adds (q.rounds L) f f' := by
  rcases h with ⟨enclosed, hencloses, rfl⟩
  rcases close_of_encloses hencloses fun _ _ hinner => hinner.body with ⟨p, hp, rfl, rfl⟩
  have hquantify : (f.push p .allowed).quantify q = f.push (.repeated q p) .nothing := rfl
  rw [hquantify]
  exact push (p := .repeated q p) ⟨hq, hp⟩ f .nothing

end Adds

/-- The language of the frame has got further alternatives. -/
def Widens (L : Language Char) (f f' : Frame) : Prop :=
  (f.body.IsRegular → f'.body.IsRegular) ∧ f'.body.language = f.body.language + L

namespace Widens

variable {L M : Language Char} {f f' f'' : Frame} {modes : Modes}

theorem refl (f : Frame) : Widens 0 f f := ⟨id, (add_zero _).symm⟩

/-- Terms behind a bar are an alternative. -/
theorem of_split (h : Adds L f.split f') : Widens L f f' := by
  rcases h with ⟨hbranches, terms, hterms, hregular, rfl⟩
  have hbody : f'.body = Pattern.alternation (f.branches.reverse ++
      [Pattern.sequence f.terms.reverse]) (Pattern.sequence terms.reverse) := by
    rw [Frame.body, hbranches, hterms]
    simp [Frame.split]
  constructor
  · intro hf
    rw [Frame.body, Pattern.isRegular_alternation] at hf
    rw [hbody, Pattern.isRegular_alternation]
    refine ⟨fun p hp => ?_, hregular⟩
    rw [List.mem_append, List.mem_singleton] at hp
    rcases hp with hp | rfl
    · exact hf.1 p hp
    · exact hf.2
  · rw [hbody, Frame.body]
    simp only [Pattern.language_alternation, List.map_append, List.sum_append, List.map_cons,
      List.map_nil, List.sum_cons, List.sum_nil, add_zero]

/-- An alternative in front of others. -/
theorem cons (h : Encloses modes (.capturing none) (Adds L) f.split f') (h' : Widens M f' f'') :
    Widens (L + M) f f'' := by
  rcases of_split (Adds.enclosed h) with ⟨hregular, hlanguage⟩
  refine ⟨fun hf => h'.1 (hregular hf), ?_⟩
  rw [h'.2, hlanguage, add_assoc]

end Widens

/-! ## Literals -/

/-- The text with each pair of backslashes, from left to right, read as one. -/
def unpaired : List Char → List Char
  | '\\' :: '\\' :: rest => '\\' :: unpaired rest
  | c :: rest => c :: unpaired rest
  | [] => []

/-- A source in which every meta character of a text stands behind a backslash. -/
inductive Escapes : List Char → List Char → Prop
  | nil : Escapes [] []
  | plain {c : Char} {text source : List Char} : isMetaCharacter c = false →
      Escapes text source → Escapes (c :: text) (c :: source)
  | escaped {c : Char} {text source : List Char} : isMetaCharacter c = true →
      Escapes text source → Escapes (c :: text) ('\\' :: c :: source)

/-- A source does not start with a meta character other than the backslash. -/
theorem Escapes.head?_ne {text source : List Char} (h : Escapes text source) {c : Char}
    (hc : isMetaCharacter c = true) (hne : c ≠ '\\') : source.head? ≠ some c := by
  intro hhead
  cases h with
  | nil => cases hhead
  | plain hplain =>
      obtain rfl := Option.some.inj hhead
      rw [hc] at hplain
      cases hplain
  | escaped => exact hne (Option.some.inj hhead).symm

/-- The source of a literal escapes its text. -/
theorem escapes_escapeChars (text : List Char) : Escapes (unpaired text) (escapeChars text) := by
  induction text using escapeChars.induct with
  | case1 rest ih => exact .escaped rfl ih
  | case2 c rest hpair hmeta ih =>
      rw [unpaired, escapeChars, if_pos hmeta]
      · exact .escaped hmeta ih
      · exact hpair
      · exact hpair
  | case3 c rest hpair hmeta ih =>
      rw [unpaired, escapeChars, if_neg hmeta]
      · exact .plain (Bool.eq_false_iff.2 hmeta) ih
      · exact hpair
      · exact hpair
  | case4 => exact .nil

namespace Token

/-- A character without a meaning in a pattern stands for itself. -/
theorem readAt_of_not_metaCharacter {g : Grammar} {c : Char} {rest : List Char}
    (hc : isMetaCharacter c = false) : readAt g c rest = (literal c.toNat, 0) := by
  have hne : ∀ d ∈ metaCharacters, c ≠ d := by
    intro d hd hcd
    subst hcd
    rw [isMetaCharacter, List.contains_iff_mem.2 hd] at hc
    cases hc
  unfold readAt
  split
  case h_15 => rfl
  all_goals exact absurd rfl (hne _ (by decide))

/-- A character with a meaning in a pattern stands for itself behind a backslash, except for a
hyphen with the flag `u`. -/
theorem readAt_of_metaCharacter {g : Grammar} {c : Char} {rest : List Char}
    (hhyphen : g.unicode = true → c ≠ '-') (hc : isMetaCharacter c = true) :
    readAt g '\\' (c :: rest) = (literal c.toNat, 1) := by
  have hmem : c ∈ metaCharacters := List.contains_iff_mem.1 hc
  rcases g with ⟨unicode, groups⟩
  simp only [metaCharacters, List.mem_cons, List.not_mem_nil, or_false] at hmem
  cases unicode with
  | false =>
      rcases hmem with rfl | rfl | rfl | rfl | rfl | rfl | rfl | rfl | rfl | rfl | rfl | rfl | rfl |
        rfl | rfl | rfl
      all_goals rfl
  | true =>
      rcases hmem with rfl | rfl | rfl | rfl | rfl | rfl | rfl | rfl | rfl | rfl | rfl | rfl | rfl |
        rfl | rfl | rfl
      all_goals first
        | rfl
        | exact absurd rfl (hhyphen rfl)

/-- With the flag `u` a hyphen behind a backslash is an error. -/
theorem readAt_hyphen {g : Grammar} (hunicode : g.unicode = true) (rest : List Char) :
    readAt g '\\' ('-' :: rest) = (fault .invalidEscape, 0) := by
  rcases g with ⟨unicode, groups⟩
  obtain rfl : unicode = true := hunicode
  rfl

end Token

/-- One character in front of a word. -/
theorem singleton_mul_singleton (c : Char) (w : List Char) :
    ({[c]} : Language Char) * {w} = {c :: w} := by
  ext v
  rw [Language.mem_mul]
  constructor
  · rintro ⟨_, rfl, _, rfl, rfl⟩
    rfl
  · rintro rfl
    exact ⟨[c], rfl, w, rfl, rfl⟩

/-- A single code point matches its character. -/
theorem language_single (c : Char) :
    (Pattern.char (CharSet.single .exact c.toNat)).language = {[c]} := by
  ext w
  constructor
  · rintro ⟨d, hd, rfl⟩
    rw [CharSet.contains_single_exact, Char.toNat_inj] at hd
    rw [hd]
    rfl
  · rintro rfl
    exact ⟨c, (CharSet.contains_single_exact _ _).2 rfl, rfl⟩

/-- Behind a literal character the scan for names goes on. -/
theorem GroupName.declaredFrom_literal {c d : Char} {l rest : List Char}
    (hread : Token.readAt ⟨false, []⟩ c (l ++ rest) =
      (Token.literal d.toNat, l.length)) :
    declaredFrom false (c :: (l ++ rest)) 0 = declaredFrom false rest 0 := by
  rw [declaredFrom_readAt hread nofun, List.drop_left]
  rfl

/-- The term of a character that stands for itself. -/
def literalTerm (c : Char) : Pattern := .char (CharSet.single .exact c.toNat)

/-- The terms of a word match it and nothing else. -/
theorem language_literalTerm (w : List Char) :
    (Pattern.sequence (w.map literalTerm)).IsRegular ∧
      (Pattern.sequence (w.map literalTerm)).language = {w} := by
  induction w with
  | nil => exact ⟨trivial, rfl⟩
  | cons c w ih =>
      refine ⟨⟨trivial, ih.1⟩, ?_⟩
      rw [← singleton_mul_singleton, ← language_single, ← ih.2]
      rfl

/-- The term of a character that stands for itself, compared as the modes say. -/
def Modes.literalTerm (modes : Modes) (c : Char) : Pattern :=
  .char (CharSet.single modes.caseMode c.toNat)

/-- A literal character adds a term in front of what the rest adds. -/
theorem Assembly.Reads.literal {g : Grammar} {modes : Modes} {a : Assembly} {c d : Char}
    {l rest after w : List Char} {count : Nat}
    (hread : Token.readAt g c (l ++ rest) = (Token.literal d.toNat, l.length))
    (hmodes : a.current.modes = modes)
    (hrest : ∀ b : Assembly, b.current.modes = modes → ∃ frame,
      Reads g b rest ⟨frame, b.enclosing, b.groups + count⟩ after ∧ b.current.Continues frame ∧
        b.current.Gains (· = w.map modes.literalTerm) frame) :
    ∃ frame, Reads g a (c :: (l ++ rest)) ⟨frame, a.enclosing, a.groups + count⟩ after ∧
      a.current.Continues frame ∧
        a.current.Gains (· = (d :: w).map modes.literalTerm) frame := by
  rcases hrest (a.push (modes.literalTerm d) .allowed) hmodes with ⟨frame, hreads, hframe, hgains⟩
  have hstep : a.step (Token.literal d.toNat) = .ok (a.push (modes.literalTerm d) .allowed) := by
    rw [Token.literal, Assembly.step, hmodes]
    rfl
  refine ⟨frame, Reads.cons hread hstep hreads, hframe, ?_⟩
  have hterm : a.current.Gains (· = [modes.literalTerm d])
      (a.current.push (modes.literalTerm d) .allowed) := ⟨rfl, [modes.literalTerm d], rfl, rfl⟩
  refine hterm.trans hgains ?_
  rintro _ _ rfl rfl
  rfl

/-- An escaped text is read as its characters, unless the flag `u` forbids to escape a hyphen. -/
theorem ReadsIn.escaped {g : Grammar} {modes : Modes} (hu : g.unicode = modes.unicode)
    {text source : List Char} (h : Escapes text source)
    (hhyphen : modes.unicode = true → '-' ∉ text) :
    ReadsIn g modes 0 (Frame.Gains (· = text.map modes.literalTerm)) source := by
  intro a after hm _
  -- The induction is on the text that is left, from any assembly in the same modes.
  induction h generalizing a with
  | nil => exact ⟨a.current, Assembly.Reads.done a after, Frame.Continues.refl _,
        ⟨rfl, [], rfl, rfl⟩⟩
  | plain hc _ ih =>
      exact Assembly.Reads.literal (l := []) (Token.readAt_of_not_metaCharacter hc) hm
        (ih fun hunicode => mt (List.mem_cons_of_mem _) (hhyphen hunicode))
  | @escaped c _ _ hc _ ih =>
      refine Assembly.Reads.literal (l := [c]) (Token.readAt_of_metaCharacter ?_ hc) hm
        (ih fun hunicode => mt (List.mem_cons_of_mem _) (hhyphen hunicode))
      rintro hunicode rfl
      exact hhyphen (hu ▸ hunicode) List.mem_cons_self

/-- An escaped text has no groups. -/
theorem Escapes.declaredFrom_append {text source : List Char} (h : Escapes text source)
    (after : List Char) :
    GroupName.declaredFrom false (source ++ after) 0 = GroupName.declaredFrom false after 0 := by
  induction h with
  | nil => rfl
  | plain hc _ ih =>
      exact (GroupName.declaredFrom_literal (l := [])
        (Token.readAt_of_not_metaCharacter hc)).trans ih
  | @escaped c _ _ hc _ ih =>
      exact (GroupName.declaredFrom_literal (l := [c])
        (Token.readAt_of_metaCharacter nofun hc)).trans ih

/-- An escaped text fits everywhere, unless the flag `u` forbids to escape a hyphen. -/
theorem Fits.escaped {modes : Modes} {text source : List Char} (h : Escapes text source)
    (hhyphen : modes.unicode = true → '-' ∉ text) :
    Fits modes 0 (Frame.Gains (· = text.map modes.literalTerm)) source where
  head := h.head?_ne rfl (by decide)
  declared after _ := h.declaredFrom_append after
  reads _ a after hu _ _ hm hs := ReadsIn.escaped hu h hhyphen a after hm hs

/-- An escaped text is read as its characters. -/
theorem Fits.literal {modes : Modes} (hunicode : modes.unicode = false)
    (hcase : modes.ignoreCase = false) {text source : List Char} (h : Escapes text source) :
    Fits modes 0 (Frame.Gains (· = text.map literalTerm)) source := by
  have hterm : modes.literalTerm = literalTerm := by
    funext c
    rw [Modes.literalTerm, Modes.caseMode, hcase]
    rfl
  rw [← hterm]
  refine Fits.escaped h fun htrue => ?_
  rw [hunicode] at htrue
  cases htrue

/-- An escaped text matches itself. -/
theorem Fits.of_escapes {modes : Modes} (hunicode : modes.unicode = false)
    (hcase : modes.ignoreCase = false) {text source : List Char} (h : Escapes text source) :
    Fits modes 0 (Adds {text}) source :=
  (Fits.literal hunicode hcase h).mono fun _ _ hgains =>
    Adds.gains.2 (hgains.mono fun _ hps => hps ▸ language_literalTerm text)

/-! ## Modifiers -/

/-- What modifiers make of a language: one or more, zero or more, optional, from the inside
out. -/
def Modifiers.denotation (m : Modifiers) (L : Language Char) : Language Char :=
  let L := if m.oneOrMore then L * L∗ else L
  let L := if m.zeroOrMore then L∗ else L
  if m.optional then L + 1 else L

namespace Emission.Fills

variable {modes : Modes} {L : Language Char} {e : Emission}

/-- A part in parentheses that is repeated. -/
theorem rounds {after : String} {l : List Char} {q : Quantifier} (hafter : after.toList = ')' :: l)
    (hq : QuantifierSpelling l q) (h : Fills modes (Adds L) e) :
    Fills modes (Adds (q.rounds L)) (Emission.wrap "(" e after) :=
  (h.quantified hafter hq.readsAs.1 hq.readsAs.2).mono fun _ _ => Adds.repeated hq.readsAs.2

/-- Modifiers without a quantifier and negation. -/
theorem denotation {m : Modifiers} (h : Fills modes (Adds L) e) (hquantifier : m.quantifier = none)
    (hnegated : m.negated = false) : Fills modes (Adds (m.denotation L)) (m.apply e) := by
  unfold Modifiers.apply Modifiers.denotation
  dsimp only
  rw [hnegated, hquantifier, if_neg Bool.false_ne_true]
  dsimp only
  have honce : Fills modes (Adds (if m.oneOrMore then L * L∗ else L))
      (if m.oneOrMore then Emission.wrap "(" e ")+" else e) := by
    split
    · rw [← Quantifier.rounds_plus true]
      exact h.rounds rfl (.greedy .plus)
    · exact h
  generalize (if m.oneOrMore then L * L∗ else L) = once at honce ⊢
  generalize (if m.oneOrMore then Emission.wrap "(" e ")+" else e) = source at honce ⊢
  by_cases hmany : m.zeroOrMore = true
  · rw [if_pos hmany, if_pos hmany, hmany, Bool.not_true, Bool.and_false,
      if_neg Bool.false_ne_true]
    by_cases hoptional : m.optional = true
    · -- The lazy star matches the empty word already.
      have hnil : once∗ + 1 = once∗ := by
        rw [add_comm, ← Language.one_add_self_mul_kstar_eq_kstar, ← add_assoc, Language.add_self]
      rw [if_pos hoptional, if_pos hoptional, hnil, ← Quantifier.rounds_star false]
      exact honce.rounds rfl (.lazy .star)
    · rw [if_neg hoptional, if_neg hoptional, ← Quantifier.rounds_star true]
      exact honce.rounds rfl (.greedy .star)
  · rw [if_neg hmany, if_neg hmany, Bool.eq_false_iff.2 hmany, Bool.not_false, Bool.and_true]
    by_cases hoptional : m.optional = true
    · rw [if_pos hoptional, if_pos hoptional, ← Quantifier.rounds_optional true]
      exact honce.rounds rfl (.greedy .optional)
    · rw [if_neg hoptional, if_neg hoptional]
      exact honce

end Emission.Fills

/-! ## Anchors -/

/-- Terms in parentheses between anchors. -/
theorem Fits.anchored {modes : Modes} {n : Nat} {L : Language Char} {source : List Char}
    (h : Fits modes n (Adds L) source) : Fits modes (0 + (1 + n) + 0)
      (fun f f' => ∃ p : Pattern, p.IsRegular ∧ p.language = L ∧
        f' = ((f.push (.assertion (.lineStart modes.multiline)) .forbidden).push p .allowed).push
          (.assertion (.lineEnd modes.multiline)) .forbidden)
      (['^'] ++ '(' :: (source ++ [')']) ++ ['$']) := by
  have hgroup := (h.enclosed OpensWith.capturing).mono fun f f' hencloses =>
    Adds.close_of_encloses hencloses fun _ _ hinner => hinner.body
  have hopen : Fits modes (0 + (1 + n))
      (fun f f' => ∃ p : Pattern, p.IsRegular ∧ p.language = L ∧
        f' = (f.push (.assertion (.lineStart modes.multiline)) .forbidden).push p .allowed)
      (['^'] ++ '(' :: (source ++ [')'])) :=
    Fits.lineStart.append hgroup (by simp [Stops]) fun f f' f'' hstart hterm => hstart ▸ hterm
  refine hopen.append Fits.lineEnd (by simp [Stops]) fun f f' f'' hterm hend => ?_
  rcases hterm with ⟨p, hregular, hlanguage, rfl⟩
  exact ⟨p, hregular, hlanguage, hend⟩

/-- The anchored source of terms is accepted, and matches the words of their language. -/
theorem Fits.compile_anchored {n : Nat} {L : Language Char} {source : List Char}
    (h : Fits (Modes.ofFlags ∅) n (Adds L) source) :
    ∃ r, Regex.compile ("^(" ++ String.ofList source ++ ")$") ∅ = .ok r ∧
      ∀ text : String, r.isMatch text = true ↔ text.toList ∈ L := by
  rcases h.anchored.compile with ⟨r, frame, hcompile, _, hpattern, p, hregular, hlanguage, rfl⟩
  have hsource : String.ofList (['^'] ++ '(' :: (source ++ [')']) ++ ['$']) =
      "^(" ++ String.ofList source ++ ")$" := by
    apply String.toList_injective
    simp
  have hsticky : r.isSticky = false := by
    rw [Regex.isSticky, (Regex.of_compile hcompile).2.2]
    rfl
  have hanchored : r.program.pattern = p.anchored := hpattern
  refine ⟨r, hsource ▸ hcompile, fun text => ?_⟩
  rw [Regex.isMatch_iff hsticky, hanchored, ← hlanguage]
  simp only [Pattern.matchAt_anchored hregular]
  constructor
  · rintro ⟨_, _, _, hword⟩
    exact hword
  · intro hword
    exact ⟨0, Nat.zero_le _, rfl, hword⟩

/-! ## Fragments -/

/-- The language of a kind, given those of a leaf and of the parts. -/
def FragmentKind.denotation (leaf : Language Char) (part : FragmentId → Language Char) :
    FragmentKind → Language Char
  | native _ => leaf
  | composite children => (children.map part).prod
  | upTo _ _ _ | expressionEnd => 0

namespace Graph

variable {g : Graph} {literal : FragmentId → Literal} {levels : Nat} {id root : FragmentId}

/-- The language of a node: the text of a literal, the concatenation of the children, the union
with the alternatives, and what the modifiers make of it. -/
def denotation (g : Graph) (literal : FragmentId → Literal) :
    (levels : Nat) → FragmentId → Language Char
  | 0, _ => 0
  | levels + 1, id =>
    let n := g.node id
    n.modifiers.denotation
      (n.kind.denotation {unpaired (literal id).plainText.toList} (g.denotation literal levels) +
        (n.alternatives.map (g.denotation literal levels)).sum)

/-- What is asked of a node: it is a literal or a composite, without a quantifier and negation. -/
structure IsLiteral (g : Graph) (literal : FragmentId → Literal) (id : FragmentId) : Prop where
  kind : (g.node id).kind = .native (.ofSource (literal id).source) ∨
    ∃ children, (g.node id).kind = .composite children
  quantifier : (g.node id).modifiers.quantifier = none
  negated : (g.node id).modifiers.negated = false

/-- The own part of a node adds its language. -/
theorem fills_ownDenotation {modes : Modes} (hunicode : modes.unicode = false)
    (hcase : modes.ignoreCase = false) (hnode : g.IsLiteral literal id)
    (hparts : ∀ next ∈ (g.node id).kind.parts,
      Emission.Fills modes (Adds (g.denotation literal levels next)) (g.emission levels next)) :
    Emission.Fills modes (Adds ((g.node id).kind.denotation
        {unpaired (literal id).plainText.toList} (g.denotation literal levels)))
      ((g.node id).kind.emission (g.emission levels)) := by
  rcases hnode.kind with hkind | ⟨children, hkind⟩
  · rw [hkind]
    have hsource : (literal id).source.toList = escapeChars (literal id).plainText.toList :=
      String.toList_ofList
    have hfits : Fits modes 0 (Adds {unpaired (literal id).plainText.toList})
        (literal id).source.toList := by
      rw [hsource]
      exact Fits.of_escapes hunicode hcase (escapes_escapeChars _)
    exact Emission.Fills.ofChars hfits
  · rw [hkind] at hparts ⊢
    have hsequence := Emission.Fills.sequence
      (T := fun ids => Adds ((ids.map (g.denotation literal levels)).prod)) hparts
      (fun _ _ _ h => h) (fun _ _ _ => Adds.enclosed) Adds.refl fun _ _ _ _ _ => Adds.trans
    exact hsequence.1

/-- The emission of a fragment adds its language. -/
theorem fills_denotation {modes : Modes} (hunicode : modes.unicode = false)
    (hcase : modes.ignoreCase = false) (hnests : g.NestsWithin levels id)
    (hbelow : ∀ next, g.Reaches id next → g.IsLiteral literal next) :
    Emission.Fills modes (Adds (g.denotation literal levels id)) (g.emission levels id) := by
  induction levels generalizing id with
  | zero => exact hnests.elim
  | succ levels ih =>
      have hlinks : ∀ next ∈ (g.node id).links, Emission.Fills modes
          (Adds (g.denotation literal levels next)) (g.emission levels next) := by
        intro next hnext
        exact ih (hnests next hnext) fun last hlast =>
          hbelow last (Relation.ReflTransGen.head hnext hlast)
      have hnode := hbelow id Relation.ReflTransGen.refl
      have hown := fills_ownDenotation hunicode hcase hnode fun next hnext =>
        hlinks next (List.mem_append_right _ hnext)
      rw [emission, denotation]
      refine Emission.Fills.denotation ?_ hnode.quantifier hnode.negated
      by_cases halternatives : (g.node id).alternatives = []
      · rw [halternatives, List.map_nil, List.map_nil, List.sum_nil, add_zero]
        exact hown
      · have hbranches : ∀ next ∈ (g.node id).alternatives, Emission.Fills modes
            (Adds (g.denotation literal levels next)) (g.emission levels next) :=
          fun next hnext => hlinks next (List.mem_append_left _ hnext)
        have halternation := Emission.Fills.alternation
          (T := fun ids => Widens (ids.map (g.denotation literal levels)).sum) hown hbranches
          Widens.refl (fun _ _ _ _ _ => Widens.cons) halternatives
        refine halternation.mono fun f f' hencloses => ?_
        refine Adds.of_encloses hencloses fun index inner hinner => ?_
        rcases hinner with ⟨first, hfirst, hwidens⟩
        rcases (Adds.enclosed hfirst).body with ⟨hregular, hlanguage⟩
        exact ⟨hwidens.1 hregular, hlanguage ▸ hwidens.2⟩

/-- The anchored source of a fragment is accepted, and matches the words of the fragment and no
other texts. -/
theorem isMatch_source (hnests : g.NestsWithin (maxNesting + 1) root)
    (hbelow : ∀ id, g.Reaches root id → g.IsLiteral literal id) :
    ∃ source r, g.source root = .ok source ∧
      Regex.compile ("^(" ++ source ++ ")$") ∅ = .ok r ∧
      ∀ text : String, r.isMatch text = true ↔
        text.toList ∈ g.denotation literal (maxNesting + 1) root := by
  have hfills : Emission.Fills (Modes.ofFlags ∅)
      (Adds (g.denotation literal (maxNesting + 1) root)) (g.emission (maxNesting + 1) root) :=
    fills_denotation rfl rfl hnests hbelow
  rcases hfills with ⟨n, hfits⟩
  rcases (hfits _ (Emission.resolves_resolve _)).compile_anchored with ⟨r, hcompile, hmatches⟩
  exact ⟨_, r, source_of_nestsWithin hnests, hcompile, hmatches⟩

/-- A fragment with alternatives in which a star is repeated. -/
def repeatedChoice : Graph := ⟨#[
  { kind := .native (.ofSource (Literal.text "a+").source), modifiers := { zeroOrMore := true } },
  { kind := .native (.ofSource (Literal.text "\\\\").source) },
  { kind := .composite [⟨0⟩, ⟨1⟩], alternatives := [⟨0⟩],
    modifiers := { oneOrMore := true, optional := true } }]⟩

theorem isMatch_source_repeatedChoice : ∃ source r, repeatedChoice.source ⟨2⟩ = .ok source ∧
    Regex.compile ("^(" ++ source ++ ")$") ∅ = .ok r ∧
    ∀ text : String, r.isMatch text = true ↔ text.toList ∈ repeatedChoice.denotation
      (fun id => .text (if id.index = 0 then "a+" else "\\\\")) (maxNesting + 1) ⟨2⟩ := by
  have holder : ∀ i ≤ 2, ∀ next ∈ (repeatedChoice.node ⟨i⟩).links, next.index < i := by decide
  refine isMatch_source (nestsWithin_of_older holder (by decide)) fun id hid => ?_
  have hindex : id.index ≤ 2 := index_le_of_reaches holder hid
  rcases id with ⟨_ | _ | _ | i⟩
  · exact ⟨.inl rfl, rfl, rfl⟩
  · exact ⟨.inl rfl, rfl, rfl⟩
  · exact ⟨.inr ⟨_, rfl⟩, rfl, rfl⟩
  · exact absurd hindex (by simp)

end Graph

end RegexComposition

import Mathlib.Tactic.Common
import RegexComposition.Proofs.Pattern.Scanning
import RegexComposition.Regex

/-!
# Reading a text

A pattern source is read by taking tokens off its front.  This module follows the assembly along
with the text that is left, says once what a token can do to the open frames, and derives from it
what holds whenever a text has been read.

Main results:

- `Assembly.Reads`: a text is read up to some remaining text.
- `Assembly.reads_iff`: reading to the end is assembling all tokens.
- `Assembly.step_cases`: what a token does to the open frames.
- `Assembly.Reads.opened_eq`: the groups are numbered in the order in which they are opened.
- `Assembly.Reads.declared`: the scan for group names finds the groups that are opened.
-/

namespace RegexComposition

/-! ## Reading -/

namespace Token

/-- The tokens of a text, each with the characters that spell it. -/
def spelledFrom (g : Grammar) : List Char → Nat → List (Token × List Char)
  | [], _ => []
  | _ :: rest, skip + 1 => spelledFrom g rest skip
  | c :: rest, 0 =>
    let (token, extra) := readAt g c rest
    (token, c :: rest.take extra) :: spelledFrom g rest extra

/-- What belongs to a token already read can be left out. -/
theorem ofSourceFrom_skip (g : Grammar) (text : List Char) (skip : Nat) :
    ofSourceFrom g text skip = ofSourceFrom g (text.drop skip) 0 := by
  induction text generalizing skip with
  | nil => cases skip <;> simp [ofSourceFrom]
  | cons c rest ih =>
      cases skip with
      | zero => rfl
      | succ skip => exact ih skip

/-- What belongs to a token already read can be left out. -/
theorem spelledFrom_skip (g : Grammar) (text : List Char) (skip : Nat) :
    spelledFrom g text skip = spelledFrom g (text.drop skip) 0 := by
  induction text generalizing skip with
  | nil => cases skip <;> simp [spelledFrom]
  | cons c rest ih =>
      cases skip with
      | zero => rfl
      | succ skip => exact ih skip

/-- The first token of a source and those after it. -/
theorem ofSource_cons {g : Grammar} {c : Char} {rest : List Char} {token : Token} {extra : Nat}
    (h : readAt g c rest = (token, extra)) :
    ofSource g (c :: rest) = token :: ofSource g (rest.drop extra) := by
  simp only [ofSource, ofSourceFrom, h]
  rw [ofSourceFrom_skip]

/-- The first token of a text with its spelling, and those after it. -/
theorem spelledFrom_cons {g : Grammar} {c : Char} {rest : List Char} {token : Token} {extra : Nat}
    (h : readAt g c rest = (token, extra)) :
    spelledFrom g (c :: rest) 0 =
      (token, c :: rest.take extra) :: spelledFrom g (rest.drop extra) 0 := by
  simp only [spelledFrom, h]
  rw [spelledFrom_skip]

/-- The spelled tokens are the tokens. -/
theorem map_fst_spelledFrom (g : Grammar) (text : List Char) (skip : Nat) :
    (spelledFrom g text skip).map (·.1) = ofSourceFrom g text skip := by
  induction text generalizing skip with
  | nil => cases skip <;> rfl
  | cons c rest ih =>
      cases skip with
      | zero => exact congrArg _ (ih _)
      | succ skip => exact ih skip

end Token

namespace Assembly

/-- `Reads g a text b remaining`: from `a`, the tokens at the front of `text` are taken in, which
gives `b` and leaves `remaining`. -/
inductive Reads (g : Grammar) : Assembly → List Char → Assembly → List Char → Prop
  | done (a : Assembly) (text : List Char) : Reads g a text a text
  | token {a b d : Assembly} {c : Char} {rest remaining : List Char} {token : Token} {extra : Nat} :
      Token.readAt g c rest = (token, extra) → a.step token = .ok b →
        Reads g b (rest.drop extra) d remaining → Reads g a (c :: rest) d remaining

namespace Reads

variable {g : Grammar} {a b d : Assembly} {text middle remaining : List Char}

/-- One text can be read after another. -/
theorem trans (h : Reads g a text b middle) (h' : Reads g b middle d remaining) :
    Reads g a text d remaining := by
  induction h with
  | done a text => exact h'
  | token hread hstep _ ih => exact token hread hstep (ih h')

/-- What is left of a text stands at its end. -/
theorem exists_append (h : Reads g a text b remaining) : ∃ l, text = l ++ remaining := by
  induction h with
  | done a text => exact ⟨[], rfl⟩
  | @token a b d c rest remaining token extra _ _ _ ih =>
      rcases ih with ⟨l, hl⟩
      refine ⟨c :: (rest.take extra ++ l), ?_⟩
      rw [List.cons_append, List.append_assoc, ← hl, List.take_append_drop]

/-- The first token of a text is taken in unless nothing is. -/
theorem exists_of_cons {c : Char} {rest : List Char} {token : Token} {extra : Nat}
    (h : Reads g a (c :: rest) b remaining) (hread : Token.readAt g c rest = (token, extra))
    (hlength : remaining.length ≤ rest.length) :
    ∃ d, a.step token = .ok d ∧ Reads g d (rest.drop extra) b remaining := by
  cases h with
  | done =>
      rw [List.length_cons] at hlength
      omega
  | token hread' hstep hrest =>
      rw [hread] at hread'
      rcases Prod.mk.inj hread' with ⟨rfl, rfl⟩
      exact ⟨_, hstep, hrest⟩

/-- There is only one way to read a text. -/
theorem cancel (h : Reads g a text d middle) (hall : Reads g a text b remaining)
    (hlength : remaining.length ≤ middle.length) : Reads g d middle b remaining := by
  induction h with
  | done a text => exact hall
  | token hread hstep hrest ih =>
      rcases hrest.exists_append with ⟨l, hl⟩
      have hmiddle := congrArg List.length hl
      rw [List.length_drop, List.length_append] at hmiddle
      rcases hall.exists_of_cons hread (by omega) with ⟨a', hstep', hrest'⟩
      rw [hstep] at hstep'
      obtain rfl := Except.ok.inj hstep'
      exact ih hrest' hlength

end Reads

/-- Reading a text to its end is assembling all its tokens. -/
theorem reads_iff {g : Grammar} {a b : Assembly} {text : List Char} :
    Reads g a text b [] ↔ (Token.ofSource g text).foldlM step a = .ok b := by
  constructor
  · intro h
    generalize hend : ([] : List Char) = remaining at h
    induction h with
    | done a text =>
        subst hend
        rfl
    | @token a b d c rest remaining t extra hread hstep hrest ih =>
        rw [Token.ofSource_cons hread, List.foldlM_cons, hstep]
        exact ih hend
  · intro h
    induction hlength : text.length using Nat.strongRecOn generalizing a text with
    | ind n ih =>
        cases text with
        | nil =>
            obtain rfl : a = b := Except.ok.inj h
            exact Reads.done a []
        | cons c rest =>
            rcases hread : Token.readAt g c rest with ⟨t, extra⟩
            rw [Token.ofSource_cons hread, List.foldlM_cons] at h
            cases hstep : a.step t with
            | error e =>
                rw [hstep] at h
                cases h
            | ok a' =>
                rw [hstep] at h
                refine Reads.token hread hstep (ih _ ?_ h rfl)
                simp only [List.length_cons, List.length_drop] at hlength ⊢
                omega

end Assembly

/-! ## Open frames -/

namespace Frame

/-- The group that a frame is itself. -/
def own (f : Frame) : List Nat :=
  match f.kind with
  | .capturing _ => [f.index]
  | .plain | .modified _ _ | .look _ _ => []

/-- The groups opened by a frame and inside it, in order. -/
def opened (f : Frame) : List Nat := f.own ++ f.body.groups

/-- The second frame is what the first can become as long as it is not closed. -/
def Continues (f f' : Frame) : Prop :=
  f'.kind = f.kind ∧ f'.index = f.index ∧ f'.modes = f.modes

theorem Continues.refl (f : Frame) : f.Continues f := ⟨rfl, rfl, rfl⟩

theorem Continues.trans {f f' f'' : Frame} (h : f.Continues f') (h' : f'.Continues f'') :
    f.Continues f'' :=
  ⟨h'.1.trans h.1, h'.2.1.trans h.2.1, h'.2.2.trans h.2.2⟩

/-- A quantifier continues the frame. -/
theorem continues_quantify (f : Frame) (q : Quantifier) : f.Continues (f.quantify q) := by
  unfold quantify
  split <;> exact ⟨rfl, rfl, rfl⟩

theorem groups_body (f : Frame) :
    f.body.groups = f.branches.reverse.flatMap Pattern.groups ++
      f.terms.reverse.flatMap Pattern.groups := by
  simp [body]

/-- A new term brings its groups. -/
theorem opened_push (f : Frame) (p : Pattern) (follows : Quantifiable) :
    (f.push p follows).opened = f.opened ++ p.groups := by
  simp [opened, own, groups_body, push]

/-- A bar opens no group. -/
theorem opened_split (f : Frame) : f.split.opened = f.opened := by
  simp [opened, own, groups_body, split]

/-- A quantifier opens no group. -/
theorem opened_quantify (f : Frame) (q : Quantifier) : (f.quantify q).opened = f.opened := by
  unfold quantify
  split
  · next p rest hterms => simp [opened, own, groups_body, hterms, Pattern.groups]
  · rfl

/-- A closed frame keeps its groups. -/
theorem groups_close (f : Frame) : f.close.groups = f.opened := by
  cases hkind : f.kind <;> simp [close, opened, own, hkind, Pattern.groups]

end Frame

namespace Assembly

/-- The groups opened so far, in order. -/
def opened (a : Assembly) : List Nat := (a.current :: a.enclosing).reverse.flatMap Frame.opened

/-- A parenthesis closes the innermost frame, which becomes a term of the one around it. -/
theorem exists_of_step_closing {a b : Assembly} (h : a.step .closing = .ok b) :
    ∃ outer rest, a.enclosing = outer :: rest ∧
      b = ⟨outer.push a.current.close a.current.closeFollows, rest, a.groups⟩ := by
  simp only [step, closeGroup] at h
  split at h
  · next outer rest henclosing => exact ⟨outer, rest, henclosing, (Except.ok.inj h).symm⟩
  · cases h

/-- A quantifier stands behind a term that can be repeated. -/
theorem of_step_quantifier {a b : Assembly} {q : Quantifier} {braced : Bool}
    (h : a.step (.quantifier q braced) = .ok b) :
    a.current.follows = .allowed ∧ q.isPossible = true ∧
      b = { a with current := a.current.quantify q } := by
  simp only [step, quantify] at h
  split at h
  · cases h
  · cases h
  · next hfollows =>
      split at h
      · next hpossible => exact ⟨hfollows, hpossible, (Except.ok.inj h).symm⟩
      · cases h

/-- A token opens a frame, closes the innermost one or continues it. -/
theorem step_cases {a b : Assembly} {token : Token} (h : a.step token = .ok b) :
    (∃ kind, token = .opening kind ∧ b = a.openGroup kind) ∨
    (token = .closing ∧ ∃ outer rest, a.enclosing = outer :: rest ∧
      b = ⟨outer.push a.current.close a.current.closeFollows, rest, a.groups⟩) ∨
    ((∀ kind, token ≠ .opening kind) ∧ token ≠ .closing ∧ (∀ cause, token ≠ .fault cause) ∧
      ∃ frame, b = { a with current := frame } ∧ a.current.Continues frame ∧
        frame.opened = a.current.opened) := by
  have pushed : ∀ (p : Pattern) (follows : Quantifiable), p.groups = [] →
      Except.ok (a.push p follows) = Except.ok (ε := PatternError) b →
        ∃ frame, b = { a with current := frame } ∧ a.current.Continues frame ∧
          frame.opened = a.current.opened := by
    intro p follows hp heq
    refine ⟨a.current.push p follows, (Except.ok.inj heq).symm, ⟨rfl, rfl, rfl⟩, ?_⟩
    rw [Frame.opened_push, hp, List.append_nil]
  cases token with
  | opening kind => exact Or.inl ⟨kind, rfl, (Except.ok.inj h).symm⟩
  | closing => exact Or.inr (Or.inl ⟨rfl, exists_of_step_closing h⟩)
  | set items negated =>
      exact Or.inr (Or.inr ⟨by simp, by simp, by simp, pushed _ _ rfl h⟩)
  | dot => exact Or.inr (Or.inr ⟨by simp, by simp, by simp, pushed _ _ rfl h⟩)
  | lineStart => exact Or.inr (Or.inr ⟨by simp, by simp, by simp, pushed _ _ rfl h⟩)
  | lineEnd => exact Or.inr (Or.inr ⟨by simp, by simp, by simp, pushed _ _ rfl h⟩)
  | wordBoundary negated => exact Or.inr (Or.inr ⟨by simp, by simp, by simp, pushed _ _ rfl h⟩)
  | backreference i => exact Or.inr (Or.inr ⟨by simp, by simp, by simp, pushed _ _ rfl h⟩)
  | bar =>
      refine Or.inr (Or.inr ⟨by simp, by simp, by simp, a.current.split, ?_, ⟨rfl, rfl, rfl⟩,
        a.current.opened_split⟩)
      exact (Except.ok.inj h).symm
  | quantifier q braced =>
      rcases of_step_quantifier h with ⟨-, -, hb⟩
      exact Or.inr (Or.inr ⟨by simp, by simp, by simp, a.current.quantify q, hb,
        a.current.continues_quantify q, a.current.opened_quantify q⟩)
  | looseBrace => cases h
  | fault cause => cases h

/-- A token that can stand where it stands is no fault. -/
theorem ne_fault_of_step {a b : Assembly} {token : Token} (h : a.step token = .ok b) :
    ∀ cause, token ≠ .fault cause := by
  rintro cause rfl
  cases h

/-- One token keeps the groups numbered in the order in which they are opened. -/
theorem opened_of_step {a b : Assembly} {token : Token} (h : a.step token = .ok b)
    (ha : a.opened = List.range' 1 a.groups) : b.opened = List.range' 1 b.groups := by
  rcases step_cases h with ⟨kind, rfl, rfl⟩ | ⟨rfl, outer, rest, henclosing, rfl⟩ |
    ⟨_, _, _, frame, rfl, _, hframe⟩
  · have hopen : (a.openGroup kind).opened =
        a.opened ++ (Frame.start kind (a.openGroup kind).groups
          (a.current.modes.inside kind)).opened := by
      simp [opened, openGroup]
    rw [hopen, ha]
    cases kind with
    | capturing name =>
        simp [Frame.opened, Frame.own, Frame.start, Frame.body, openGroup, Pattern.groups,
          Pattern.sequence, List.range'_1_concat, Nat.add_comm]
    | plain | modified | look =>
        simp [Frame.opened, Frame.own, Frame.start, Frame.body, openGroup, Pattern.groups,
          Pattern.sequence]
  · rw [← ha]
    simp [opened, henclosing, Frame.opened_push, Frame.groups_close]
  · rw [← ha]
    simp [opened, hframe]

/-- The outermost open frame. -/
def outermost (a : Assembly) : Frame := (a.current :: a.enclosing).getLast (by simp)

/-- One token continues the outermost frame. -/
theorem outermost_of_step {a b : Assembly} {token : Token} (h : a.step token = .ok b) :
    a.outermost.Continues b.outermost := by
  rcases a with ⟨current, enclosing, n⟩
  rcases step_cases h with ⟨kind, rfl, rfl⟩ | ⟨rfl, outer, rest, henclosing, rfl⟩ |
    ⟨_, _, _, frame, rfl, hframe, _⟩
  · exact Frame.Continues.refl _
  · obtain rfl : enclosing = outer :: rest := henclosing
    cases rest with
    | nil => exact ⟨rfl, rfl, rfl⟩
    | cons next rest => exact Frame.Continues.refl _
  · cases enclosing with
    | nil => exact hframe
    | cons next rest => exact Frame.Continues.refl _

namespace Reads

variable {g : Grammar} {a b : Assembly} {text remaining : List Char}

/-- Reading keeps the groups numbered in the order in which they are opened. -/
theorem opened_eq (h : Reads g a text b remaining) (ha : a.opened = List.range' 1 a.groups) :
    b.opened = List.range' 1 b.groups := by
  induction h with
  | done a text => exact ha
  | token _ hstep _ ih => exact ih (opened_of_step hstep ha)

/-- Reading continues the outermost frame. -/
theorem outermost (h : Reads g a text b remaining) : a.outermost.Continues b.outermost := by
  induction h with
  | done a text => exact Frame.Continues.refl _
  | token _ hstep _ ih => exact (outermost_of_step hstep).trans ih

/-- The scan for group names finds the groups that are opened. -/
theorem declared (h : Reads g a text b remaining) :
    ∃ names, GroupName.declaredFrom false text 0 =
        names ++ GroupName.declaredFrom false remaining 0 ∧
      b.groups = a.groups + names.length := by
  induction h with
  | done a text => exact ⟨[], rfl, rfl⟩
  | @token a b d c rest remaining t extra hread hstep _ ih =>
      rcases ih with ⟨names, hnames, hgroups⟩
      refine ⟨(GroupName.ofToken t).toList ++ names, ?_, ?_⟩
      · rw [GroupName.declaredFrom_readAt hread (ne_fault_of_step hstep), hnames,
          List.append_assoc]
      · have hstep' : b.groups = a.groups + (GroupName.ofToken t).toList.length := by
          rcases step_cases hstep with ⟨kind, rfl, rfl⟩ | ⟨rfl, outer, frames, _, rfl⟩ |
            ⟨hopening, _, _, frame, rfl, _, _⟩
          · cases kind <;> rfl
          · rfl
          · cases t with
            | opening kind => exact absurd rfl (hopening kind)
            | _ => rfl
        rw [List.length_append, hgroups, hstep', Nat.add_assoc]

end Reads

end Assembly

/-! ## Programs -/

namespace Program

/-- The grammar under which a source is read. -/
def grammar (source : String) (flags : Flags) : Grammar :=
  ⟨flags.contains .unicode, GroupName.declared source.toList⟩

/-- A source can be read exactly if no two of its groups have one name and all its tokens can be
taken in, with no parenthesis left open. -/
theorem read_eq_ok_iff {source : String} {flags : Flags} {p : Program} :
    read source flags = .ok p ↔
      p.groups = GroupName.declared source.toList ∧ (p.groups.filterMap id).Nodup ∧
        ∃ b, Assembly.Reads (grammar source flags) (Assembly.start (Modes.ofFlags flags))
            source.toList b [] ∧
          b.enclosing = [] ∧ p.pattern = b.current.body := by
  have hreads : ∀ b, Assembly.Reads (grammar source flags)
      (Assembly.start (Modes.ofFlags flags)) source.toList b [] ↔
        (Token.ofSource ⟨(Modes.ofFlags flags).unicode, GroupName.declared source.toList⟩
          source.toList).foldlM Assembly.step (Assembly.start (Modes.ofFlags flags)) = .ok b :=
    fun b => Assembly.reads_iff
  simp only [hreads, read, Pattern.ofTokens?]
  by_cases hnodup : ((GroupName.declared source.toList).filterMap id).Nodup
  · rw [if_neg (not_not.2 hnodup)]
    generalize List.foldlM Assembly.step (Assembly.start (Modes.ofFlags flags)) _ = folded
    cases folded with
    | error e => simp [bind, Except.bind]
    | ok b =>
        rcases b with ⟨current, enclosing, n⟩
        cases enclosing with
        | nil =>
            constructor
            · intro h
              obtain rfl := Except.ok.inj h
              exact ⟨rfl, hnodup, _, rfl, rfl, rfl⟩
            · rintro ⟨hgroups, _, b, hb, _, hpattern⟩
              obtain rfl := Except.ok.inj hb
              rcases p with ⟨pattern, groups⟩
              obtain rfl : groups = _ := hgroups
              obtain rfl : pattern = _ := hpattern
              rfl
        | cons outer rest =>
            constructor
            · intro h
              cases h
            · rintro ⟨_, _, b, hb, henclosing, _⟩
              obtain rfl := Except.ok.inj hb
              cases henclosing
  · rw [if_pos hnodup]
    constructor
    · intro h
      cases h
    · rintro ⟨hgroups, hp, _⟩
      rw [hgroups] at hp
      exact absurd hp hnodup

/-- A source in which two groups have one name is refused. -/
theorem read_of_not_nodup {source : String} {flags : Flags}
    (h : ¬ ((GroupName.declared source.toList).filterMap id).Nodup) :
    read source flags = .error .duplicateGroupName := by
  simp only [read, if_pos h]
  rfl

/-- The pattern of a program has the groups of the program, numbered in order. -/
theorem groups_pattern {source : String} {flags : Flags} {p : Program}
    (h : read source flags = .ok p) : p.pattern.groups = List.range' 1 p.groups.length := by
  rcases read_eq_ok_iff.1 h with ⟨hgroups, _, b, hreads, henclosing, hpattern⟩
  have hopened := hreads.opened_eq (by rfl)
  have houtermost := hreads.outermost
  rcases hreads.declared with ⟨names, hnames, hcount⟩
  rcases b with ⟨current, enclosing, n⟩
  obtain rfl : enclosing = [] := henclosing
  have hkind : current.kind = .plain := houtermost.1
  have hn : n = p.groups.length := by
    rw [hgroups, GroupName.declared, hnames]
    simpa [GroupName.declaredFrom, Assembly.start] using hcount
  have hbody : Assembly.opened ⟨current, [], n⟩ = current.body.groups := by
    simp [Assembly.opened, Frame.opened, Frame.own, hkind]
  rw [hpattern, ← hbody, hopened, hn]

end Program

/-- A regular expression has been read from its source, and its names found there. -/
theorem Regex.of_compile {source : String} {flags : Flags} {r : Regex}
    (h : Regex.compile source flags = .ok r) :
    Program.read source flags = .ok r.program ∧
      r.groupNames = SpelledName.ofSource source ∧ r.flags = flags := by
  unfold Regex.compile at h
  split at h
  · next program hread =>
      obtain rfl := Except.ok.inj h
      exact ⟨hread, rfl, rfl⟩
  · cases h

/-- What has been compiled keeps its source and its flags. -/
theorem Regex.eq_of_compile {source : String} {flags : Flags} {r : Regex}
    (h : Regex.compile source flags = .ok r) : r.source = source ∧ r.flags = flags := by
  unfold Regex.compile at h
  split at h
  · obtain rfl := Except.ok.inj h
    exact ⟨rfl, rfl⟩
  · cases h

end RegexComposition

import RegexComposition.Proofs.Pattern.Lookahead
import RegexComposition.Proofs.Pattern.Reading

/-!
# Texts in context

A source is put together from texts that can be read wherever they stand.  Such a text adds
something to the innermost open frame and leaves the frames around it alone.

Main results:

- `ReadsIn`: a text that can be read in every context of one grammar.
- `Fits`: a text that can be read in every context.
- `Fits.append`, `Fits.enclosed`, `Fits.quantified`, `Fits.branch`: texts that fit can be put one
  behind the other, enclosed in a group, repeated and made an alternative.
- `Fits.compile`: a text that fits is the source of a regular expression.
-/

namespace RegexComposition

open Assembly

/-- A text with `n` capturing groups that can be read in the grammar wherever the modes are the
given ones and something follows at which every reader stops.  What it does to the innermost frame
is described by `R`. -/
def ReadsIn (g : Grammar) (modes : Modes) (n : Nat) (R : Frame → Frame → Prop)
    (text : List Char) : Prop :=
  ∀ (a : Assembly) (after : List Char), a.current.modes = modes → Stops after →
    ∃ frame, Reads g a (text ++ after) ⟨frame, a.enclosing, a.groups + n⟩ after ∧
      a.current.Continues frame ∧ R a.current frame

/-- A text with `n` capturing groups, all without a name, that can be read wherever the modes are
the given ones and something follows at which every reader stops.  What it does to the innermost
frame is described by `R`. -/
structure Fits (modes : Modes) (n : Nat) (R : Frame → Frame → Prop) (text : List Char) : Prop where
  head : text.head? ≠ some '?'
  declared : ∀ after, Stops after → GroupName.declaredFrom false (text ++ after) 0 =
    List.replicate n none ++ GroupName.declaredFrom false after 0
  reads : ∀ (g : Grammar) (a : Assembly) (after : List Char), g.unicode = modes.unicode →
    g.hasGroupNames = false → n ≤ g.groups.length → a.current.modes = modes → Stops after →
      ∃ frame, Reads g a (text ++ after) ⟨frame, a.enclosing, a.groups + n⟩ after ∧
        a.current.Continues frame ∧ R a.current frame

namespace Assembly.Reads

variable {g : Grammar} {a b d : Assembly}

/-- The first token of a text is taken in. -/
theorem cons {c : Char} {spelled rest remaining : List Char} {token : Token}
    (hread : Token.readAt g c (spelled ++ rest) = (token, spelled.length))
    (hstep : a.step token = .ok b) (h : Reads g b rest d remaining) :
    Reads g a (c :: (spelled ++ rest)) d remaining := by
  refine Reads.token hread hstep ?_
  rw [List.drop_left]
  exact h

/-- A token that is one character is taken in. -/
theorem single {c : Char} {rest remaining : List Char} {token : Token}
    (hread : Token.readAt g c rest = (token, 0)) (hstep : a.step token = .ok b)
    (h : Reads g b rest d remaining) : Reads g a (c :: rest) d remaining :=
  Reads.token hread hstep h

/-- A closing parenthesis is taken in. -/
theorem closing {outer : Frame} {enclosing : List Frame} (ha : a.enclosing = outer :: enclosing)
    (after : List Char) :
    Reads g a (')' :: after)
      ⟨outer.push a.current.close a.current.closeFollows, enclosing, a.groups⟩ after := by
  have hstep : a.step .closing =
      .ok ⟨outer.push a.current.close a.current.closeFollows, enclosing, a.groups⟩ := by
    rw [Assembly.step, closeGroup, ha]
  exact single rfl hstep (Reads.done _ _)

end Assembly.Reads

/-- In front of a text that stops every reader, another one that does so stops them as well. -/
theorem Stops.append {r after : List Char} (h : Stops r) (hs : Stops after) :
    Stops (r ++ after) := by
  cases r with
  | nil => exact hs
  | cons c r => exact h

namespace ReadsIn

variable {g : Grammar} {modes : Modes} {n m : Nat} {R R' R'' : Frame → Frame → Prop}
variable {text l r : List Char}

/-- What a text does can be described more loosely. -/
theorem mono (h : ReadsIn g modes n R text) (hR : ∀ f f', R f f' → R' f f') :
    ReadsIn g modes n R' text := by
  intro a after hm hs
  rcases h a after hm hs with ⟨frame, hreads, hframe, hrel⟩
  exact ⟨frame, hreads, hframe, hR _ _ hrel⟩

/-- The empty text does nothing. -/
theorem nil (hR : ∀ f, R f f) : ReadsIn g modes 0 R [] :=
  fun a after _ _ => ⟨a.current, Reads.done a after, Frame.Continues.refl _, hR _⟩

/-- Two texts can be read one after the other if the second one stops the readers of the first. -/
theorem append (hl : ReadsIn g modes n R l) (hr : ReadsIn g modes m R' r) (hstops : Stops r)
    (hR : ∀ f f' f'', R f f' → R' f' f'' → R'' f f'') : ReadsIn g modes (n + m) R'' (l ++ r) := by
  intro a after hm hs
  rcases hl a (r ++ after) hm (hstops.append hs) with ⟨frame, hreads, hframe, hrel⟩
  have hmodes : frame.modes = modes := hframe.2.2.trans hm
  rcases hr ⟨frame, a.enclosing, a.groups + n⟩ after hmodes hs with
    ⟨frame', hreads', hframe', hrel'⟩
  refine ⟨frame', ?_, hframe.trans hframe', hR _ _ _ hrel hrel'⟩
  rw [List.append_assoc, ← Nat.add_assoc]
  exact hreads.trans hreads'

end ReadsIn

namespace Fits

variable {modes : Modes} {n m : Nat} {R R' R'' : Frame → Frame → Prop} {text l r : List Char}

/-- A text that fits can be read in every grammar that has its groups. -/
theorem readsIn {g : Grammar} (h : Fits modes n R text) (hu : g.unicode = modes.unicode)
    (hn : g.hasGroupNames = false) (hc : n ≤ g.groups.length) : ReadsIn g modes n R text :=
  fun a after hm hs => h.reads g a after hu hn hc hm hs

/-- A text that fits declares its groups. -/
theorem declared_eq (h : Fits modes n R text) :
    GroupName.declared text = List.replicate n none := by
  have hnil := h.declared [] Stops.nil
  rwa [List.append_nil, GroupName.declaredFrom, List.append_nil] at hnil

/-- What a text does can be described more loosely. -/
theorem mono (h : Fits modes n R text) (hR : ∀ f f', R f f' → R' f f') :
    Fits modes n R' text := by
  refine ⟨h.head, h.declared, fun g a after hu hn hc hm hs => ?_⟩
  rcases h.reads g a after hu hn hc hm hs with ⟨frame, hreads, hframe, hrel⟩
  exact ⟨frame, hreads, hframe, hR _ _ hrel⟩

/-- The empty text fits everywhere and does nothing. -/
theorem nil (hR : ∀ f, R f f) : Fits modes 0 R [] := by
  refine ⟨by simp, fun after _ => rfl, fun g a after _ _ _ hm hs => ?_⟩
  exact ReadsIn.nil hR a after hm hs

/-- Two texts can stand one behind the other if the second one stops the readers of the first. -/
theorem append (hl : Fits modes n R l) (hr : Fits modes m R' r) (hstops : Stops r)
    (hR : ∀ f f' f'', R f f' → R' f' f'' → R'' f f'') : Fits modes (n + m) R'' (l ++ r) := by
  refine ⟨?_, ?_, ?_⟩
  · cases l with
    | nil => exact hr.head
    | cons c l => exact hl.head
  · intro after hs
    rw [List.append_assoc, hl.declared _ (hstops.append hs), hr.declared _ hs, ← List.append_assoc,
      List.replicate_append_replicate]
  · intro g a after hu hn hc hm hs
    have hleft := hl.readsIn hu hn (by omega)
    have hright := hr.readsIn hu hn (by omega)
    exact hleft.append hright hstops hR a after hm hs

end Fits

/-! ## Groups -/

/-- The capturing groups that a group of this kind is, with their names: one or none. -/
def GroupKind.names (kind : GroupKind) : List (Option String) :=
  (GroupName.ofToken (.opening kind)).toList

/-- The opening counts its group. -/
theorem Assembly.groups_openGroup (a : Assembly) (kind : GroupKind) :
    (a.openGroup kind).groups = a.groups + kind.names.length := by
  cases kind <;> rfl

/-- A text that stands behind a parenthesis to open a group in which the modes stay the same. -/
structure Opens (kind : GroupKind) (mark : List Char) : Prop where
  reads : ∀ rest : List Char, rest.head? ≠ some '?' →
    Token.readOpening (mark ++ rest) = (.opening kind, mark.length)
  modes : ∀ modes : Modes, modes.inside kind = modes

/-- A text that stands behind a parenthesis to open a group, which is one of `k` capturing groups
without a name. -/
structure OpensWith (kind : GroupKind) (mark : List Char) (k : Nat) : Prop where
  reads : ∀ rest : List Char, rest.head? ≠ some '?' →
    Token.readOpening (mark ++ rest) = (.opening kind, mark.length)
  modes : ∀ modes : Modes, modes.inside kind = modes
  groups : (GroupName.ofToken (.opening kind)).toList = List.replicate k none

namespace OpensWith

theorem capturing : OpensWith (.capturing none) [] 1 :=
  ⟨fun _ h => Token.readOpening_of_head?_ne h, fun _ => rfl, rfl⟩

theorem plain : OpensWith .plain ['?', ':'] 0 :=
  ⟨fun _ _ => rfl, fun _ => rfl, rfl⟩

theorem lookahead : OpensWith (.look .forward false) ['?', '='] 0 :=
  ⟨fun _ _ => rfl, fun _ => rfl, rfl⟩

theorem lookbehind : OpensWith (.look .backward false) ['?', '<', '='] 0 :=
  ⟨fun _ _ => rfl, fun _ => rfl, rfl⟩

variable {kind : GroupKind} {mark : List Char} {k : Nat}

theorem opens (h : OpensWith kind mark k) : Opens kind mark := ⟨h.reads, h.modes⟩

theorem length_names (h : OpensWith kind mark k) : kind.names.length = k := by
  rw [GroupKind.names, h.groups, List.length_replicate]

end OpensWith

/-- What a group does to the frame around it: the closed frame becomes a term. -/
def Encloses (modes : Modes) (kind : GroupKind) (R : Frame → Frame → Prop) (f f' : Frame) : Prop :=
  ∃ index inner, R (Frame.start kind index modes) inner ∧
    (Frame.start kind index modes).Continues inner ∧ f' = f.push inner.close inner.closeFollows

/-- A closing parenthesis stops every reader. -/
theorem stops_closing (after : List Char) : Stops (')' :: after) := by simp [Stops]

/-- A text in parentheses does not start with a question mark. -/
theorem head?_closed_ne {text : List Char} (h : text.head? ≠ some '?') (after : List Char) :
    (text ++ ')' :: after).head? ≠ some '?' := by
  cases text with
  | nil => simp
  | cons c text => exact h

section Enclosed

variable {modes : Modes} {n k : Nat} {R : Frame → Frame → Prop} {text : List Char}
variable {kind : GroupKind} {mark : List Char}

/-- A group can be read in front of any text. -/
theorem ReadsIn.closed {g : Grammar} {a : Assembly} (h : ReadsIn g modes n R text)
    (hhead : text.head? ≠ some '?') (ho : Opens kind mark) (hm : a.current.modes = modes)
    (after : List Char) :
    ∃ frame, Reads g a ('(' :: (mark ++ (text ++ ')' :: after)))
        ⟨frame, a.enclosing, a.groups + (kind.names.length + n)⟩ after ∧
      a.current.Continues frame ∧ Encloses modes kind R a.current frame := by
  have hopened : (a.openGroup kind).current =
      Frame.start kind (a.openGroup kind).groups modes := by
    simp [openGroup, hm, ho.modes]
  have hmodes : (a.openGroup kind).current.modes = modes := by
    rw [hopened]
    rfl
  rcases h (a.openGroup kind) (')' :: after) hmodes (stops_closing after) with
    ⟨inner, hreads, hinner, hrel⟩
  rw [hopened] at hinner hrel
  refine ⟨a.current.push inner.close inner.closeFollows, ?_, ⟨rfl, rfl, rfl⟩,
    _, inner, hrel, hinner, rfl⟩
  have hstep : a.step (.opening kind) = .ok (a.openGroup kind) := rfl
  refine Reads.cons (ho.reads _ (head?_closed_ne hhead after)) hstep (hreads.trans ?_)
  have hclose := Reads.closing (g := g)
    (a := ⟨inner, (a.openGroup kind).enclosing, (a.openGroup kind).groups + n⟩) rfl after
  rw [groups_openGroup, Nat.add_assoc] at hclose
  rw [groups_openGroup, Nat.add_assoc]
  exact hclose

/-- A text can be enclosed in a group. -/
theorem ReadsIn.grouped {g : Grammar} (h : ReadsIn g modes n R text)
    (hhead : text.head? ≠ some '?') (ho : Opens kind mark) :
    ReadsIn g modes (kind.names.length + n) (Encloses modes kind R)
      ('(' :: (mark ++ (text ++ [')']))) := by
  intro a after hm _
  have hassoc : '(' :: (mark ++ (text ++ [')'])) ++ after =
      '(' :: (mark ++ (text ++ ')' :: after)) := by simp
  rw [hassoc]
  exact h.closed hhead ho hm after

/-- A text can be enclosed in a group without a name. -/
theorem ReadsIn.enclosed {g : Grammar} (h : ReadsIn g modes n R text)
    (hhead : text.head? ≠ some '?') (ho : OpensWith kind mark k) :
    ReadsIn g modes (k + n) (Encloses modes kind R) ('(' :: (mark ++ (text ++ [')']))) := by
  rw [← ho.length_names]
  exact h.grouped hhead ho.opens

end Enclosed

namespace Fits

variable {modes : Modes} {n m k : Nat} {R R' R'' : Frame → Frame → Prop} {text l r : List Char}
variable {kind : GroupKind} {mark : List Char}

/-- The scan for names in front of, inside and behind a group. -/
theorem declared_enclosed (h : Fits modes n R text) (ho : OpensWith kind mark k)
    (after : List Char) :
    GroupName.declaredFrom false ('(' :: (mark ++ (text ++ ')' :: after))) 0 =
      List.replicate (k + n) none ++ GroupName.declaredFrom false after 0 := by
  have hopening : Token.readAt ⟨false, []⟩ '(' (mark ++ (text ++ ')' :: after)) =
      (.opening kind, mark.length) := ho.reads _ (head?_closed_ne h.head after)
  rw [GroupName.declaredFrom_readAt hopening (by simp), List.drop_left, ho.groups,
    h.declared _ (stops_closing after), ← List.append_assoc, List.replicate_append_replicate]
  rfl

/-- A text that fits can be enclosed in a group. -/
theorem enclosed (h : Fits modes n R text) (ho : OpensWith kind mark k) :
    Fits modes (k + n) (Encloses modes kind R) ('(' :: (mark ++ (text ++ [')']))) := by
  refine ⟨by simp, fun after _ => ?_, fun g a after hu hn hc hm hs => ?_⟩
  · have hassoc : '(' :: (mark ++ (text ++ [')'])) ++ after =
        '(' :: (mark ++ (text ++ ')' :: after)) := by simp
    rw [hassoc]
    exact h.declared_enclosed ho after
  · exact (h.readsIn hu hn (by omega)).enclosed h.head ho a after hm hs

/-- A text that fits can be enclosed in a group and made an alternative. -/
theorem branch (h : Fits modes n R text) :
    Fits modes (1 + n) (fun f f' => Encloses modes (.capturing none) R f.split f')
      ('|' :: '(' :: (text ++ [')'])) := by
  have hgroup := h.enclosed OpensWith.capturing
  refine ⟨by simp, fun after hs => hgroup.declared after hs, fun g a after hu hn hc hm hs => ?_⟩
  rcases hgroup.reads g { a with current := a.current.split } after hu hn hc hm hs with
    ⟨frame, hreads, hframe, hrel⟩
  exact ⟨frame, Reads.single rfl rfl hreads, hframe, hrel⟩

end Fits

/-! ## Quantifiers -/

/-- A text that is read as a quantifier in front of everything at which readers stop. -/
def ReadsAs (text : List Char) (q : Quantifier) : Prop :=
  ∃ c l braced, text = c :: l ∧ ∀ (g : Grammar) (after : List Char), Stops after →
    Token.readAt g c (l ++ after) = (.quantifier q braced, l.length)

/-- What a repeated group does to the frame around it. -/
def Repeats (modes : Modes) (q : Quantifier) (R : Frame → Frame → Prop) (f f' : Frame) : Prop :=
  ∃ enclosed, Encloses modes (.capturing none) R f enclosed ∧ f' = enclosed.quantify q

/-- The shortest text without a line end. -/
theorem ReadsIn.lazyDots {g : Grammar} {modes : Modes} : ReadsIn g modes 0
    (fun f f' => f' = (f.push (.char (CharSet.dot modes.dotAll)) .allowed).quantify
      ⟨0, none, false⟩) ['.', '*', '?'] := by
  intro a after hm _
  have hstar : Token.readAt g '*' (['?'] ++ after) = (.quantifier ⟨0, none, false⟩ false, 1) := rfl
  refine ⟨_, Reads.single rfl rfl (Reads.cons hstar rfl (Reads.done _ _)), ⟨rfl, rfl, rfl⟩, ?_⟩
  rw [← hm]
  rfl

namespace Fits

variable {modes : Modes} {n : Nat} {R : Frame → Frame → Prop} {text spelled : List Char}
variable {q : Quantifier}

/-- A closed capturing group can be repeated. -/
theorem follows_of_encloses {f f' : Frame} (h : Encloses modes (.capturing none) R f f') :
    f'.follows = .allowed ∧ f'.terms ≠ [] := by
  rcases h with ⟨index, inner, _, hinner, rfl⟩
  refine ⟨?_, by simp [Frame.push]⟩
  have hkind : inner.kind = .capturing none := hinner.1
  simp [Frame.push, Frame.closeFollows, hkind]

/-- A text that fits can be enclosed in a group that is repeated. -/
theorem quantified (h : Fits modes n R text) (hq : ReadsAs spelled q)
    (hpossible : q.isPossible = true) :
    Fits modes (1 + n) (Repeats modes q R) ('(' :: (text ++ ')' :: spelled)) := by
  rcases hq with ⟨c, l, braced, rfl, hread⟩
  have hassoc : ∀ after, '(' :: (text ++ ')' :: c :: l) ++ after =
      '(' :: ([] ++ (text ++ ')' :: (c :: (l ++ after)))) := by simp
  refine ⟨by simp, fun after hs => ?_, fun g a after hu hn hc hm hs => ?_⟩
  · rw [hassoc, h.declared_enclosed OpensWith.capturing,
      GroupName.declaredFrom_readAt (hread ⟨false, []⟩ after hs) (by simp), List.drop_left]
    rfl
  · rcases (h.readsIn hu hn (by omega)).closed h.head OpensWith.capturing.opens hm
      (c :: (l ++ after)) with ⟨frame, hreads, hframe, hrel⟩
    rw [OpensWith.capturing.length_names] at hreads
    rcases follows_of_encloses hrel with ⟨hfollows, hterms⟩
    refine ⟨frame.quantify q, ?_, hframe.trans (frame.continues_quantify q), frame, hrel, rfl⟩
    rw [hassoc]
    refine hreads.trans (Reads.cons (hread g after hs) ?_ (Reads.done _ _))
    simp [Assembly.step, Assembly.quantify, hfollows, hpossible]

/-! ## Single tokens -/

/-- The start anchor. -/
theorem lineStart : Fits modes 0
    (fun f f' => f' = f.push (.assertion (.lineStart modes.multiline)) .forbidden) ['^'] := by
  refine ⟨by simp, fun after _ => rfl, fun g a after _ _ _ hm _ => ?_⟩
  refine ⟨_, Reads.single rfl rfl (Reads.done _ _), ⟨rfl, rfl, rfl⟩, ?_⟩
  rw [← hm]

/-- The end anchor. -/
theorem lineEnd : Fits modes 0
    (fun f f' => f' = f.push (.assertion (.lineEnd modes.multiline)) .forbidden) ['$'] := by
  refine ⟨by simp, fun after _ => rfl, fun g a after _ _ _ hm _ => ?_⟩
  refine ⟨_, Reads.single rfl rfl (Reads.done _ _), ⟨rfl, rfl, rfl⟩, ?_⟩
  rw [← hm]

/-- The shortest text without a line end. -/
theorem lazyDots : Fits modes 0
    (fun f f' => f' = (f.push (.char (CharSet.dot modes.dotAll)) .allowed).quantify
      ⟨0, none, false⟩) ['.', '*', '?'] :=
  ⟨by simp, fun after _ => rfl, fun _ a after _ _ _ hm hs => ReadsIn.lazyDots a after hm hs⟩

end Fits

/-! ## Whole sources -/

/-- A text that is read to its end in the grammar of its groups, of which no two have one name, is the
source of a regular expression. -/
theorem Regex.exists_compile_of_reads {flags : Flags} {text : List Char} {b : Assembly}
    (h : Reads (Program.grammar (String.ofList text) flags) (Assembly.start (Modes.ofFlags flags))
      text b [])
    (hb : b.enclosing = []) (hnodup : ((GroupName.declared text).filterMap id).Nodup) :
    ∃ r, compile (String.ofList text) flags = .ok r ∧
      r.program.groups = GroupName.declared text ∧ r.program.pattern = b.current.body := by
  have hread : Program.read (String.ofList text) flags =
      .ok ⟨b.current.body, GroupName.declared text⟩ := by
    rw [Program.read_eq_ok_iff, String.toList_ofList]
    exact ⟨rfl, hnodup, b, h, hb, rfl⟩
  have hcompile : compile (String.ofList text) flags =
      .ok ⟨String.ofList text, flags, ⟨b.current.body, GroupName.declared text⟩,
        SpelledName.ofSource (String.ofList text)⟩ := by
    rw [compile, hread]
  exact ⟨_, hcompile, rfl, rfl⟩

/-- A text that can be read in the grammar of its groups, of which no two have one name, is the
source of a regular expression. -/
theorem ReadsIn.compile_of_nodup {flags : Flags} {n : Nat} {R : Frame → Frame → Prop}
    {text : List Char}
    (h : ReadsIn (Program.grammar (String.ofList text) flags) (Modes.ofFlags flags) n R text)
    (hnodup : ((GroupName.declared text).filterMap id).Nodup) :
    ∃ r frame, Regex.compile (String.ofList text) flags = .ok r ∧
      r.program.groups = GroupName.declared text ∧ r.program.pattern = frame.body ∧
      R (Frame.start .plain 0 (Modes.ofFlags flags)) frame := by
  rcases h (Assembly.start (Modes.ofFlags flags)) [] rfl Stops.nil with ⟨frame, hreads, _, hrel⟩
  rw [List.append_nil] at hreads
  rcases Regex.exists_compile_of_reads hreads rfl hnodup with ⟨r, hcompile, hgroups, hpattern⟩
  exact ⟨r, frame, hcompile, hgroups, hpattern, hrel⟩

/-- A text that can be read in the grammar of its groups, of which none has a name, is the source of
a regular expression. -/
theorem ReadsIn.compile {flags : Flags} {n : Nat} {R : Frame → Frame → Prop} {text : List Char}
    (h : ReadsIn (Program.grammar (String.ofList text) flags) (Modes.ofFlags flags) n R text)
    (hdeclared : GroupName.declared text = List.replicate n none) :
    ∃ r frame, Regex.compile (String.ofList text) flags = .ok r ∧
      r.program.groups = List.replicate n none ∧ r.program.pattern = frame.body ∧
      R (Frame.start .plain 0 (Modes.ofFlags flags)) frame := by
  rw [← hdeclared]
  exact h.compile_of_nodup (by simp [hdeclared])

/-- The grammar of a source with groups that have no names. -/
theorem Program.grammar_of_declared {flags : Flags} {n : Nat} {text : List Char}
    (h : GroupName.declared text = List.replicate n none) :
    Program.grammar (String.ofList text) flags =
      ⟨flags.contains .unicode, List.replicate n none⟩ := by
  rw [grammar, String.toList_ofList, h]

/-- A text that fits is the source of a regular expression. -/
theorem Fits.compile {flags : Flags} {n : Nat} {R : Frame → Frame → Prop} {text : List Char}
    (h : Fits (Modes.ofFlags flags) n R text) :
    ∃ r frame, Regex.compile (String.ofList text) flags = .ok r ∧
      r.program.groups = List.replicate n none ∧ r.program.pattern = frame.body ∧
      R (Frame.start .plain 0 (Modes.ofFlags flags)) frame := by
  refine ReadsIn.compile ?_ h.declared_eq
  rw [Program.grammar_of_declared h.declared_eq]
  exact h.readsIn rfl (by simp [Grammar.hasGroupNames]) (by simp)

end RegexComposition

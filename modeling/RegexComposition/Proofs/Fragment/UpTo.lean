import RegexComposition.Proofs.Fragment.Denotation
import RegexComposition.Proofs.Pattern.Until

/-!
# The source of a forward reference

A forward reference over literals, and then these literals, are compiled into a lazy repetition in
front of a lookahead.  The pattern of this source matches up to the text of the literals.

Main results:

- `Literal.joined`, `Literal.groupsSource`: the text of several literals, and their sources, each in
  parentheses.
- `Fits.groupsSource`: these match the text and nothing else.
- `Pattern.exists_upTo_of_compile`: what the pattern of the source is.
-/

namespace RegexComposition

/-! ## Several literals -/

/-- The characters of a word one after the other match it. -/
theorem Pattern.isWord_literalTerm (w : List Char) :
    (Pattern.sequence (w.map literalTerm)).IsWord w := by
  induction w with
  | nil => exact isWord_empty
  | cons c w ih =>
      refine (isWord_char fun d => ?_).seq ih
      rw [CharSet.contains_single_exact, Char.toNat_inj]

namespace Literal

/-- The text that several literals match one after the other. -/
def joined (ls : List Literal) : List Char := ls.flatMap fun l => unpaired l.plainText.toList

/-- The sources of several literals, each in parentheses. -/
def groupsSource (ls : List Literal) : List Char :=
  ls.flatMap fun l => '(' :: (l.source.toList ++ [')'])

end Literal

variable {modes : Modes} {ls : List Literal} {n : Nat} {w source : List Char}

/-- The terms match the word and nothing else. -/
abbrev Frame.GainsWord (w : List Char) : Frame → Frame → Prop :=
  Frame.Gains fun ps => (Pattern.sequence ps).IsWord w

namespace Fits

/-- A literal in parentheses matches its text. -/
theorem literalGroup (hunicode : modes.unicode = false) (hcase : modes.ignoreCase = false)
    (l : Literal) : Fits modes (1 + 0) (Frame.GainsWord (unpaired l.plainText.toList))
      ('(' :: (l.source.toList ++ [')'])) := by
  have hsource : l.source.toList = escapeChars l.plainText.toList := String.toList_ofList
  have hliteral := Fits.literal hunicode hcase (escapes_escapeChars l.plainText.toList)
  rw [hsource]
  refine (hliteral.enclosed OpensWith.capturing).mono fun f f' hencloses => ?_
  refine Frame.Gains.enclosed hencloses ?_
  rintro i _ rfl
  exact ((Pattern.isWord_literalTerm _).group i).singleton

/-- The sources of literals in parentheses match their text. -/
theorem groupsSource (hunicode : modes.unicode = false) (hcase : modes.ignoreCase = false)
    (ls : List Literal) : ∃ n, Fits modes n (Frame.GainsWord (Literal.joined ls))
      (Literal.groupsSource ls) := by
  induction ls with
  | nil => exact ⟨0, Fits.nil fun f => Frame.Gains.refl Pattern.isWord_empty f⟩
  | cons l ls ih =>
      rcases ih with ⟨n, hrest⟩
      have hstops : Stops (Literal.groupsSource ls) := by
        cases ls with
        | nil => exact Stops.nil
        | cons l' ls => simp [Literal.groupsSource, Stops]
      exact ⟨_, (literalGroup hunicode hcase l).append hrest hstops fun f f' f'' h h' =>
        h.trans h' fun ps qs => Pattern.isWord_sequence_append⟩

/-! ## The source -/

/-- The text in front of what a source matches, as a group. -/
theorem upToGroup (hdotAll : modes.dotAll = false) (h : Fits modes n (Frame.GainsWord w) source) :
    Fits modes (1 + (0 + (0 + n))) (Frame.Gains fun ps => ∃ i ahead, ahead.IsWord w ∧
        ps = [.group i (Pattern.sequence [.repeated ⟨0, none, false⟩ (.char (CharSet.dot false)),
          .look .forward false ahead])])
      ('(' :: (['.', '*', '?'] ++ '(' :: (['?', '='] ++ (source ++ [')'])) ++ [')'])) := by
  have hinside : Fits modes (0 + (0 + n)) (Frame.Gains fun ps => ∃ ahead, ahead.IsWord w ∧
      ps = [.repeated ⟨0, none, false⟩ (.char (CharSet.dot false)), .look .forward false ahead])
      (['.', '*', '?'] ++ '(' :: (['?', '='] ++ (source ++ [')']))) := by
    refine Fits.lazyDots.append (h.enclosed OpensWith.lookahead) (by simp [Stops]) ?_
    rintro f _ f'' rfl hlook
    have hdots : f.Gains (· = [.repeated ⟨0, none, false⟩ (.char (CharSet.dot false))])
        ((f.push (.char (CharSet.dot modes.dotAll)) .allowed).quantify ⟨0, none, false⟩) := by
      rw [hdotAll]
      exact ⟨rfl, [_], rfl, rfl⟩
    have hgains : Frame.Gains (fun ps => ∃ ahead, ahead.IsWord w ∧
        ps = [.look .forward false ahead]) _ f'' :=
      Frame.Gains.enclosed hlook fun i ps hps => ⟨_, hps, rfl⟩
    refine hdots.trans hgains ?_
    rintro _ _ rfl ⟨ahead, hahead, rfl⟩
    exact ⟨ahead, hahead, rfl⟩
  refine (hinside.enclosed OpensWith.capturing).mono fun f f' hencloses => ?_
  refine Frame.Gains.enclosed hencloses ?_
  rintro i _ ⟨ahead, hahead, rfl⟩
  exact ⟨i, ahead, hahead, rfl⟩

end Fits

/-- The source of a forward reference in front of what it refers to. -/
def upToSource (source : List Char) : List Char :=
  '(' :: (['.', '*', '?'] ++ '(' :: (['?', '='] ++ (source ++ [')'])) ++ [')']) ++ source

/-- The pattern of this source matches up to a word and over it. -/
theorem Pattern.exists_upTo_of_compile {flags : Flags}
    (h : Fits (Modes.ofFlags flags) n (Frame.GainsWord w) source) (hstops : Stops source)
    (hdotAll : (Modes.ofFlags flags).dotAll = false) :
    ∃ r ahead rest, Regex.compile (String.ofList (upToSource source)) flags = .ok r ∧
      r.program.pattern = Pattern.upTo 1 ahead rest ∧ ahead.IsWord w ∧ rest.IsWord w ∧
      1 ∉ rest.groups ∧ ∃ m, r.program.groups = List.replicate (m + 1) none := by
  have hfits : Fits (Modes.ofFlags flags) (1 + (0 + (0 + n)) + n)
      (Frame.Gains fun ps => ∃ i ahead qs, ahead.IsWord w ∧ (sequence qs).IsWord w ∧
        sequence ps = upTo i ahead (sequence qs)) (upToSource source) := by
    refine (Fits.upToGroup hdotAll h).append h hstops fun f f' f'' hgroup hrest => ?_
    refine hgroup.trans hrest ?_
    rintro _ qs ⟨i, ahead, hahead, rfl⟩ hqs
    exact ⟨i, ahead, qs, hahead, hqs, rfl⟩
  rcases hfits.compile with ⟨r, frame, hcompile, hcount, hpattern, hrel⟩
  rcases hrel.body with ⟨ps, ⟨i, ahead, qs, hahead, hqs, hps⟩, hbody⟩
  rw [hbody, hps] at hpattern
  have hsucc : 1 + (0 + (0 + n)) + n = 0 + (0 + n) + n + 1 := by omega
  rw [hsucc] at hcount
  -- The groups are numbered in order, so the one in front is the first.
  have hgroups := Program.groups_pattern (Regex.of_compile hcompile).1
  rw [hpattern, hcount, List.length_replicate, List.range'_succ] at hgroups
  simp only [upTo, groups, List.cons_append, List.cons.injEq] at hgroups
  obtain ⟨rfl, hrest⟩ := hgroups
  refine ⟨r, ahead, sequence qs, hcompile, hpattern, hahead, hqs, fun hmem => ?_, _, hcount⟩
  have hone : 1 ∈ List.range' (1 + 1) ((0 + (0 + n)) + n) := by
    rw [← hrest]
    exact List.mem_append_right _ hmem
  rw [List.mem_range'] at hone
  omega

end RegexComposition

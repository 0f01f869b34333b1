import RegexComposition.Proofs.Pattern.EndAnchor

/-!
# Texts whose parentheses match

In a text whose parentheses match, a scan for the end of a group ends where it started.  Such texts,
if they start with a parenthesis, can be told apart inside of a source that is read, and each of
them is read wherever the modes are the same.

Main results:

- `Enclosure.Pairs`: the parentheses of a text match.
- `Enclosure.Pairs.closingFrom_append`: a scan passes over such a text.
- `Assembly.Reads.exists_boundary`: where one text ends, reading can be interrupted.
- `Enclosure.Pairs.of_compile`: the parentheses of an accepted source match.
- `ReadsIn.of_reads_group`: a text that starts with a parenthesis is read elsewhere.
-/

namespace RegexComposition

open Assembly

/-! ## Scans -/

namespace Enclosure

/-- Every parenthesis of the text is matched by another one of it: behind an open parenthesis, the
first one that closes it stands behind the text. -/
def Pairs (text : List Char) : Prop :=
  closingFrom 1 false false (text ++ [')']) = some text.length

instance (text : List Char) : Decidable (Pairs text) :=
  inferInstanceAs (Decidable (closingFrom 1 false false (text ++ [')']) = some text.length))

/-- What a scan does up to a closing parenthesis it does inside of further groups, and goes on. -/
theorem closingFrom_deeper {level : Nat} {escaped inClass : Bool} {text : List Char}
    (h : closingFrom (level + 1) escaped inClass (text ++ [')']) = some text.length)
    (deeper : Nat) (after : List Char) :
    closingFrom (level + 1 + deeper) escaped inClass (text ++ after) =
      (closingFrom (1 + deeper) false false after).map (· + text.length) := by
  induction text generalizing level escaped inClass with
  | nil =>
      rw [List.nil_append, closingFrom] at h
      simp only [closingFrom, Option.map_none] at h
      split_ifs at h with _ _ _ _ _ hclosing hlevel
      obtain rfl : level = 0 := by omega
      simp_all
  | cons c text ih =>
      -- However the scan goes on behind a character, it does so at levels that differ by the same.
      have next : ∀ {n n' : Nat} {escaped inClass : Bool}, 0 < n → n' = n + deeper →
          (closingFrom n escaped inClass (text ++ [')'])).map (· + 1) = some (c :: text).length →
            (closingFrom n' escaped inClass (text ++ after)).map (· + 1) =
              (closingFrom (1 + deeper) false false after).map (· + (c :: text).length) := by
        intro n n' escaped inClass hn hn' hnext
        obtain ⟨m, rfl⟩ := Nat.exists_eq_succ_of_ne_zero (Nat.ne_of_gt hn)
        rcases Option.map_eq_some_iff.1 hnext with ⟨i, hi, hlength⟩
        obtain rfl : i = text.length := Nat.succ.inj hlength
        rw [hn', ih hi, Option.map_map]
        rfl
      rw [List.cons_append, closingFrom] at h
      rw [List.cons_append, closingFrom]
      dsimp only at h ⊢
      split_ifs at h ⊢ with hescaped hbackslash hopen hclose hopening hclosing hshallow hlevel
      · exact next (Nat.succ_pos _) rfl h
      · exact next (Nat.succ_pos _) rfl h
      · exact next (Nat.succ_pos _) rfl h
      · exact next (Nat.succ_pos _) rfl h
      · exact next (Nat.succ_pos _) (Nat.add_right_comm _ _ _) h
      · cases h
      · exact absurd hshallow (by omega)
      · cases h
      · exact next (by omega) (by omega) h
      · exact next (Nat.succ_pos _) rfl h

namespace Pairs

variable {text l r : List Char} {level : Nat}

/-- A scan passes over a text whose parentheses match. -/
theorem closingFrom_append (h : Pairs text) (hlevel : 0 < level) (after : List Char) :
    closingFrom level false false (text ++ after) =
      (closingFrom level false false after).map (· + text.length) := by
  obtain ⟨deeper, rfl⟩ := Nat.exists_eq_add_of_le (Nat.succ_le_of_lt hlevel)
  have hdeeper := @closingFrom_deeper 0 _ _ _ h deeper after
  rwa [Nat.zero_add] at hdeeper

theorem nil : Pairs [] := rfl

/-- The parentheses of two texts match one after the other. -/
theorem append (hl : Pairs l) (hr : Pairs r) : Pairs (l ++ r) := by
  rw [Pairs, List.append_assoc, hl.closingFrom_append Nat.one_pos, hr, List.length_append,
    Option.map_some, Nat.add_comm]

/-- A text without parentheses and without classes. -/
theorem of_neutral (h : NeutralText text) : Pairs text := by
  rw [Pairs, closingFrom_neutral 1 h]
  simp [closingFrom]

/-- A text in parentheses, behind a mark that opens a group. -/
theorem group {mark : List Char} (hmark : NeutralText mark) (h : Pairs text) :
    Pairs ('(' :: (mark ++ (text ++ [')']))) := by
  have hinside : closingFrom 2 false false (mark ++ (text ++ [')']) ++ [')']) =
      some (mark ++ (text ++ [')'])).length := by
    have hclosings : closingFrom 2 false false [')', ')'] = some 1 := rfl
    rw [List.append_assoc, List.append_assoc, closingFrom_neutral 2 hmark,
      h.closingFrom_append (by omega), List.singleton_append, hclosings]
    simp [Nat.add_comm]
  have hopening : closingFrom 1 false false ('(' :: (mark ++ (text ++ [')'])) ++ [')']) =
      (closingFrom 2 false false (mark ++ (text ++ [')']) ++ [')'])).map (· + 1) := rfl
  rw [Pairs, hopening, hinside]
  rfl

/-- The parentheses of a text that can be read match. -/
theorem of_reads {g : Grammar} {a b : Assembly} (h : Reads g a text b [])
    (ha : a.enclosing = []) (hb : b.enclosing = []) : Pairs text :=
  closingFrom_of_closed h ha hb

/-- The parentheses of an accepted source match. -/
theorem of_compile {source : String} {flags : Flags} {r : Regex}
    (h : Regex.compile source flags = .ok r) : Pairs source.toList := by
  rcases Program.read_eq_ok_iff.1 (Regex.of_compile h).1 with ⟨-, -, b, hreads, hb, -⟩
  exact of_reads hreads rfl hb

end Pairs

end Enclosure

/-! ## Boundaries -/

/-- An opening parenthesis stops every reader. -/
theorem stops_opening (after : List Char) : Stops ('(' :: after) := by simp [Stops]

namespace Assembly.Reads

variable {g : Grammar} {a b : Assembly} {l r : List Char}

/-- A text whose parentheses match is read up to the parenthesis behind it, where the reading can be
interrupted. -/
theorem exists_boundary (h : Reads g a (l ++ '(' :: r) b []) (ha : a.enclosing = [])
    (hl : Enclosure.Pairs l) :
    ∃ frame count, a.current.Continues frame ∧ Reads g a l ⟨frame, [], count⟩ [] ∧
      Reads g ⟨frame, [], count⟩ ('(' :: r) b [] := by
  have hlift : Reads g (a.lift []) (l ++ '(' :: r) b [] := by
    rw [Assembly.lift, List.append_nil]
    exact h
  have hscan : Enclosure.closingFrom (a.enclosing.length + 1) false false (l ++ [')']) =
      some l.length := by
    rw [ha]
    exact hl
  rcases exists_reads_of_closed hlift (by simp) hscan with
    ⟨frame, count, hframe, hreads⟩
  have houtermost : a.outermost = a.current := by simp [Assembly.outermost, ha]
  exact ⟨frame, count, houtermost ▸ hframe, hreads.truncate (stops_opening _),
    hreads.cancel h (Nat.zero_le _)⟩

end Assembly.Reads

/-! ## Reading elsewhere -/

section

variable {g g' : Grammar} {a b : Assembly} {modes : Modes} {n m : Nat} {text l r : List Char}
variable {R R' : Frame → Frame → Prop}

/-- A text that starts with a parenthesis is read wherever the modes are the same, whatever stands
in front of it. -/
theorem ReadsIn.of_reads_group (hg : g.Supports g') (h : Reads g a ('(' :: text) b [])
    (ha : a.enclosing = []) (hb : b.enclosing = []) (hgroups : b.groups = a.groups + n) :
    ReadsIn g' a.current.modes n (fun _ _ => True) ('(' :: text) := by
  intro a' after hm hs
  cases h with
  | @token _ d _ _ _ _ token extra hread hstep hrest =>
      have ht := ne_fault_of_step hstep
      rcases Token.spelling_readAt hread ht with ⟨hextra, -⟩
      have hread' : Token.readAt g' '(' (text ++ after) = (token, extra) :=
        Token.readOpening_append hs hread ht
      rcases Token.eq_opening_of_readOpening hread ht with ⟨kind, rfl⟩
      obtain rfl := Except.ok.inj hstep
      have hmirrors : Mirrors a'.current a'.enclosing a.frames a'.frames := by
        rw [frames, ha]
        exact Mirrors.bottom hm (Frame.Continues.refl _)
      rcases InStep.of_reads hg hs Stops.nil hrest (InStep.opening hmirrors hm kind) with
        ⟨b', hreads, hin, hsum⟩
      rcases hin.exists_frame hb with ⟨frame, hb', hframe⟩
      have hopened := groups_openGroup_add a a' kind
      have hcount : b'.groups = a'.groups + n := by omega
      rw [hb', hcount] at hreads
      refine ⟨frame, ?_, hframe, trivial⟩
      rw [List.cons_append]
      refine Reads.token hread' rfl ?_
      rw [List.drop_append_of_le_length hextra]
      exact hreads

/-- What can be read in a grammar can be read in every grammar that supports it. -/
theorem ReadsIn.of_supports (hg : g.Supports g') (h : ReadsIn g modes n R text) :
    ReadsIn g' modes n (fun _ _ => True) text := by
  rcases h (Assembly.start modes) [] rfl Stops.nil with ⟨frame, hreads, -⟩
  rw [List.append_nil] at hreads
  exact ReadsIn.of_reads hg hreads rfl rfl rfl rfl

/-- Such a text has some number of groups. -/
theorem ReadsIn.exists_of_reads_group (h : Reads g a ('(' :: text) b []) (ha : a.enclosing = [])
    (hb : b.enclosing = []) :
    ∃ n, ReadsIn g a.current.modes n (fun _ _ => True) ('(' :: text) := by
  rcases h.declared with ⟨names, -, hcount⟩
  exact ⟨names.length, ReadsIn.of_reads_group (Grammar.Supports.refl g) h ha hb hcount⟩

/-- The groups of a text in front of another one. -/
theorem ReadsIn.declared_append (h : ReadsIn g modes n R l) (hs : Stops r) :
    GroupName.declared (l ++ r) = GroupName.declared l ++ GroupName.declared r := by
  rcases h (Assembly.start modes) [] rfl Stops.nil with ⟨frame, hreads, -⟩
  rw [List.append_nil] at hreads
  exact Fits.declared_of_reads hreads hs

/-- The groups of a text in a group. -/
theorem ReadsIn.declared_enclosed {kind : GroupKind} {mark : List Char} {k : Nat}
    (h : ReadsIn g modes n R text) (hhead : text.head? ≠ some '?') (ho : OpensWith kind mark k) :
    GroupName.declared ('(' :: (mark ++ (text ++ [')']))) =
      List.replicate k none ++ GroupName.declared text := by
  rcases h (Assembly.start modes) [] rfl Stops.nil with ⟨frame, hreads, -⟩
  rw [List.append_nil] at hreads
  exact Fits.declared_enclosed_of_reads hreads hhead ho

end

end RegexComposition

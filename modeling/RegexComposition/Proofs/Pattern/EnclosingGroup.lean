import RegexComposition.Proofs.Pattern.Stripping

/-!
# Sources that are one group

The scan for the closing parenthesis knows only of escapes, classes and parentheses.  Still it finds
the parenthesis that the grammar finds, so that an accepted source is stripped exactly if the
grammar reads it as one group.

Main results:

- `IsOneGroup`: the grammar reads the source as one group.
- `Assembly.Reads.exists_of_foldlM`: tokens are read off the text that they come from.
- `Enclosure.exists_stripChars_eq`: what is one group is stripped of its parentheses.
- `Assembly.Reads.exists_inside_tokens`: what is stripped is one group.
- `Regex.strip_isOneGroup`: a source is stripped exactly if it is one group.
-/

namespace RegexComposition

open Assembly

/-- The grammar reads the source as one group of any kind: behind the mark that opens the group
stands a pattern of its own, and behind that nothing but the parenthesis that closes the group. -/
def IsOneGroup (source : String) (flags : Flags) : Prop :=
  ∃ kind inside p,
    Token.ofSource (Program.grammar source flags) source.toList =
      .opening kind :: (inside ++ [.closing]) ∧
    Pattern.ofTokens? ((Modes.ofFlags flags).inside kind) inside = .ok p

/-- Whether tokens are one group. -/
def Token.isOneGroup (modes : Modes) : List Token → Bool
  | .opening kind :: rest =>
    rest.getLast? == some .closing &&
      (Pattern.ofTokens? (modes.inside kind) rest.dropLast).isOk
  | _ => false

theorem Token.isOneGroup_iff {modes : Modes} {tokens : List Token} :
    isOneGroup modes tokens = true ↔ ∃ kind inside p,
      tokens = .opening kind :: (inside ++ [.closing]) ∧
        Pattern.ofTokens? (modes.inside kind) inside = .ok p := by
  constructor
  · intro h
    unfold isOneGroup at h
    split at h
    · next kind rest =>
        obtain ⟨hlast, hinside⟩ := Bool.and_eq_true_iff.1 h
        cases hp : Pattern.ofTokens? (modes.inside kind) rest.dropLast with
        | error e =>
            rw [hp] at hinside
            cases hinside
        | ok p =>
            refine ⟨kind, rest.dropLast, p, ?_, hp⟩
            rw [List.dropLast_append_getLast? _ (beq_iff_eq.1 hlast)]
    · cases h
  · rintro ⟨kind, inside, p, rfl, hinside⟩
    simp [isOneGroup, hinside, Except.isOk, Except.toBool]

instance (source : String) (flags : Flags) : Decidable (IsOneGroup source flags) :=
  decidable_of_iff _ Token.isOneGroup_iff

/-! ## From tokens to texts -/

namespace Token

variable {g : Grammar} {text : List Char} {token : Token} {tokens : List Token}

@[simp]
theorem ofSource_eq_nil_iff : ofSource g text = [] ↔ text = [] := by
  cases text with
  | nil => simp [ofSource, ofSourceFrom]
  | cons c rest =>
      rcases hread : readAt g c rest with ⟨token, extra⟩
      simp [ofSource_cons hread]

/-- The first token of a text is spelled at its front. -/
theorem exists_spelling (h : ofSource g text = token :: tokens)
    (ht : ∀ cause, token ≠ .fault cause) :
    ∃ l rest, text = l ++ rest ∧ token.Spelling l rest ∧ ofSource g rest = tokens := by
  cases text with
  | nil => cases h
  | cons c rest =>
      rcases hread : readAt g c rest with ⟨token', extra⟩
      rw [ofSource_cons hread] at h
      obtain ⟨rfl, rfl⟩ := List.cons.inj h
      refine ⟨c :: rest.take extra, rest.drop extra, ?_, (spelling_readAt hread ht).2, rfl⟩
      rw [List.cons_append, List.take_append_drop]

/-- A parenthesis is the only text that is read as a parenthesis alone. -/
theorem eq_of_ofSource_eq_closing (h : ofSource g text = [.closing]) : text = [')'] := by
  rcases exists_spelling h nofun with ⟨l, rest, rfl, hl, hrest⟩
  obtain rfl : l = [')'] := hl
  rw [ofSource_eq_nil_iff.1 hrest, List.append_nil]

end Token

/-- Tokens that can be taken in one after the other are read off the front of their text. -/
theorem Assembly.Reads.exists_of_foldlM {g : Grammar} {a b : Assembly} {text : List Char}
    {tokens later : List Token} (htext : Token.ofSource g text = tokens ++ later)
    (h : tokens.foldlM step a = .ok b) :
    ∃ rest, Reads g a text b rest ∧ Token.ofSource g rest = later := by
  induction tokens generalizing a text with
  | nil =>
      obtain rfl : a = b := Except.ok.inj h
      exact ⟨text, Reads.done a text, htext⟩
  | cons token tokens ih =>
      cases text with
      | nil => cases htext
      | cons c rest =>
          rcases hread : Token.readAt g c rest with ⟨token', extra⟩
          rw [Token.ofSource_cons hread, List.cons_append] at htext
          obtain ⟨rfl, hrest⟩ := List.cons.inj htext
          rw [List.foldlM_cons] at h
          cases hstep : a.step token' with
          | error e =>
              rw [hstep] at h
              cases h
          | ok d =>
              rw [hstep] at h
              rcases ih hrest h with ⟨remaining, hreads, hremaining⟩
              exact ⟨remaining, Reads.token hread hstep hreads, hremaining⟩

/-- Tokens make a pattern exactly if all of them can be taken in and no group is left open. -/
theorem Pattern.ofTokens?_eq_ok_iff {modes : Modes} {tokens : List Token} {p : Pattern} :
    ofTokens? modes tokens = .ok p ↔
      ∃ b, tokens.foldlM step (Assembly.start modes) = .ok b ∧ b.enclosing = [] ∧
        p = b.current.body := by
  rw [ofTokens?]
  generalize tokens.foldlM step (Assembly.start modes) = folded
  cases folded with
  | error e => simp [bind, Except.bind]
  | ok b =>
      rcases b with ⟨current, enclosing, n⟩
      cases enclosing with
      | nil =>
          constructor
          · intro h
            exact ⟨_, rfl, rfl, (Except.ok.inj h).symm⟩
          · rintro ⟨b, hb, -, rfl⟩
            obtain rfl := Except.ok.inj hb
            rfl
      | cons outer rest =>
          constructor
          · intro h
            cases h
          · rintro ⟨b, hb, henclosing, -⟩
            obtain rfl := Except.ok.inj hb
            cases henclosing

/-! ## What is one group is stripped -/

/-- A text whose tokens are one group is stripped of its parentheses. -/
theorem Enclosure.exists_stripChars_eq {g : Grammar} {text : List Char} {kind : GroupKind}
    {inside : List Token} {modes : Modes} {p : Pattern}
    (htokens : Token.ofSource g text = .opening kind :: (inside ++ [.closing]))
    (hinside : Pattern.ofTokens? modes inside = .ok p) :
    ∃ content, text = '(' :: (content ++ [')']) ∧ stripChars text = content := by
  rcases Token.exists_spelling htokens nofun with ⟨l, rest, rfl, hspelling, hrest⟩
  rcases Token.eq_cons_of_opening hspelling with ⟨mark, rfl, -⟩
  rcases Pattern.ofTokens?_eq_ok_iff.1 hinside with ⟨b, hfold, henclosing, -⟩
  rcases Reads.exists_of_foldlM hrest hfold with ⟨last, hreads, hlast⟩
  obtain rfl := Token.eq_of_ofSource_eq_closing hlast
  rcases hreads.exists_append with ⟨body, rfl⟩
  -- The scan is as deep in the body as the grammar, so that it ends where the body does.
  have hbody : closingFrom 1 false false (body ++ [')']) = some body.length :=
    closingFrom_of_closed (hreads.truncate (stops_closing [])) rfl henclosing
  have hscan := closingFrom_opening 0 hspelling
  rw [hbody, Option.map_some] at hscan
  have htext : '(' :: mark ++ (body ++ [')']) = '(' :: ((mark ++ body) ++ [')']) := by simp
  rw [htext] at hscan ⊢
  refine ⟨mark ++ body, rfl, ?_⟩
  have hindex : closingIndex? ('(' :: ((mark ++ body) ++ [')'])) =
      some (('(' :: ((mark ++ body) ++ [')'])).length - 1) := by
    rw [closingIndex?, List.head?_cons, if_pos rfl, hscan]
    simp only [List.length_cons, List.length_append, List.length_nil]
    exact congrArg some (by omega)
  rw [stripChars, if_pos hindex, List.tail_cons, List.dropLast_concat]

/-! ## What is stripped is one group -/

/-- A source that the scan takes for one group is one. -/
theorem Assembly.Reads.exists_inside_tokens {g : Grammar} {modes : Modes} {b : Assembly}
    {inside : List Char} (h : Reads g (Assembly.start modes) ('(' :: (inside ++ [')'])) b [])
    (hscan : Enclosure.closingFrom 1 false false (inside ++ [')']) = some inside.length) :
    ∃ kind tokens p, Token.ofSource g ('(' :: (inside ++ [')'])) =
        .opening kind :: (tokens ++ [.closing]) ∧
      Pattern.ofTokens? (modes.inside kind) tokens = .ok p := by
  rcases h.exists_readAt_opening (Nat.zero_le _) with ⟨kind, extra, hread⟩
  rcases Enclosure.closingFrom_drop hread hscan with ⟨hextra, -⟩
  rcases h.exists_group hread hscan with ⟨f, count, -, hinside, -⟩
  have hclosing : Token.ofSource g [')'] = [.closing] := rfl
  refine ⟨kind, Token.ofSource g (inside.drop extra), ?_⟩
  rw [Token.ofSource_cons hread, List.drop_append_of_le_length hextra,
    hinside.ofSource_append (stops_closing []), hclosing]
  -- On its own the inside starts in a frame of another kind, but in the same modes.
  have hstart : InStep (Assembly.start (modes.inside kind)).current
      (Assembly.start (modes.inside kind)).enclosing
      ⟨((Assembly.start modes).openGroup kind).current, [],
        ((Assembly.start modes).openGroup kind).groups⟩ (Assembly.start (modes.inside kind)) :=
    InStep.start rfl rfl rfl
  rcases InStep.of_reads (Grammar.Supports.refl g) Stops.nil Stops.nil hinside hstart with
    ⟨b', hreads, hin, -⟩
  rcases hin.exists_frame rfl with ⟨frame, hframe, -⟩
  rw [List.append_nil, List.append_nil] at hreads
  rw [hframe] at hreads
  exact ⟨frame.body, rfl, Pattern.ofTokens?_eq_ok_iff.2 ⟨_, reads_iff.1 hreads, rfl, rfl⟩⟩

/-! ## Accepted sources -/

/-- A source that is accepted is stripped of its first and last character if the grammar reads it as
one group, and these are the parentheses of that group.  In all other cases nothing is stripped. -/
theorem Regex.strip_isOneGroup {source : String} {flags : Flags} {r : Regex}
    (h : compile source flags = .ok r) :
    (IsOneGroup source flags →
      ∃ content, source = "(" ++ content ++ ")" ∧ Enclosure.strip source = content) ∧
    (¬ IsOneGroup source flags → Enclosure.strip source = source) := by
  constructor
  · rintro ⟨kind, inside, p, htokens, hinside⟩
    rcases Enclosure.exists_stripChars_eq htokens hinside with ⟨content, hsource, hstrip⟩
    refine ⟨String.ofList content, String.toList_injective ?_, ?_⟩
    · simp [hsource]
    · rw [Enclosure.strip, hstrip]
  · intro hnot
    rcases Enclosure.stripChars_cases source.toList with hsame | ⟨inside, hsource, -, hscan⟩
    · rw [Enclosure.strip, hsame, String.ofList_toList]
    · rcases exists_reads h with ⟨-, -, b, hreads, -, -⟩
      rw [hsource] at hreads
      refine absurd ?_ hnot
      rw [IsOneGroup, hsource]
      exact hreads.exists_inside_tokens hscan

example : IsOneGroup "(?:a|(b)*)" ∅ ∧ ¬ IsOneGroup "(a)|(b)" ∅ ∧ ¬ IsOneGroup "(?:ab)+" ∅ := by
  decide +kernel

/-- A lookbehind over closing parentheses that are spelled in a class and with an escape, and two
groups. -/
theorem Regex.strip_isOneGroup_lookbehind :
    (∃ r, compile "(?<=[)]\\))" ∅ = .ok r) ∧ IsOneGroup "(?<=[)]\\))" ∅ ∧
      Enclosure.strip "(?<=[)]\\))" = "?<=[)]\\)" ∧
    (∃ r, compile "(a)(b)" ∅ = .ok r) ∧ ¬ IsOneGroup "(a)(b)" ∅ ∧
      Enclosure.strip "(a)(b)" = "(a)(b)" := by
  have hlookbehind : IsOneGroup "(?<=[)]\\))" ∅ := by decide +kernel
  have hgroups : ¬ IsOneGroup "(a)(b)" ∅ := by decide +kernel
  have hlookbehindOk : (compile "(?<=[)]\\))" ∅).isOk = true := by decide +kernel
  have hgroupsOk : (compile "(a)(b)" ∅).isOk = true := by decide +kernel
  cases hr : compile "(?<=[)]\\))" ∅ with
  | error e =>
      rw [hr] at hlookbehindOk
      cases hlookbehindOk
  | ok r =>
      cases hr' : compile "(a)(b)" ∅ with
      | error e =>
          rw [hr'] at hgroupsOk
          cases hgroupsOk
      | ok r' =>
          rcases (strip_isOneGroup hr).1 hlookbehind with ⟨content, hsource, hstrip⟩
          have hcontent : content = "?<=[)]\\)" := by
            have hinside := congrArg (·.toList.tail.dropLast) hsource
            refine String.toList_injective (Eq.symm ?_)
            simpa using hinside
          rw [hstrip, hcontent]
          exact ⟨⟨r, rfl⟩, hlookbehind, rfl, ⟨r', rfl⟩, hgroups, (strip_isOneGroup hr').2 hgroups⟩

end RegexComposition

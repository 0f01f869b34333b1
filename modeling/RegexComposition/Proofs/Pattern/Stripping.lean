import RegexComposition.Proofs.Pattern.Echo
import RegexComposition.Proofs.Pattern.Nesting
import RegexComposition.Proofs.Pattern.Truncation

/-!
# Sources without their parentheses

A source that is one plain group can be stripped of its parentheses, and every accepted source can be
put in a group.  It stays accepted either way, and without references it matches the same.  What
remains of a special group starts with a question mark and is not accepted any more.

Main results:

- `Enclosure.stripChars_cases`: what stripping does.
- `Assembly.Reads.exists_inside`: the inside of a group is read alone.
- `Regex.exists_compile_strip`: a stripped source is accepted.
- `Regex.exists_compile_enclosed`: a source in a group is accepted.
- `Regex.Blends.exists_strip`, `Regex.Blends.exists_plain`, `Regex.Blends.exists_compile_look`: what
  they match.
-/

namespace RegexComposition

open Assembly

/-! ## What stripping does -/

namespace Enclosure

/-- The scan ends at a closing parenthesis. -/
theorem getElem?_of_closingFrom {level i : Nat} {escaped inClass : Bool} {text : List Char}
    (h : closingFrom level escaped inClass text = some i) : text[i]? = some ')' := by
  induction text generalizing level i escaped inClass with
  | nil => cases h
  | cons c text ih =>
      have next : ∀ {level escaped inClass},
          (closingFrom level escaped inClass text).map (· + 1) = some i →
            (c :: text)[i]? = some ')' := by
        intro level escaped inClass hnext
        rcases Option.map_eq_some_iff.1 hnext with ⟨j, hj, rfl⟩
        exact ih hj
      rw [closingFrom] at h
      dsimp only at h
      split_ifs at h with _ _ _ _ _ hclosing _
      any_goals exact next h
      obtain rfl := Option.some.inj h
      rw [hclosing.1]
      rfl

/-- A source that is one group is stripped of its parentheses. -/
theorem stripChars_cases (source : List Char) :
    stripChars source = source ∨ ∃ inside, source = '(' :: (inside ++ [')']) ∧
      stripChars source = inside ∧
        closingFrom 1 false false (inside ++ [')']) = some inside.length := by
  by_cases hclosing : closingIndex? source = some (source.length - 1)
  · refine Or.inr ?_
    have hscan := hclosing
    unfold closingIndex? at hscan
    split_ifs at hscan with hhead
    rcases List.head?_eq_some_iff.1 hhead with ⟨rest, rfl⟩
    have hopening : closingFrom 0 false false ('(' :: rest) =
        (closingFrom 1 false false rest).map (· + 1) := rfl
    rw [hopening, Option.map_eq_some_iff] at hscan
    rcases hscan with ⟨i, hi, hlength⟩
    have hlast : rest.length = i + 1 := hlength.symm
    have hrest : rest = rest.take i ++ [')'] := by
      have hget := getElem?_of_closingFrom hi
      rw [List.getElem?_eq_some_iff] at hget
      rcases hget with ⟨hlt, hget⟩
      rw [← hget, List.take_append_getElem, hlast.symm, List.take_length]
    have htake : (rest.take i).length = i := by simp [hlast]
    refine ⟨rest.take i, by rw [← hrest], ?_, ?_⟩
    · rw [stripChars, if_pos hclosing, List.tail_cons]
      conv_lhs => rw [hrest]
      exact List.dropLast_concat
    · rw [← hrest, hi, htake]
  · exact Or.inl (by rw [stripChars, if_neg hclosing])

/-- If the scan passes over the inside of a group, the mark of the group ends in front of the
closing parenthesis, and the scan passes over what stands between them. -/
theorem closingFrom_drop {g : Grammar} {kind : GroupKind} {inside : List Char} {extra : Nat}
    (hread : Token.readAt g '(' (inside ++ [')']) = (.opening kind, extra))
    (hscan : closingFrom 1 false false (inside ++ [')']) = some inside.length) :
    extra ≤ inside.length ∧ closingFrom 1 false false (inside.drop extra ++ [')']) =
      some (inside.drop extra).length := by
  rcases Token.spelling_readAt hread (by rintro _ ⟨⟩) with ⟨hextra, hspelling⟩
  have hopening := closingFrom_opening 0 hspelling
  have hwhole : '(' :: (inside ++ [')']).take extra ++ (inside ++ [')']).drop extra =
      '(' :: (inside ++ [')']) := by rw [List.cons_append, List.take_append_drop]
  have hfirst : closingFrom 0 false false ('(' :: (inside ++ [')'])) =
      (closingFrom 1 false false (inside ++ [')'])).map (· + 1) := rfl
  rw [hwhole, hfirst, hscan, Option.map_some, eq_comm, Option.map_eq_some_iff] at hopening
  rcases hopening with ⟨i, hi, hlength⟩
  rw [List.length_cons, List.length_take, Nat.min_eq_left hextra] at hlength
  have hinside : extra ≤ inside.length := by omega
  rw [List.drop_append_of_le_length hinside] at hi
  refine ⟨hinside, hi.trans (congrArg some ?_)⟩
  rw [List.length_drop]
  omega

end Enclosure

/-! ## The inside of a group -/

namespace Assembly.Reads

variable {g : Grammar} {a b b' : Assembly} {text l after : List Char}

/-- There is only one way to read a text to its end. -/
theorem unique (h : Reads g a text b []) (h' : Reads g a text b' []) : b = b' := by
  cases h.cancel h' (Nat.le_refl _)
  rfl

/-- The tokens of a text in front of another one. -/
theorem ofSource_append (h : Reads g a text b []) (hs : Stops after) :
    Token.ofSource g (text ++ after) = Token.ofSource g text ++ Token.ofSource g after := by
  generalize hend : ([] : List Char) = remaining at h
  induction h with
  | done a text =>
      subst hend
      rfl
  | @token a b d c rest remaining token extra hread hstep _ ih =>
      have ht := ne_fault_of_step hstep
      rcases Token.spelling_readAt hread ht with ⟨hextra, _⟩
      rw [List.cons_append, Token.ofSource_cons (Token.readAt_append_self hs hread ht),
        Token.ofSource_cons hread, List.drop_append_of_le_length hextra, ih hend, List.cons_append]

/-- What stands behind the mark of a group is read alone, and the group becomes one term. -/
theorem exists_group {modes : Modes} {kind : GroupKind} {inside : List Char} {extra : Nat}
    (h : Reads g (Assembly.start modes) ('(' :: (inside ++ [')'])) b [])
    (hread : Token.readAt g '(' (inside ++ [')']) = (.opening kind, extra))
    (hscan : Enclosure.closingFrom 1 false false (inside ++ [')']) = some inside.length) :
    ∃ f count, f.kind = kind ∧
      Reads g ⟨((Assembly.start modes).openGroup kind).current, [],
          ((Assembly.start modes).openGroup kind).groups⟩ (inside.drop extra) ⟨f, [], count⟩ [] ∧
      b.current = (Assembly.start modes).current.push f.close f.closeFollows := by
  rcases Enclosure.closingFrom_drop hread hscan with ⟨hextra, hdrop⟩
  rcases h.exists_of_cons hread (Nat.zero_le _) with ⟨d, hstep, hreads⟩
  obtain rfl := Except.ok.inj hstep
  rw [List.drop_append_of_le_length hextra] at hreads
  have halone : Reads g (Assembly.lift [(Assembly.start modes).current]
      ⟨((Assembly.start modes).openGroup kind).current, [],
        ((Assembly.start modes).openGroup kind).groups⟩) (inside.drop extra ++ [')']) b [] := hreads
  rcases exists_reads_of_closed halone (by simp) hdrop with ⟨f, count, hframe, hclosed⟩
  refine ⟨f, count, hframe.1, hclosed.truncate (stops_closing []), ?_⟩
  have hclose := Reads.closing (g := g)
    (a := ⟨f, [(Assembly.start modes).current], count⟩) rfl []
  rw [← ((hclosed.lift [(Assembly.start modes).current]).trans hclose).unique halone]

/-- The inside of a plain group is read alone. -/
theorem exists_inside {modes : Modes} {inside : List Char}
    (h : Reads g (Assembly.start modes) ('(' :: (inside ++ [')'])) b [])
    (hhead : inside.head? ≠ some '?')
    (hscan : Enclosure.closingFrom 1 false false (inside ++ [')']) = some inside.length) :
    ∃ f, Reads g ⟨Frame.start (.capturing none) 1 modes, [], 1⟩ inside
        ⟨f, [], 1 + (GroupName.declared inside).length⟩ [] ∧
      b.current.body = Pattern.sequence [.group f.index f.body] := by
  have hread : Token.readAt g '(' (inside ++ [')']) = (.opening (.capturing none), 0) :=
    Token.readOpening_of_head?_ne (head?_closed_ne hhead [])
  rcases h.exists_group hread hscan with ⟨f, count, hkind, hinside, hbody⟩
  rw [List.drop_zero] at hinside
  rcases hinside.declared with ⟨names, hnames, hcount⟩
  refine ⟨f, ?_, ?_⟩
  · rw [GroupName.declared, hnames, GroupName.declaredFrom, List.append_nil]
    exact hcount ▸ hinside
  · rw [hbody, Frame.close, hkind]
    rfl

/-- A parenthesis that can be read opens a group. -/
theorem exists_readAt_opening {rest remaining : List Char} (h : Reads g a ('(' :: rest) b remaining)
    (hlength : remaining.length ≤ rest.length) :
    ∃ kind extra, Token.readAt g '(' rest = (.opening kind, extra) := by
  rcases hread : Token.readAt g '(' rest with ⟨token, extra⟩
  rcases h.exists_of_cons hread hlength with ⟨d, hstep, -⟩
  rcases Token.eq_opening_of_readOpening hread (ne_fault_of_step hstep) with ⟨kind, rfl⟩
  exact ⟨kind, extra, rfl⟩

/-- A source that is one group is no alternation. -/
theorem isEither_eq_false {modes : Modes} {inside : List Char}
    (h : Reads g (Assembly.start modes) ('(' :: (inside ++ [')'])) b [])
    (hscan : Enclosure.closingFrom 1 false false (inside ++ [')']) = some inside.length) :
    b.current.body.isEither = false := by
  rcases h.exists_readAt_opening (Nat.zero_le _) with ⟨kind, extra, hread⟩
  rcases h.exists_group hread hscan with ⟨f, -, -, -, hcurrent⟩
  rw [hcurrent]
  rfl

/-- The groups of a plain group and of its inside. -/
theorem declared_inside {inside : List Char} (h : Reads g a inside b [])
    (hhead : inside.head? ≠ some '?') :
    GroupName.declared ('(' :: (inside ++ [')'])) = none :: GroupName.declared inside :=
  Fits.declared_enclosed_of_reads h hhead OpensWith.capturing

end Assembly.Reads

/-- In front of another text the tokens are plain only if they are without it. -/
theorem Grammar.ReadsPlainly.of_append {g : Grammar} {a b : Assembly} {l after : List Char}
    (hplain : g.ReadsPlainly (l ++ after)) (h : Reads g a l b []) (hs : Stops after) :
    g.ReadsPlainly l := by
  rw [ReadsPlainly, h.ofSource_append hs] at hplain
  exact fun token htoken => hplain token (List.mem_append_left _ htoken)

/-! ## Accepted sources -/

namespace Regex

variable {source : String} {flags : Flags} {r : Regex} {kind : GroupKind} {mark : List Char}

/-- What is read when a source is compiled. -/
theorem exists_reads (h : compile source flags = .ok r) :
    r.program.groups = GroupName.declared source.toList ∧
      ((GroupName.declared source.toList).filterMap id).Nodup ∧
      ∃ b, Reads (Program.grammar source flags) (Assembly.start (Modes.ofFlags flags))
          source.toList b [] ∧
        b.enclosing = [] ∧ r.program.pattern = b.current.body := by
  rcases Program.read_eq_ok_iff.1 (of_compile h).1 with ⟨hgroups, hnodup, hreads⟩
  exact ⟨hgroups, hgroups ▸ hnodup, hreads⟩

/-- Without the flag `u` a source stays accepted when it is stripped of its parentheses, unless a
question mark comes first then. -/
theorem exists_compile_strip (h : compile source flags = .ok r)
    (hflags : flags.contains .unicode = false)
    (hhead : (Enclosure.strip source).toList.head? ≠ some '?') :
    ∃ r', compile (Enclosure.strip source) flags = .ok r' := by
  rw [Enclosure.strip, String.toList_ofList] at hhead
  rcases Enclosure.stripChars_cases source.toList with hsame | ⟨inside, hsource, hstrip, hscan⟩
  · rw [Enclosure.strip, hsame, String.ofList_toList]
    exact ⟨r, h⟩
  · rw [hstrip] at hhead
    rcases exists_reads h with ⟨-, hnodup, b, hreads, -, -⟩
    rw [hsource] at hreads hnodup
    rcases hreads.exists_inside hhead hscan with ⟨f, hinside, -⟩
    have hdeclared := hinside.declared_inside hhead
    have hgroups : (Program.grammar source flags).groups = none :: GroupName.declared inside := by
      rw [← hdeclared, ← hsource]
      rfl
    have hsupports : (Program.grammar source flags).Supports
        (Program.grammar (String.ofList inside) flags) := by
      have hgroups' : (Program.grammar (String.ofList inside) flags).groups =
          GroupName.declared inside := by rw [Program.grammar, String.toList_ofList]
      refine ⟨⟨rfl, fun hnamed => ?_⟩, fun name i hi => ?_, fun hu => ?_⟩
      · rw [Grammar.hasGroupNames, hgroups'] at hnamed
        rw [Grammar.hasGroupNames, hgroups, List.any_cons, hnamed, Bool.or_true]
      · rw [Grammar.groupIndex?, hgroups, List.findIdx?_cons] at hi
        rw [Grammar.groupIndex?, hgroups']
        cases hfound : (GroupName.declared inside).findIdx? (· == some name) with
        | none => simp [hfound] at hi
        | some j => exact ⟨j + 1, rfl⟩
      · rw [show flags.contains .unicode = true from hu] at hflags
        cases hflags
    rw [hdeclared] at hnodup
    rcases (ReadsIn.of_reads hsupports hinside rfl rfl rfl rfl).compile_of_nodup hnodup with
      ⟨r', _, hcompile, -⟩
    exact ⟨r', by rwa [Enclosure.strip, hstrip]⟩

/-- A source in a group is accepted. -/
theorem exists_compile_enclosed {k : Nat} (h : compile source flags = .ok r)
    (ho : OpensWith kind mark k) :
    ∃ r', compile (String.ofList ('(' :: (mark ++ (source.toList ++ [')'])))) flags = .ok r' := by
  rcases exists_reads h with ⟨-, hnodup, b, hreads, henclosing, -⟩
  have hhead := Fits.head?_ne_of_reads hreads rfl
  have hdeclared : GroupName.declared ('(' :: (mark ++ (source.toList ++ [')']))) =
      List.replicate k none ++ GroupName.declared source.toList :=
    Fits.declared_enclosed_of_reads hreads hhead ho
  have hprecedes : (Program.grammar source flags).Precedes k
      (Program.grammar (String.ofList ('(' :: (mark ++ (source.toList ++ [')'])))) flags) := by
    refine ⟨rfl, ?_⟩
    rw [Program.grammar, String.toList_ofList, hdeclared, Program.grammar]
  rcases hreads.declared with ⟨names, -, hcount⟩
  have hreadsIn := (ReadsIn.of_reads hprecedes.supports hreads rfl rfl henclosing
    hcount).enclosed hhead ho
  have hnodup' : ((GroupName.declared ('(' :: (mark ++ (source.toList ++ [')'])))).filterMap
      id).Nodup := by
    rw [hdeclared, List.filterMap_append, List.filterMap_replicate_of_none rfl]
    exact hnodup
  rcases hreadsIn.compile_of_nodup hnodup' with ⟨r', _, hcompile, -⟩
  exact ⟨r', hcompile⟩

/-- A source that starts with a question mark is not accepted in a group. -/
theorem compile_enclosed_eq_error {source : List Char}
    (hread : ∀ g, Token.readAt g '(' (mark ++ source) = (.opening kind, mark.length))
    (hhead : source.head? = some '?') :
    ∃ cause, compile (String.ofList ('(' :: (mark ++ source))) flags =
      .error (.invalidPattern (String.ofList ('(' :: (mark ++ source))) cause) := by
  cases hprogram : Program.read (String.ofList ('(' :: (mark ++ source))) flags with
  | error cause => exact ⟨cause, by rw [compile, hprogram]⟩
  | ok program =>
      rcases Program.read_eq_ok_iff.1 hprogram with ⟨-, -, b, hreads, -, -⟩
      rw [String.toList_ofList] at hreads
      rcases hreads.exists_of_cons (hread _) (Nat.zero_le _) with ⟨d, hstep, hrest⟩
      obtain rfl := Except.ok.inj hstep
      rw [List.drop_left] at hrest
      exact absurd hhead (Fits.head?_ne_of_reads hrest rfl)

/-! ## Sources without references -/

namespace Blends

variable {g : Grammar}

/-- A source without references matches like itself. -/
theorem alike_self (h : r.Blends g flags) : r.program.pattern.Alike r.program.pattern := by
  rcases h.gains_enclosed (Grammar.CarriesTo.refl g) (Nat.le_refl _) OpensWith.plain
    (fun _ _ hp => hp) (Assembly.start (Modes.ofFlags flags)) [] rfl Stops.nil with
    ⟨f, -, -, hgains⟩
  rcases hgains.body with ⟨ps, halike, -⟩
  exact halike.symm.trans halike

/-- Stripped of its parentheses a source matches the same, unless a question mark comes first
then. -/
theorem exists_strip (h : r.Blends g flags)
    (hhead : (Enclosure.strip r.source).toList.head? ≠ some '?') :
    ∃ r' : Regex, r'.source = Enclosure.strip r.source ∧ r'.Blends g flags ∧
      r'.program.pattern.Alike r.program.pattern := by
  rw [Enclosure.strip, String.toList_ofList] at hhead
  rcases Enclosure.stripChars_cases r.source.toList with hsame | ⟨inside, hsource, hstrip, hscan⟩
  · exact ⟨r, by rw [Enclosure.strip, hsame, String.ofList_toList], h, h.alike_self⟩
  · rw [hstrip] at hhead
    rcases h.exists_reads with ⟨b, hreads, -, -, hpattern⟩
    rw [hsource] at hreads
    rcases hreads.exists_inside hhead hscan with ⟨f, hinside, hbody⟩
    have hplain : g.ReadsPlainly inside := by
      have hread : Token.readAt g '(' (inside ++ [')']) = (.opening (.capturing none), 0) :=
        Token.readOpening_of_head?_ne (head?_closed_ne hhead [])
      have hall := h.plain
      rw [hsource] at hall
      exact (hall.of_cons hread).2.of_append hinside (stops_closing [])
    -- The group that goes is the first one of the source, and it has no name.
    have hgroups : r.program.groups = none :: GroupName.declared inside := by
      rw [(Regex.exists_reads h.accepted).1, hsource, hinside.declared_inside hhead]
    have hunnamed : GroupName.declared inside =
        List.replicate (GroupName.declared inside).length none :=
      List.eq_replicate_iff.2 ⟨rfl, fun name hname =>
        h.unnamed name (hgroups ▸ List.mem_cons_of_mem none hname)⟩
    have henough : (GroupName.declared inside).length ≤ g.groups.length := by
      have hcount := h.enough
      rw [hgroups, List.length_cons] at hcount
      omega
    have hgrammar := @Program.grammar_of_declared flags _ _ hunnamed
    have hreadsIn : ReadsIn (Program.grammar (String.ofList inside) flags) (Modes.ofFlags flags)
        (GroupName.declared inside).length (fun base f' => f.Joins base.branches base.terms f')
        inside := by
      refine ReadsIn.joins ⟨?_, fun hnamed => ?_⟩ ?_ hplain hinside
      · rw [hgrammar, h.unicode]
      · rw [hgrammar] at hnamed
        simp [Grammar.hasGroupNames] at hnamed
      · rw [hgrammar, List.length_replicate]
        exact henough
    rcases hreadsIn.compile hunnamed with ⟨r', frame, hcompile, hgroups', hpattern', hjoins⟩
    obtain ⟨hsource', -⟩ := eq_of_compile hcompile
    refine ⟨r', by rw [hsource', Enclosure.strip, hstrip], ⟨?_, ?_, h.unicode, ?_, ?_⟩, ?_⟩
    · rw [hsource', hcompile]
    · rw [hgroups']
      exact fun name => List.eq_of_mem_replicate
    · rw [hgroups', List.length_replicate]
      exact henough
    · rw [hsource', String.toList_ofList]
      exact hplain
    · rw [hpattern, hpattern', hbody]
      exact (Pattern.Alike.singleton_iff.2 ((Frame.Joins.body hjoins).group_left f.index)).symm

/-- A source in a group matches like its pattern in such a group. -/
theorem exists_compile_group {k : Nat} {q : Pattern} (h : r.Blends g flags)
    (ho : OpensWith kind mark k) (henough : k + r.program.groups.length ≤ g.groups.length)
    (hkind : ∀ i p, p.Alike r.program.pattern → (kind.term i p).Alike q) :
    ∃ r', compile (String.ofList ('(' :: (mark ++ (r.source.toList ++ [')'])))) flags = .ok r' ∧
      r'.program.groups = List.replicate (k + r.program.groups.length) none ∧
      r'.program.pattern.Alike q := by
  have hdeclared := (h.fits.enclosed ho).declared_eq
  have hgrammar := @Program.grammar_of_declared flags _ _ hdeclared
  have hreadsIn : ReadsIn
      (Program.grammar (String.ofList ('(' :: (mark ++ (r.source.toList ++ [')'])))) flags)
      (Modes.ofFlags flags) (k + r.program.groups.length)
      (Frame.Gains fun ps => (Pattern.sequence ps).Alike q)
      ('(' :: (mark ++ (r.source.toList ++ [')']))) := by
    refine h.gains_enclosed ⟨?_, fun hnamed => ?_⟩ ?_ ho hkind
    · rw [hgrammar, h.unicode]
    · rw [hgrammar] at hnamed
      simp [Grammar.hasGroupNames] at hnamed
    · rw [hgrammar, List.length_replicate]
      exact henough
  rcases hreadsIn.compile hdeclared with ⟨r', frame, hcompile, hgroups, hpattern, hgains⟩
  rcases hgains.body with ⟨ps, halike, hbody⟩
  refine ⟨r', hcompile, hgroups, ?_⟩
  rw [hpattern, hbody]
  exact halike

/-- In a group that captures nothing a source matches the same. -/
theorem exists_plain (h : r.Blends g flags) :
    ∃ r' : Regex, r'.source = "(?:" ++ r.source ++ ")" ∧ r'.Blends g flags ∧
      r'.program.pattern.Alike r.program.pattern := by
  have henough : 0 + r.program.groups.length ≤ g.groups.length := by
    rw [Nat.zero_add]
    exact h.enough
  rcases h.exists_compile_group OpensWith.plain henough (fun _ _ hp => hp) with
    ⟨r', hcompile, hgroups, halike⟩
  obtain ⟨hsource, -⟩ := eq_of_compile hcompile
  refine ⟨r', ?_, ⟨?_, ?_, h.unicode, ?_, ?_⟩, halike⟩
  · rw [hsource]
    exact String.toList_injective (by simp)
  · rw [hsource, hcompile]
  · rw [hgroups]
    exact fun name => List.eq_of_mem_replicate
  · rw [hgroups, List.length_replicate]
    exact henough
  · rcases h.exists_reads with ⟨b, hreads, -⟩
    have hread : Token.readAt g '(' (['?', ':'] ++ (r.source.toList ++ [')'])) =
        (.opening .plain, 2) := rfl
    have hclosing : Token.ofSource g [')'] = [.closing] := rfl
    rw [hsource, String.toList_ofList, Grammar.ReadsPlainly, Token.ofSource_cons hread]
    refine List.forall_mem_cons.2 ⟨rfl, fun token htoken => ?_⟩
    have htokens : token ∈ Token.ofSource g (r.source.toList ++ [')']) := htoken
    rw [hreads.ofSource_append (stops_closing []), hclosing, List.mem_append,
      List.mem_singleton] at htokens
    rcases htokens with htoken | rfl
    · exact h.plain token htoken
    · rfl

/-- The lookaround over a source. -/
theorem exists_compile_look {direction : Direction} {negated : Bool} (h : r.Blends g flags)
    (ho : OpensWith (.look direction negated) mark 0) :
    ∃ r', compile (String.ofList ('(' :: (mark ++ (r.source.toList ++ [')'])))) flags = .ok r' ∧
      r'.program.pattern.Alike (.look direction negated r.program.pattern) := by
  have henough : 0 + r.program.groups.length ≤ g.groups.length := by
    rw [Nat.zero_add]
    exact h.enough
  rcases h.exists_compile_group ho henough (fun _ _ hp => hp.look direction negated) with
    ⟨r', hcompile, -, halike⟩
  exact ⟨r', hcompile, halike⟩

end Blends

end Regex

end RegexComposition

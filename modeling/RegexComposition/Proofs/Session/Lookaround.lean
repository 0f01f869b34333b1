import RegexComposition.Proofs.Pattern.Stripping
import RegexComposition.Proofs.Regex.Ranges
import RegexComposition.Proofs.Session.Calls

/-!
# Lookarounds over combinations

A lookaround puts its mark in front of the source of a combination, which loses its enclosing
parentheses first.  A combination that is a single special group becomes a text that starts with a
question mark, and the lookaround over it is rejected; over any other source that is accepted it is
accepted, and it succeeds where a lookaround over the source in a group of its own does.

Main results:

- `Builder.lookaround_eq`: a lookaround is made of the source of a combination.
- `Builder.lookaround_sound`: when it is accepted, and where it succeeds.
- `Builder.lookaround_rejected`: it need not be accepted.
-/

namespace RegexComposition

namespace OpensWith

/-- The mark of a lookaround opens it. -/
theorem lookaroundMark (direction : Direction) (negated : Bool) :
    OpensWith (.look direction negated) (Builder.lookaroundMark direction negated).toList 0 := by
  cases direction <;> cases negated <;> exact ⟨fun _ _ => rfl, fun _ => rfl, rfl⟩

end OpensWith

namespace Builder

open Session

variable {σ : Type} {b : Builder} {args : List (Argument σ)} {s s' : SessionState σ}
variable {source : String} {r : Regex}

/-- The source of a lookaround over the given text. -/
def lookaroundSource (direction : Direction) (negated : Bool) (text : String) : String :=
  "(" ++ lookaroundMark direction negated ++ text ++ ")"

theorem lookaroundSource_eq (direction : Direction) (negated : Bool) (text : String) :
    lookaroundSource direction negated text = String.ofList
      ('(' :: ((lookaroundMark direction negated).toList ++ (text.toList ++ [')']))) :=
  String.toList_injective (by simp [lookaroundSource])

/-- A lookaround is made of the source of a combination. -/
theorem lookaround_eq (b : Builder) (direction : Direction) (negated : Bool)
    (args : List (Argument σ)) : b.lookaround direction negated args =
      (fun source => NativePattern.ofSource
        (lookaroundSource direction negated (Enclosure.strip source))) <$> b.source args := by
  simp only [lookaround, Builder.source, map_eq_pure_bind, bind_assoc]
  rfl

/-- Over a source without names and references, the lookaround over what is left of it without its
parentheses matches like the one over the source in a group. -/
theorem exists_compile_lookarounds (hpart : r.IsPart (Program.grammar r.source ∅) ∅)
    (hhead : (Enclosure.strip r.source).toList.head? ≠ some '?') (direction : Direction)
    (negated : Bool) : ∃ look look',
      Regex.compile (lookaroundSource direction negated (Enclosure.strip r.source)) ∅ = .ok look ∧
      Regex.compile (lookaroundSource direction negated ("(?:" ++ r.source ++ ")")) ∅ =
        .ok look' ∧
      look.program.pattern.Alike look'.program.pattern := by
  have hmark := OpensWith.lookaroundMark direction negated
  have hblends : r.Blends (Program.grammar r.source ∅) ∅ := by
    rcases Regex.exists_reads_of_compile hpart.accepted hpart.unnamed with ⟨hgroups, -⟩
    refine hpart.blends rfl ?_ ?_
    · simp [Grammar.hasGroupNames, hgroups]
    · rw [hgroups, List.length_replicate]
  rcases hblends.exists_strip hhead with ⟨inside, hinside, hblends', halike⟩
  rcases hblends.exists_plain with ⟨group, hgroup, hblends'', halike'⟩
  rcases hblends'.exists_compile_look hmark with ⟨look, hlook, hlooks⟩
  rcases hblends''.exists_compile_look hmark with ⟨look', hlook', hlooks'⟩
  rw [hinside, ← lookaroundSource_eq] at hlook
  rw [hgroup, ← lookaroundSource_eq] at hlook'
  have hbodies := (halike.trans halike'.symm).look direction negated
  exact ⟨look, look', hlook, hlook', hlooks.trans (hbodies.trans hlooks'.symm)⟩

/-- A lookaround over a text that starts with a question mark is rejected. -/
theorem compile_lookaround_eq_error {text : String} (hhead : text.toList.head? = some '?')
    (direction : Direction) (negated : Bool) : ∃ cause,
      Regex.compile (lookaroundSource direction negated text) ∅ =
        .error (.invalidPattern (lookaroundSource direction negated text) cause) := by
  have hread : ∀ g, Token.readAt g '('
      ((lookaroundMark direction negated).toList ++ (text.toList ++ [')'])) =
        (.opening (.look direction negated), (lookaroundMark direction negated).toList.length) := by
    intro g
    cases direction <;> cases negated <;> rfl
  have hhead' : (text.toList ++ [')']).head? = some '?' := by
    rcases List.head?_eq_some_iff.1 hhead with ⟨rest, hrest⟩
    rw [hrest]
    rfl
  rw [lookaroundSource_eq]
  exact Regex.compile_enclosed_eq_error hread hhead'

/-- The lookaround over a combination whose source is accepted without flags.  It is accepted too and,
if nothing in the source has a name or refers to a group, succeeds where the lookaround over the
source in a group does.  The exception is a source that is a special group: without its parentheses
it starts with a question mark, and the lookaround over it is rejected. -/
theorem lookaround_sound (hsource : (b.source args).after s = (.ok source, s'))
    (haccepted : Regex.compile source ∅ = .ok r) (direction : Direction) (negated : Bool) :
    ∃ pattern, (b.lookaround direction negated args).after s = (.ok pattern, s') ∧
      pattern.flags = ∅ ∧
      ((Enclosure.strip source).toList.head? ≠ some '?' →
        ∃ look, Regex.compile pattern.source ∅ = .ok look ∧
          (r.IsPart (Program.grammar source ∅) ∅ → ∃ look',
            Regex.compile (lookaroundSource direction negated ("(?:" ++ source ++ ")")) ∅ =
              .ok look' ∧
            ∀ (t : Text) (i : Nat), (look.program.pattern.matchAt t i).isSome =
              (look'.program.pattern.matchAt t i).isSome)) ∧
      ((Enclosure.strip source).toList.head? = some '?' →
        ∃ cause, Regex.compile pattern.source ∅ =
          .error (.invalidPattern pattern.source cause)) := by
  obtain ⟨rfl, -⟩ := Regex.eq_of_compile haccepted
  have hafter : (b.lookaround direction negated args).after s = (.ok (NativePattern.ofSource
      (lookaroundSource direction negated (Enclosure.strip r.source))), s') := by
    rw [lookaround_eq, after_map, hsource]
    rfl
  refine ⟨_, hafter, rfl, fun hhead => ?_,
    fun hhead => compile_lookaround_eq_error hhead direction negated⟩
  rcases Regex.exists_compile_strip haccepted (by decide) hhead with ⟨stripped, hstripped⟩
  rcases Regex.exists_compile_enclosed hstripped
    (OpensWith.lookaroundMark direction negated) with ⟨look, hlook⟩
  rw [← lookaroundSource_eq] at hlook
  refine ⟨look, hlook, fun hpart => ?_⟩
  rcases exists_compile_lookarounds hpart hhead direction negated with
    ⟨look₁, look', hlook₁, hlook', halike⟩
  obtain rfl : look₁ = look := Except.ok.inj (hlook₁.symm.trans hlook)
  refine ⟨look', hlook', fun t i => ?_⟩
  have hmatch := congrArg Option.isSome (halike.matchAt t i)
  rwa [Option.isSome_map, Option.isSome_map] at hmatch

/-- The arguments `a|(b)` are compiled into a plain group. -/
theorem lookaround_sound_plain : ∃ pattern look look' s',
    (Builder.lookaround ⟨⟨0⟩, none⟩ .backward true [.native (.ofSource "a|(b)")]).after
      (⟨Workspace.empty, ()⟩ : SessionState Unit) = (.ok pattern, s') ∧
    Regex.compile pattern.source ∅ = .ok look ∧
    Regex.compile "(?<!(?:(a|(b))))" ∅ = .ok look' ∧
    ∀ (t : Text) (i : Nat), (look.program.pattern.matchAt t i).isSome =
      (look'.program.pattern.matchAt t i).isSome := by
  have hsource : ∃ s', (Builder.source ⟨⟨0⟩, none⟩ [.native (.ofSource "a|(b)")]).after
      (⟨Workspace.empty, ()⟩ : SessionState Unit) = (.ok "(a|(b))", s') := ⟨_, rfl⟩
  rcases hsource with ⟨s', hsource⟩
  rcases lookaround_sound hsource rfl .backward true with ⟨pattern, hafter, -, hlook, -⟩
  rcases hlook (by decide) with ⟨look, hcompile, hmatches⟩
  rcases hmatches (by decide) with ⟨look', hcompile', hsame⟩
  exact ⟨pattern, look, look', s', hafter, hcompile, hcompile', hsame⟩

/-- The arguments `(?:a)` are compiled into a source that is accepted, and the lookahead over them is
rejected. -/
theorem lookaround_rejected : ∃ s' r,
    (Builder.source ⟨⟨0⟩, none⟩ [.native (.ofSource "(?:a)")]).after
      (⟨Workspace.empty, ()⟩ : SessionState Unit) = (.ok "(?:a)", s') ∧
    Regex.compile "(?:a)" ∅ = .ok r ∧
    (Builder.lookaround ⟨⟨0⟩, none⟩ .forward false [.native (.ofSource "(?:a)")]).after
      (⟨Workspace.empty, ()⟩ : SessionState Unit) = (.ok ⟨"(?=?:a)", ∅⟩, s') ∧
    Regex.compile "(?=?:a)" ∅ = .error (.invalidPattern "(?=?:a)" .invalidAtom) :=
  ⟨_, _, rfl, rfl, rfl, rfl⟩

end Builder

end RegexComposition

import RegexComposition.Proofs.Capture.Tiling

/-!
# Names of records

Which groups a record has does not depend on the text or on the match: a group that did not take
part is recorded as empty, and a group is left out only if it is marked as skipped.

Main results:

- `CaptureEntry.names_readGroups`: the names that are read from a match.
- `Graph.names_of_capture`: every record has the names of the groups that are not skipped, in order.
-/

namespace RegexComposition

namespace CaptureEntry

variable {entries : List CaptureEntry}

/-- The names that are read from a match are those of the entries that are not skipped. -/
theorem names_readGroups (strict : Bool) (groupOf : CaptureEntry → Option Match) (offset : Nat)
    (cursor : CharCursor) :
    (readGroups strict groupOf entries offset cursor).1.map (·.1) =
      (entries.filter fun e => !e.skipped).map (·.name) := by
  induction entries generalizing offset cursor with
  | nil => rfl
  | cons e entries ih =>
      rw [readGroups]
      cases hskipped : e.skipped with
      | true => simp [hskipped, ih]
      | false => simp [hskipped, ih]

theorem names_of_mem_readMatches {r : Regex} {strict : Bool} {found : List MatchGroups}
    {cursor : CharCursor} {record : CaptureRecord}
    (h : record ∈ readMatches r strict entries found cursor) :
    record.names = (entries.filter fun e => !e.skipped).map (·.name) := by
  induction found generalizing cursor with
  | nil => cases h
  | cons groups found ih =>
      rw [readMatches] at h
      rcases List.mem_cons.1 h with rfl | h
      · exact names_readGroups strict _ _ _
      · exact ih h

/-- The entries that are not skipped belong to the groups that are not skipped. -/
theorem names_of_forall₂ {g : Graph} {groups : List (String × FragmentId)}
    (h : List.Forall₂ (IsEntryOf g) groups entries) :
    (entries.filter fun e => !e.skipped).map (·.name) =
      (groups.filter fun group => !(g.node group.2).skipped).map (·.1) := by
  induction h with
  | nil => rfl
  | @cons group e groups entries hentry _ ih =>
      rw [List.filter_cons, List.filter_cons, ← hentry.skipped]
      cases e.skipped with
      | true => exact ih
      | false => simpa [hentry.name] using ih

end CaptureEntry

/-- Every record has the names of the groups that are not skipped, in their order. -/
theorem Graph.names_of_capture {g : Graph} {text : String} {groups : NameTable}
    {options : CaptureOptions} {default : Option Flags} {records : List CaptureRecord}
    (h : g.capture text groups options default = .ok records) {record : CaptureRecord}
    (hrecord : record ∈ records) :
    record.names = (groups.entries.filter fun group => !(g.node group.2).skipped).map (·.1) := by
  unfold capture at h
  split at h
  · cases h
    cases hrecord
  · cases hentries : CaptureEntry.ofGroups g [] groups.entries with
    | error e =>
        rw [hentries] at h
        cases h
    | ok entries =>
        rw [hentries] at h
        cases hflags : g.captureFlags options default groups.fragments with
        | error e =>
            simp only [bind, Except.bind, hflags] at h
            cases h
        | ok flags =>
            cases hregex : Regex.compile (CaptureEntry.pattern options entries) flags with
            | error e =>
                simp only [bind, Except.bind, hflags, hregex] at h
                cases h
            | ok regex =>
                simp only [bind, Except.bind, hflags, hregex] at h
                obtain rfl := Except.ok.inj h
                rw [CaptureEntry.names_of_mem_readMatches hrecord]
                exact CaptureEntry.names_of_forall₂ (CaptureEntry.forall₂_ofGroups hentries)

end RegexComposition

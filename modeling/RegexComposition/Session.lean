import RegexComposition.Fragment.Source
import RegexComposition.Registry

/-!
# Sessions

Fragments and registries are shared by everything that happens in one session.  User functions
run inside the session too and may remember things of their own there.

Main definitions:

- `Workspace`: the fragment graph and the registries, each with the number of its users.
- `Session`: computations that read and change a workspace and may fail.  A failure keeps the
  changes made before it.
-/

namespace RegexComposition

/-! ## Workspaces -/

/-- A registry and the number of builders that use it.  Without a user it is gone. -/
structure RegistryEntry where
  names : Registry
  users : Nat
  deriving Inhabited

/-- The fragments and registries of a session. -/
structure Workspace where
  graph : Graph
  registries : Array RegistryEntry

namespace Workspace

/-- Nothing has been made yet. -/
def empty : Workspace := ⟨Graph.empty, #[]⟩

instance : Inhabited Workspace := ⟨empty⟩

/-- The names in a registry. -/
def names (w : Workspace) (r : RegistryId) : Registry := (w.registries.getD r.index default).names

/-- Whether some builder uses the registry. -/
def isLive (w : Workspace) (r : RegistryId) : Bool :=
  0 < (w.registries.getD r.index default).users

/-- Changes the names in a registry. -/
def setNames (w : Workspace) (r : RegistryId) (names : Registry) : Workspace :=
  { w with registries := w.registries.modify r.index ({ · with names := names }) }

/-- Adds an empty registry with one user. -/
def addRegistry (w : Workspace) : RegistryId × Workspace :=
  (⟨w.registries.size⟩, { w with registries := w.registries.push ⟨Registry.empty, 1⟩ })

/-- Counts one more user of a registry. -/
def acquire (w : Workspace) (r : RegistryId) : Workspace :=
  { w with registries := w.registries.modify r.index fun e => { e with users := e.users + 1 } }

/-- Counts one user less of a registry. -/
def release (w : Workspace) (r : RegistryId) : Workspace :=
  { w with registries := w.registries.modify r.index fun e => { e with users := e.users - 1 } }

end Workspace

/-! ## Sessions -/

/-- The state of a session: the workspace, and what user functions remember. -/
structure SessionState (σ : Type) where
  workspace : Workspace
  memory : σ

/-- Computations in a session whose user functions remember a `σ`. -/
abbrev Session (σ : Type) := ExceptT CompositionError (StateM (SessionState σ))

namespace Session

variable {σ α : Type}

/-- The workspace as it is now. -/
def workspace : Session σ Workspace := do return (← get).workspace

/-- The fragment graph as it is now. -/
def graph : Session σ Graph := do return (← workspace).graph

/-- Changes the workspace. -/
def modifyWorkspace (f : Workspace → Workspace) : Session σ Unit :=
  modify fun s => { s with workspace := f s.workspace }

/-- Changes the workspace and gives a value. -/
def onWorkspace (f : Workspace → α × Workspace) : Session σ α :=
  modifyGet fun s =>
    let (a, w) := f s.workspace
    (a, { s with workspace := w })

/-- Changes the fragment graph. -/
def modifyGraph (f : Graph → Graph) : Session σ Unit :=
  modifyWorkspace fun w => { w with graph := f w.graph }

/-- Changes the fragment graph and gives a value. -/
def onGraph (f : Graph → α × Graph) : Session σ α :=
  onWorkspace fun w =>
    let (a, g) := f w.graph
    (a, { w with graph := g })

/-- A value or an error that has been computed already. -/
def ofExcept (r : Except CompositionError α) : Session σ α := ExceptT.mk (pure r)

end Session

end RegexComposition

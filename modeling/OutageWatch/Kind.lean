/-!
# Kinds of workloads

Three kinds of workloads are watched.  Each has an identifier, an API group and version, a plural
under which it is listed, and a name for people.  Whatever there is one of for each kind is kept
in a `PerKind`.

## Main definitions

* `Kind`, `Kind.all` : the kinds, in their order.
* `Kind.identifier`, `Kind.group`, `Kind.apiVersion`, `Kind.plural`, `Kind.display` : their names.
* `PerKind`, `PerKind.get`, `PerKind.modify`, `PerKind.map` : one value for each kind.

## Main results

* `PerKind.get_modify_self`, `PerKind.get_modify_of_ne` : a change reaches its own kind only.
-/

namespace OutageWatch

/-- A kind of workload. -/
inductive Kind where
  | deploymentConfig
  | deployment
  | statefulSet
  deriving DecidableEq, Repr

namespace Kind

/-- The kinds, in their order. -/
def all : List Kind := [.deploymentConfig, .deployment, .statefulSet]

@[simp] theorem mem_all (k : Kind) : k ∈ all := by cases k <;> decide

/-- If there is something of one kind only, then that is all there is. -/
theorem flatMap_all {α : Type} {f : Kind → List α} {k : Kind} (h : ∀ l, l ≠ k → f l = []) :
    all.flatMap f = f k := by
  cases k with
  | deploymentConfig => simp [all, h .deployment, h .statefulSet]
  | deployment => simp [all, h .deploymentConfig, h .statefulSet]
  | statefulSet => simp [all, h .deploymentConfig, h .deployment]

/-- The name of a kind in manifests and reports. -/
def identifier : Kind → String
  | .deploymentConfig => "DeploymentConfig"
  | .deployment => "Deployment"
  | .statefulSet => "StatefulSet"

/-- The kind of an identifier. -/
def ofIdentifier? (s : String) : Option Kind := all.find? (·.identifier = s)

@[simp] theorem ofIdentifier?_identifier (k : Kind) : ofIdentifier? k.identifier = some k := by
  cases k <;> decide

/-- The API group of a kind. -/
def group : Kind → String
  | .deploymentConfig => "apps.openshift.io"
  | .deployment | .statefulSet => "apps"

/-- The API version of every kind. -/
def version : String := "v1"

/-- Group and version as one name. -/
def apiVersion (k : Kind) : String := k.group ++ "/" ++ version

/-- The plural under which a kind is listed. -/
def plural : Kind → String
  | .deploymentConfig => "deploymentconfigs"
  | .deployment => "deployments"
  | .statefulSet => "statefulsets"

/-- The name of a kind for people. -/
def display : Kind → String
  | .deploymentConfig => "deployment config"
  | .deployment => "deployment"
  | .statefulSet => "statefulset"

end Kind

/-- One value for each kind. -/
structure PerKind (α : Type) where
  deploymentConfig : α
  deployment : α
  statefulSet : α
  deriving DecidableEq, Repr

namespace PerKind

variable {α β : Type}

/-- The same value for each kind. -/
def const (a : α) : PerKind α := ⟨a, a, a⟩

/-- The value for a kind. -/
def get (p : PerKind α) : Kind → α
  | .deploymentConfig => p.deploymentConfig
  | .deployment => p.deployment
  | .statefulSet => p.statefulSet

/-- Changes the value for one kind. -/
def modify (p : PerKind α) (k : Kind) (f : α → α) : PerKind α :=
  match k with
  | .deploymentConfig => { p with deploymentConfig := f p.deploymentConfig }
  | .deployment => { p with deployment := f p.deployment }
  | .statefulSet => { p with statefulSet := f p.statefulSet }

/-- Replaces the value for one kind. -/
def set (p : PerKind α) (k : Kind) (a : α) : PerKind α := p.modify k fun _ => a

/-- Applies a function to each value. -/
def map (f : α → β) (p : PerKind α) : PerKind β :=
  ⟨f p.deploymentConfig, f p.deployment, f p.statefulSet⟩

/-- The values in the order of the kinds. -/
def toList (p : PerKind α) : List α := [p.deploymentConfig, p.deployment, p.statefulSet]

@[simp] theorem get_const (a : α) (k : Kind) : (const a).get k = a := by cases k <;> rfl

@[simp] theorem get_map (f : α → β) (p : PerKind α) (k : Kind) : (p.map f).get k = f (p.get k) := by
  cases k <;> rfl

@[simp] theorem get_modify_self (p : PerKind α) (k : Kind) (f : α → α) :
    (p.modify k f).get k = f (p.get k) := by
  cases k <;> rfl

theorem get_modify_of_ne (p : PerKind α) {k l : Kind} (f : α → α) (h : l ≠ k) :
    (p.modify k f).get l = p.get l := by
  cases k <;> cases l <;> first | rfl | exact absurd rfl h

@[ext] theorem ext {p q : PerKind α} (h : ∀ k, p.get k = q.get k) : p = q := by
  cases p; cases q
  simpa using ⟨h .deploymentConfig, h .deployment, h .statefulSet⟩

end PerKind

end OutageWatch

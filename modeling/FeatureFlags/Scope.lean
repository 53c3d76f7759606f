import FeatureFlags.Json.Wire
import FeatureFlags.Text.Split

/-!
# Scopes

A scope is an environment of a project.  Flags are stored, cached and announced
per scope.  Scopes are ordered by project, then by environment.  The key of a
scope is its project and its environment with a colon between them.
-/

namespace FeatureFlags

/-- An environment of a project. -/
structure Scope where
  project : String
  environment : String
deriving DecidableEq, Inhabited, Repr

namespace Scope

instance : Ord Scope := ⟨compareLex (compareOn Scope.project) (compareOn Scope.environment)⟩

instance : Std.TransOrd Scope :=
  inferInstanceAs <| Std.TransCmp <|
    compareLex (compareOn Scope.project) (compareOn Scope.environment)

theorem compare_def (a b : Scope) :
    compare a b = (compare a.project b.project).then (compare a.environment b.environment) := rfl

instance : Std.LawfulEqOrd Scope where
  compare_self {a} := by rw [compare_def]; simp
  eq_of_compare {a b} h := by
    rw [compare_def, Ordering.then_eq_eq] at h
    obtain ⟨p, e⟩ := a
    obtain ⟨q, f⟩ := b
    have hp : p = q := Std.LawfulEqOrd.eq_of_compare h.1
    have he : e = f := Std.LawfulEqOrd.eq_of_compare h.2
    rw [hp, he]

/-- The key of a scope. -/
def key (s : Scope) : String := s.project ++ ":" ++ s.environment

/-- Splits a text at its first colon; none if there is no colon. -/
def split? (text : String) : Option Scope :=
  (Text.splitFirst ':' text.toList).map fun (project, environment) =>
    ⟨String.ofList project, String.ofList environment⟩

/-- Reads a scope key: both parts must be there. -/
def parse? (text : String) : Option Scope := do
  let s ← split? text
  if s.project.isEmpty ∨ s.environment.isEmpty then none else some s

instance : Wire Scope where
  encode s := .object [("project", encode s.project), ("environment", encode s.environment)]
  decode? d := do
    let [project, environment] ←
      d.record? [("project", .required), ("environment", .required)] | none
    return { project := ← Document.field? project, environment := ← Document.field? environment }

end Scope

end FeatureFlags

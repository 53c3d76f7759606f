import FeatureFlags.Scope
import Mathlib.Data.Set.Function

/-!
# Keys of scopes

The key of a scope is cut at its first colon, so it is read as the scope if the project is without
colons and both parts are there (`HasReadableKey`).  The environment may have colons.

`parse?_eq_some_iff` says when a text is read as a scope and `parse?_eq_none_iff` when it is read as
none; `keys_read_back` is what comes of both.
-/

namespace FeatureFlags.Scope

variable {text : String} {s : Scope}

/-- What a scope is like whose key is read as the scope. -/
structure HasReadableKey (s : Scope) : Prop where
  project : s.project ≠ ""
  noColon : ':' ∉ s.project.toList
  environment : s.environment ≠ ""

theorem toList_key (s : Scope) :
    s.key.toList = s.project.toList ++ ':' :: s.environment.toList := by
  simp [key, String.toList_append]

theorem split?_eq_some_iff : split? text = some s ↔ s.key = text ∧ ':' ∉ s.project.toList := by
  rw [← String.toList_inj, toList_key, split?, Option.map_eq_some_iff]
  constructor
  · rintro ⟨⟨before, after⟩, hcut, rfl⟩
    obtain ⟨htext, hbefore⟩ := Text.splitFirst_eq_some hcut
    simp only [String.toList_ofList]
    exact ⟨htext.symm, hbefore⟩
  · rintro ⟨htext, hproject⟩
    refine ⟨(s.project.toList, s.environment.toList), ?_, by simp⟩
    rw [← htext, Text.splitFirst_append hproject]

/-- A text without a colon is not cut. -/
theorem split?_eq_none_iff : split? text = none ↔ ':' ∉ text.toList := by
  rw [Option.eq_none_iff_forall_ne_some]
  constructor
  · intro hnone hcolon
    obtain ⟨before, after, htext, hbefore⟩ := List.eq_append_cons_of_mem hcolon
    refine hnone ⟨String.ofList before, String.ofList after⟩ (split?_eq_some_iff.2 ⟨?_, ?_⟩)
    · rw [← String.toList_inj, toList_key, htext, String.toList_ofList, String.toList_ofList]
    · rwa [String.toList_ofList]
  · rintro hnone s hs
    rw [← (split?_eq_some_iff.1 hs).1, toList_key] at hnone
    simp at hnone

/-- A text is read as the scopes that it is the key of and that have readable keys. -/
theorem parse?_eq_some_iff : parse? text = some s ↔ s.key = text ∧ s.HasReadableKey := by
  rw [parse?, Option.bind_eq_bind, Option.bind_eq_some_iff]
  constructor
  · rintro ⟨s, hsplit, hs⟩
    rw [Option.ite_none_left_eq_some, Option.some.injEq] at hs
    obtain ⟨hparts, rfl⟩ := hs
    obtain ⟨htext, hproject⟩ := split?_eq_some_iff.1 hsplit
    simp only [String.isEmpty_iff, not_or] at hparts
    exact ⟨htext, hparts.1, hproject, hparts.2⟩
  · rintro ⟨htext, h⟩
    refine ⟨s, split?_eq_some_iff.2 ⟨htext, h.noColon⟩, if_neg ?_⟩
    simp [h.project, h.environment]

theorem parse?_key_iff : parse? s.key = some s ↔ s.HasReadableKey := by
  rw [parse?_eq_some_iff]
  simp

/-- A text is read as no scope if it is not cut, or if nothing stands before or after the cut. -/
theorem parse?_eq_none_iff : parse? text = none ↔
    split? text = none ∨ ∃ s, split? text = some s ∧ (s.project = "" ∨ s.environment = "") := by
  rw [parse?, Option.bind_eq_bind, Option.bind_eq_none_iff]
  cases split? text with
  | none => simp
  | some s => simp [or_iff_not_imp_left]

/-- Scopes with readable keys have different keys. -/
theorem HasReadableKey.eq_of_key_eq {s' : Scope} (h : s.HasReadableKey) (h' : s'.HasReadableKey)
    (hkey : s.key = s'.key) : s = s' := by
  have hread : parse? s.key = some s := parse?_key_iff.2 h
  rw [hkey, parse?_key_iff.2 h'] at hread
  exact (Option.some.inj hread).symm

/-! ## Main result -/

/-- A text that is read as a scope is the key of the scope.  The key of a scope is read as the scope
exactly if the project is there and has no colon and the environment is there.  A text is read as no
scope exactly if it has no colon or nothing stands before its first colon or after it.  So scopes
that are read from texts have different keys. -/
theorem keys_read_back :
    (∀ text s, parse? text = some s → s.key = text) ∧
    (∀ s, parse? s.key = some s ↔
      s.project ≠ "" ∧ ':' ∉ s.project.toList ∧ s.environment ≠ "") ∧
    (∀ text, parse? text = none ↔ ':' ∉ text.toList ∨ ∃ before after : String,
      text = before ++ ":" ++ after ∧ ':' ∉ before.toList ∧ (before = "" ∨ after = "")) ∧
    Set.InjOn key {s | ∃ text, parse? text = some s} := by
  refine ⟨fun _ _ h => (parse?_eq_some_iff.1 h).1, fun s => ?key, fun text => ?none, ?injective⟩
  case key =>
    rw [parse?_key_iff]
    exact ⟨fun h => ⟨h.project, h.noColon, h.environment⟩, fun ⟨hp, hc, he⟩ => ⟨hp, hc, he⟩⟩
  case none =>
    rw [parse?_eq_none_iff, split?_eq_none_iff]
    refine or_congr_right ⟨?_, ?_⟩
    · rintro ⟨s, hs, hempty⟩
      obtain ⟨htext, hproject⟩ := split?_eq_some_iff.1 hs
      exact ⟨s.project, s.environment, htext.symm, hproject, hempty⟩
    · rintro ⟨before, after, htext, hbefore, hempty⟩
      exact ⟨⟨before, after⟩, split?_eq_some_iff.2 ⟨htext.symm, hbefore⟩, hempty⟩
  case injective =>
    rintro s ⟨_, hs⟩ s' ⟨_, hs'⟩ hkey
    exact (parse?_eq_some_iff.1 hs).2.eq_of_key_eq (parse?_eq_some_iff.1 hs').2 hkey

/-- A colon in a project is taken for the end of the project. -/
example : key ⟨"shop:eu", "live"⟩ = key ⟨"shop", "eu:live"⟩ ∧
    parse? (key ⟨"shop:eu", "live"⟩) = some ⟨"shop", "eu:live"⟩ := by decide

end FeatureFlags.Scope

import FeatureFlags.Proofs.Cache.Invariant

/-!
# A cache at rest

A cache is at rest when no read is in flight.  A read that is abandoned is not in flight any more,
but its registration goes on counting it as pending.

At rest every registered scope has been read well since it was registered, unless a read of it has
been abandoned (`loaded_or_abandoned_of_atRest`).  An abandoned read can leave a scope registered
that nobody has ever read (`not_hasLoaded_of_atRest`): no later failure takes the scope out, since
the abandoned read still counts as pending.
-/

namespace FeatureFlags.Cache

variable {s : Slot} {reads : List Read}

/-- Whether no read is in flight. -/
def History.AtRest (h : History) : Prop := ∀ q ∈ h.reads, q.outcome ≠ none

instance (h : History) : Decidable h.AtRest :=
  inferInstanceAs <| Decidable (∀ q ∈ h.reads, q.outcome ≠ none)

/-- Whether a scope has been read well since it was registered. -/
def History.HasLoaded (h : History) (scope : Scope) : Prop :=
  ∃ q ∈ h.readsOn scope, q.outcome = some .loaded

instance (h : History) (scope : Scope) : Decidable (h.HasLoaded scope) :=
  inferInstanceAs <| Decidable (∃ q ∈ h.readsOn scope, q.outcome = some .loaded)

/-! ## One registration -/

/-- If no read is in flight, a registration is kept up by a read that is loaded or by one that has
been abandoned. -/
theorem Accounts.loaded_or_abandoned (ha : Accounts s reads) (hidle : s.isIdle = false)
    (hrest : ∀ q ∈ reads, q.outcome ≠ none) :
    (∃ q ∈ reads, q.outcome = some .loaded) ∨ ∃ q ∈ reads, q.outcome = some .abandoned := by
  obtain ⟨q, hq, ho⟩ := ha.exists_not_failed hidle
  rcases Outcome.ne_failed_iff.1 ho with hl | hnone | hab
  · exact Or.inl ⟨q, hq, hl⟩
  · exact absurd hnone (hrest q hq)
  · exact Or.inr ⟨q, hq, hab⟩

/-! ## Every registration -/

/-- Whenever no read is in flight, every scope that is counted and that has statistics has been
read well since it was registered, or else a read of it has been abandoned since then.  In the
second case alone its generation can be zero, and then it serves nothing. -/
theorem loaded_or_abandoned_of_atRest (actions : List Action)
    (hrest : (History.start.run actions).AtRest) :
    let h := History.start.run actions
    h.cache.scopeCount = h.cache.slots.keys.length ∧
    (∀ scope, (h.cache.stats? scope).isSome = true ↔ scope ∈ h.cache.slots.keys) ∧
    ∀ scope stats, h.cache.stats? scope = some stats →
      (0 < stats.generation ∧ h.HasLoaded scope) ∨
      (stats.generation = 0 ∧ ¬h.HasLoaded scope ∧ h.cache.flags scope = .empty ∧
        ∃ q ∈ h.readsOn scope, q.outcome = some .abandoned) := by
  intro h
  have hi : Inv h := inv_run actions
  refine ⟨(Table.length_keys _).symm, ?_, ?_⟩
  · intro scope
    rw [isSome_stats?, Table.mem_keys_iff]
  · intro scope stats hstats
    obtain ⟨s, hs, rfl⟩ := stats?_eq_some_iff.1 hstats
    have ha := hi.accounts hs
    have hreads : ∀ q ∈ h.readsOn scope, q.outcome ≠ none :=
      fun q hq => hrest q (History.mem_readsOn_iff.1 hq).1
    by_cases hg : s.generation = 0
    · have hnone := ha.generation_eq_zero_iff.1 hg
      have hnot : ¬h.HasLoaded scope := by
        rintro ⟨q, hq, hl⟩
        exact hnone q hq hl
      refine Or.inr ⟨hg, hnot, ?_, ?_⟩
      · rw [flags_of_registered hs]
        exact ha.flags_eq_empty hg
      · exact (ha.loaded_or_abandoned (hi.not_idle hs) hreads).resolve_left hnot
    · have hloaded : h.HasLoaded scope := Classical.byContradiction fun hnot =>
        hg (ha.generation_eq_zero_iff.2 fun q hq hl => hnot ⟨q, hq, hl⟩)
      exact Or.inl ⟨Nat.pos_of_ne_zero hg, hloaded⟩

/-- Two scopes are read; the read of one is loaded and that of the other abandoned. -/
def oneOfTwoAbandoned : List Action :=
  [.begin ⟨"shop", "live"⟩ [default] default, .begin ⟨"shop", "test"⟩ [default] default,
    .finish 1 .abandoned default, .finish 0 .loaded default]

theorem loaded_or_abandoned_of_atRest_oneOfTwoAbandoned :
    (History.start.run oneOfTwoAbandoned).AtRest ∧
    (History.start.run oneOfTwoAbandoned).cache.stats? ⟨"shop", "live"⟩ = some ⟨1, default, 1⟩ ∧
    (History.start.run oneOfTwoAbandoned).HasLoaded ⟨"shop", "live"⟩ := by
  have hrest : (History.start.run oneOfTwoAbandoned).AtRest := by decide
  have hstats : (History.start.run oneOfTwoAbandoned).cache.stats? ⟨"shop", "live"⟩ =
      some ⟨1, default, 1⟩ := by rfl
  obtain ⟨_, _, hscope⟩ := loaded_or_abandoned_of_atRest oneOfTwoAbandoned hrest
  rcases hscope _ _ hstats with ⟨_, hloaded⟩ | ⟨hg, _⟩
  · exact ⟨hrest, hstats, hloaded⟩
  · cases hg

/-- A read of a scope that was not registered is abandoned, and the next one fails. -/
def abandonedThenFailed : List Action :=
  [.begin ⟨"shop", "live"⟩ [] default, .finish 0 .abandoned default,
    .begin ⟨"shop", "live"⟩ [] default, .finish 1 .failed default]

/-- Not every scope that is registered at rest has been read well: an abandoned read keeps its
scope registered although nobody waits for it, and although no read of the scope ever ends well. -/
theorem not_hasLoaded_of_atRest :
    ¬∀ (actions : List Action) (scope : Scope), (History.start.run actions).AtRest →
      ((History.start.run actions).cache.stats? scope).isSome = true →
        (History.start.run actions).HasLoaded scope := by
  intro hclaim
  have hrest : (History.start.run abandonedThenFailed).AtRest := by decide
  have hreg : ((History.start.run abandonedThenFailed).cache.stats? ⟨"shop", "live"⟩).isSome =
      true := by rfl
  have hnot : ¬(History.start.run abandonedThenFailed).HasLoaded ⟨"shop", "live"⟩ := by decide
  exact hnot (hclaim abandonedThenFailed ⟨"shop", "live"⟩ hrest hreg)

end FeatureFlags.Cache

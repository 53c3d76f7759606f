import FeatureFlags.Proofs.Cache.Invariant

/-!
# Reads of a scope that has been removed

A read that has begun before the removal of its scope can end at any time after it, even when the
scope has been registered again and the generations of new reads run over its own.  It makes no
difference to anyone who looks at the cache (`sameView_conclude_of_removed`), since a removed read
never finds a registration (`Inv.slotOf?_eq_none_of_removed`).
-/

namespace FeatureFlags.Cache

/-- Two caches show the same to everyone who looks at them. -/
structure SameView (c d : Cache) : Prop where
  flags : ∀ scope, c.flags scope = d.flags scope
  flag? : ∀ scope key, c.flag? scope key = d.flag? scope key
  stats? : ∀ scope, c.stats? scope = d.stats? scope
  scopeCount : c.scopeCount = d.scopeCount
  initialized : c.initialized = d.initialized

theorem SameView.refl (c : Cache) : SameView c c :=
  ⟨fun _ => rfl, fun _ _ => rfl, fun _ => rfl, rfl, rfl⟩

/-- A read whose scope has been removed since it began finds no registration. -/
theorem Inv.slotOf?_eq_none_of_removed {h : History} {q : Read} (hi : Inv h) (hq : q ∈ h.reads)
    (hr : q.removed = true) : h.cache.slotOf? q.ticket = none := by
  have hlost : ¬h.Holds q := by
    intro hhold
    rw [hi.not_removed q hq hhold] at hr
    cases hr
  rw [hi.holds_iff hq] at hlost
  exact Option.not_isSome_iff_eq_none.1 hlost

/-- A read that has begun before a removal of its scope is marked as removed for ever. -/
theorem History.exists_removed_read {h : History} {place : Nat} {q : Read} {scope : Scope}
    (hq : h.reads[place]? = some q) (hscope : q.scope = scope) (after : List Action) :
    ∃ q', (h.run (.remove scope :: after)).reads[place]? = some q' ∧ q'.ticket = q.ticket ∧
      q'.removed = true := by
  have hmarked : (h.remove scope).reads[place]? = some (q.markRemoved scope) := by
    rw [History.remove, List.getElem?_map, hq]
    rfl
  obtain ⟨q', hq', hb⟩ := exists_later_read after hmarked
  refine ⟨q', hq', ?_, hb.removed (Read.removed_markRemoved_self hscope)⟩
  rw [hb.ticket, Read.ticket_markRemoved]

/-- However a read ends that has begun before a removal of its scope, and whatever has happened
since, its end changes nothing that can be seen of any scope. -/
theorem sameView_conclude_of_removed (before after : List Action) (scope : Scope) (place : Nat)
    (q : Read) (hq : (History.start.run before).reads[place]? = some q) (hscope : q.scope = scope)
    (e : ReadEnd) (now : Timestamp) :
    let c := (History.start.run (before ++ .remove scope :: after)).cache
    SameView (c.conclude q.ticket e now) c := by
  intro c
  have hi : Inv (History.start.run (before ++ .remove scope :: after)) := inv_run _
  obtain ⟨q', hq', hticket, hr⟩ := History.exists_removed_read hq hscope after
  rw [← History.run_append] at hq'
  have hnone := hi.slotOf?_eq_none_of_removed (List.mem_of_getElem? hq') hr
  rw [hticket] at hnone
  rw [conclude_of_slotOf?_eq_none hnone]
  exact SameView.refl c

/-- A read in flight when its scope is removed; the scope is registered again after that, and the
new read has the same generation. -/
theorem sameView_conclude_of_removed_registered_again :
    (History.start.run [.begin ⟨"shop", "live"⟩ [default] default]).reads[0]? =
      some (.start ⟨⟨"shop", "live"⟩, 0, 1⟩ [default]) ∧
    SameView
      ((History.start.run [.begin ⟨"shop", "live"⟩ [default] default, .remove ⟨"shop", "live"⟩,
        .begin ⟨"shop", "live"⟩ [] default]).cache.conclude ⟨⟨"shop", "live"⟩, 0, 1⟩
        (.loaded [default]) default)
      (History.start.run [.begin ⟨"shop", "live"⟩ [default] default, .remove ⟨"shop", "live"⟩,
        .begin ⟨"shop", "live"⟩ [] default]).cache := by
  have hread : (History.start.run [.begin ⟨"shop", "live"⟩ [default] default]).reads[0]? =
      some (.start ⟨⟨"shop", "live"⟩, 0, 1⟩ [default]) := by rfl
  exact ⟨hread, sameView_conclude_of_removed [.begin ⟨"shop", "live"⟩ [default] default]
    [.begin ⟨"shop", "live"⟩ [] default] ⟨"shop", "live"⟩ 0 _ hread rfl _ _⟩

end FeatureFlags.Cache

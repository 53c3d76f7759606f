import FeatureFlags.Proofs.Cache.Entries
import FeatureFlags.Proofs.Cache.Invariant

/-!
# What a refresh leaves behind

A refresh is a read that begins and ends without a break.  In every cache that a run has left, its
generation is higher than the one that is served, so what it finds is served at once
(`flags_refresh_of_ok`).  A refresh that fails changes nothing that is served, even if it takes a
registration away (`flags_refresh_of_error`).
-/

namespace FeatureFlags.Cache

variable {c : Cache} {source : Source} {scope : Scope}

/-- Whether some run leaves the cache. -/
def Reachable (c : Cache) : Prop := ∃ actions, c = (History.start.run actions).cache

theorem Reachable.refresh (hc : c.Reachable) (source : Source) (scope : Scope) (now : Timestamp) :
    (c.refresh source scope now).2.Reachable := by
  obtain ⟨actions, rfl⟩ := hc
  refine ⟨actions ++ [.refresh source scope now], ?_⟩
  rw [History.run_append]
  exact (History.cache_refresh _ source scope now).symm

theorem Reachable.loadAll (hc : c.Reachable) (source : Source) (now : Timestamp) :
    (c.loadAll source now).2.Reachable := by
  obtain ⟨actions, rfl⟩ := hc
  refine ⟨actions ++ [.loadAll source now], ?_⟩
  rw [History.run_append]
  exact (History.cache_loadAll _ source now).symm

/-- What a read that begins finds of its scope: either the registration that is there, or a new
one. -/
structure Begun (c : Cache) (scope : Scope) (now : Timestamp) (s : Slot) : Prop where
  begin_eq : ∃ nextNumber, c.begin scope now = (⟨scope, s.number, s.latest + 1⟩,
    { c with slots := c.slots.insert scope s.beginRead, nextNumber })
  flags_eq : s.flags = c.flags scope
  generation_le_latest : s.generation ≤ s.latest
  flags_eq_empty : s.generation = 0 → s.flags = .empty

theorem Reachable.begun_of_registered (hc : c.Reachable) {s : Slot}
    (hs : c.slots.get? scope = some s) (now : Timestamp) : Begun c scope now s := by
  obtain ⟨actions, rfl⟩ := hc
  have ha := (inv_run actions).accounts hs
  exact ⟨⟨_, begin_of_registered now hs⟩, (flags_of_registered hs).symm, ha.generation_le_latest,
    ha.flags_eq_empty⟩

theorem begun_of_unregistered (hs : c.slots.get? scope = none) (now : Timestamp) :
    Begun c scope now (.fresh c.nextNumber now) :=
  ⟨⟨_, begin_of_unregistered now hs⟩, (flags_of_unregistered hs).symm, Nat.le_refl 0,
    fun _ => rfl⟩

theorem Reachable.exists_begun (hc : c.Reachable) (scope : Scope) (now : Timestamp) :
    ∃ s, Begun c scope now s := by
  cases hs : c.slots.get? scope with
  | some s => exact ⟨s, hc.begun_of_registered hs now⟩
  | none => exact ⟨_, begun_of_unregistered hs now⟩

namespace Begun

variable {s : Slot} {now : Timestamp}

/-- What the end of the read leaves of its registration, and of the others. -/
theorem get?_conclude (hb : Begun c scope now s) (e : ReadEnd) (now' : Timestamp)
    (scope' : Scope) :
    ((c.begin scope now).2.conclude (c.begin scope now).1 e now').slots.get? scope' =
      if scope' = scope then s.beginRead.endRead? (s.latest + 1) now' e
      else c.slots.get? scope' := by
  obtain ⟨nextNumber, hbegin⟩ := hb.begin_eq
  rw [hbegin]
  split
  · next he =>
    rw [he]
    refine get?_conclude_self (t := ⟨scope, s.number, s.latest + 1⟩) ?_ e now'
    exact slotOf?_eq_some_iff.2 ⟨Table.get?_insert_self _ _ _, rfl⟩
  · next hne =>
    rw [get?_conclude_of_ne hne]
    exact Table.get?_insert_of_ne _ hne _

/-- Nothing that was served before has a higher generation. -/
theorem install_beginRead (hb : Begun c scope now s) (flags : ScopeFlags) :
    s.beginRead.install (s.latest + 1) flags now =
      { s.beginRead with generation := s.latest + 1, flags, loadedAt := now } := by
  have hlt : s.beginRead.generation < s.latest + 1 := Nat.lt_succ_of_le hb.generation_le_latest
  rw [Slot.install, if_pos hlt]

/-- If the read fails and its registration goes away, nothing was served from it. -/
theorem flags_endRead?_failed (hb : Begun c scope now s) :
    ((s.beginRead.endRead? (s.latest + 1) now .failed).map Slot.flags).getD .empty =
      c.flags scope := by
  rw [Slot.endRead?, ← hb.flags_eq]
  split
  · next hidle =>
    rw [Slot.isIdle, Bool.and_eq_true, beq_iff_eq, beq_iff_eq] at hidle
    exact (hb.flags_eq_empty hidle.2).symm
  · rfl

end Begun

theorem flags_eq_getD (c : Cache) (scope : Scope) :
    c.flags scope = ((c.slots.get? scope).map Slot.flags).getD .empty := by
  rw [flags]
  cases c.slots.get? scope <;> rfl

/-- What a refresh finds is served at once, and the other scopes are left alone. -/
theorem Reachable.flags_refresh_of_ok (hc : c.Reachable) {entries : List Entry}
    (hload : source.load scope = .ok entries) (now : Timestamp) (scope' : Scope) :
    (c.refresh source scope now).2.flags scope' =
      if scope' = scope then flagsOf entries else c.flags scope' := by
  obtain ⟨s, hb⟩ := hc.exists_begun scope now
  simp only [Cache.refresh, hload, flags_eq_getD, hb.get?_conclude]
  split
  · exact congrArg Slot.flags (hb.install_beginRead (flagsOf entries))
  · rfl

/-- A refresh that fails changes nothing that is served. -/
theorem Reachable.flags_refresh_of_error (hc : c.Reachable) {e : ReadError}
    (hload : source.load scope = .error e) (now : Timestamp) (scope' : Scope) :
    (c.refresh source scope now).2.flags scope' = c.flags scope' := by
  obtain ⟨s, hb⟩ := hc.exists_begun scope now
  simp only [Cache.refresh, hload, flags_eq_getD _ scope', hb.get?_conclude]
  split
  · next he =>
    rw [he, ← flags_eq_getD]
    exact hb.flags_endRead?_failed
  · rfl

/-- A refresh fails exactly if the source fails. -/
theorem fst_refresh (c : Cache) (source : Source) (scope : Scope) (now : Timestamp) :
    (c.refresh source scope now).1 = (source.load scope).map fun _ => () := by
  rw [Cache.refresh]
  cases source.load scope <;> rfl

end FeatureFlags.Cache

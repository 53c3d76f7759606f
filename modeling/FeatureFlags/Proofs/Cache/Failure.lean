import FeatureFlags.Proofs.Cache.Refresh
import FeatureFlags.Proofs.Cache.Removal
import FeatureFlags.Proofs.Table

/-!
# Reads that fail

A read that fails has changed the cache on its way: it may have registered its scope, it has taken
a generation and it has counted as pending.

* `SameScope` says that two caches have the same registration of a scope and show the same of it.
* `Reachable.get?_fail`: all that is left of a read that begins and fails at once is the generation
  that it has taken.
* `Inv.finish_failed`: a read that fails at any time takes nothing away from anyone, except its own
  registration if all reads on it have failed by then.

`failed_read_leaves_view` puts these together.
-/

namespace FeatureFlags.Cache

variable {c d : Cache} {h : History} {scope : Scope} {s : Slot} {now now' : Timestamp}

/-! ## What is shown of a scope -/

/-- Two caches have the same registration of a scope, if any, and show the same of it. -/
structure SameScope (c d : Cache) (scope : Scope) : Prop where
  number : (c.slots.get? scope).map Slot.number = (d.slots.get? scope).map Slot.number
  flags : c.flags scope = d.flags scope
  stats? : c.stats? scope = d.stats? scope

theorem SameScope.refl (c : Cache) (scope : Scope) : SameScope c c scope := ⟨rfl, rfl, rfl⟩

theorem SameScope.trans {e : Cache} (h : SameScope c d scope) (h' : SameScope d e scope) :
    SameScope c e scope :=
  ⟨h.number.trans h'.number, h.flags.trans h'.flags, h.stats?.trans h'.stats?⟩

/-- The same registration shows the same. -/
theorem sameScope_of_get? (h : c.slots.get? scope = d.slots.get? scope) :
    SameScope c d scope where
  number := by rw [h]
  flags := by rw [flags_eq_getD, flags_eq_getD, h]
  stats? := by rw [Cache.stats?, Cache.stats?, h]

/-- How many reads have begun on a registration and have not ended makes no difference. -/
theorem sameScope_of_recount {latest pending : Nat} (hd : d.slots.get? scope = some s)
    (hc : c.slots.get? scope = some { s with latest, pending }) : SameScope c d scope where
  number := by rw [hc, hd]; rfl
  flags := by rw [flags_of_registered hc, flags_of_registered hd]
  stats? := by rw [Cache.stats?, Cache.stats?, hc, hd]; rfl

/-- Caches that show the same of every scope count the same scopes. -/
theorem sameView_of_sameScope (h : ∀ scope, SameScope c d scope)
    (hinit : c.initialized = d.initialized) : SameView c d where
  flags scope := (h scope).flags
  flag? scope key := by rw [flag?, flag?, (h scope).flags]
  stats? scope := (h scope).stats?
  scopeCount := by
    apply Table.size_eq_of_mem_keys
    intro scope
    rw [Table.mem_keys_iff, Table.mem_keys_iff, ← isSome_stats?, ← isSome_stats?, (h scope).stats?]
  initialized := hinit

/-! ## A read that begins and fails at once -/

@[simp] theorem initialized_begin (c : Cache) (scope : Scope) (now : Timestamp) :
    (c.begin scope now).2.initialized = c.initialized := by
  rw [begin]

@[simp] theorem initialized_conclude (c : Cache) (t : Ticket) (e : ReadEnd) (now : Timestamp) :
    (c.conclude t e now).initialized = c.initialized := by
  rw [conclude]
  split
  · rfl
  · cases e with
    | loaded entries => rfl
    | failed =>
      dsimp only
      split <;> rfl
    | abandoned => rfl

theorem Reachable.not_idle (hc : c.Reachable) (hs : c.slots.get? scope = some s) :
    s.isIdle = false := by
  obtain ⟨actions, rfl⟩ := hc
  exact (inv_run actions).not_idle hs

/-- A read that begins and fails at once leaves nothing but the generation that it has taken. -/
theorem Reachable.get?_fail (hc : c.Reachable) (scope scope' : Scope) (now now' : Timestamp) :
    ((c.begin scope now).2.conclude (c.begin scope now).1 .failed now').slots.get? scope' =
      if scope' = scope then
        (c.slots.get? scope).map fun s => { s with latest := s.latest + 1 }
      else c.slots.get? scope' := by
  cases hs : c.slots.get? scope with
  | some s =>
    -- Another read is pending, or something was served before.
    have hidle : s.beginRead.release.isIdle = false := by
      show s.isIdle = false
      exact hc.not_idle hs
    rw [(hc.begun_of_registered hs now).get?_conclude, Slot.endRead?, hidle]
    rfl
  | none =>
    rw [(begun_of_unregistered hs now).get?_conclude]
    rfl

theorem Reachable.sameScope_fail (hc : c.Reachable) (scope scope' : Scope)
    (now now' : Timestamp) :
    SameScope ((c.begin scope now).2.conclude (c.begin scope now).1 .failed now') c scope' := by
  have hget := hc.get?_fail scope scope' now now'
  split at hget
  · next he =>
    subst he
    cases hs : c.slots.get? scope' with
    | none =>
      apply sameScope_of_get?
      rw [hget, hs]
      rfl
    | some s =>
      rw [hs] at hget
      exact sameScope_of_recount hs hget
  · exact sameScope_of_get? hget

theorem Reachable.sameView_fail (hc : c.Reachable) (scope : Scope) (now now' : Timestamp) :
    SameView ((c.begin scope now).2.conclude (c.begin scope now).1 .failed now') c :=
  sameView_of_sameScope (fun scope' => hc.sameScope_fail scope scope' now now')
    (by rw [initialized_conclude, initialized_begin])

/-- A refresh that fails is a read that begins and fails at once. -/
theorem refresh_of_error {source : Source} {e : ReadError} (hload : source.load scope = .error e)
    (now : Timestamp) : c.refresh source scope now =
      (.error e, (c.begin scope now).2.conclude (c.begin scope now).1 .failed now) := by
  simp only [refresh, hload]

/-! ## A read that fails at any time -/

/-- Whether all reads on the registration of a scope have failed. -/
def History.AllFailed (h : History) (scope : Scope) : Prop :=
  ∀ q ∈ h.readsOn scope, q.outcome = some .failed

instance (h : History) (scope : Scope) : Decidable (h.AllFailed scope) :=
  inferInstanceAs <| Decidable (∀ q ∈ h.readsOn scope, q.outcome = some .failed)

/-- A read that fails leaves every registration as it was, except that its own goes away if all
reads on it have failed by then; nothing was served from it in this case. -/
theorem Inv.finish_failed {place : Nat} {q : Read} (hi : Inv h) (hq : h.reads[place]? = some q)
    (hf : q.outcome = none) (now : Timestamp) :
    let h' := h.finish place .failed now
    (∀ scope, scope ≠ q.scope → SameScope h'.cache h.cache scope) ∧
    (q ∈ h.readsOn q.scope ∧ h'.AllFailed q.scope →
      h'.cache.slots.get? q.scope = none ∧ h.cache.flags q.scope = .empty) ∧
    (¬(q ∈ h.readsOn q.scope ∧ h'.AllFailed q.scope) →
      SameScope h'.cache h.cache q.scope) := by
  intro h'
  obtain ⟨first, rest, hreads, hset⟩ := exists_split_of_getElem? hq
  have hafter :
      h' = ⟨h.cache.conclude q.ticket .failed now, first ++ q.finish .failed :: rest⟩ := by
    rw [← hset]
    exact History.finish_of_inFlight .failed now hq hf
  by_cases hhold : h.Holds q
  · obtain ⟨s, hs, hslot, ha⟩ := hi.exists_slot hreads hhold
    have hon : q.isOn q.scope = true := Read.isOn_iff.2 ⟨rfl, hhold.2⟩
    have hall : s.release.isIdle = true ↔ h'.AllFailed q.scope := by
      rw [History.AllFailed, hafter, History.readsOn, filter_isOn_finish, if_pos hon]
      exact (ha.failed hf).isIdle_iff
    have hget : ∀ scope, h'.cache.slots.get? scope =
        if scope = q.scope then s.endRead? q.generation now .failed
        else h.cache.slots.get? scope := by
      rw [hafter]
      exact get?_conclude hs .failed now
    refine ⟨fun scope hne => ?other, fun hgone => ?gone, fun hstays => ?stays⟩
    case other =>
      apply sameScope_of_get?
      rw [hget, if_neg hne]
    case gone =>
      have hidle := hall.2 hgone.2
      refine ⟨?_, ?_⟩
      · rw [hget, if_pos rfl, Slot.endRead?, if_pos hidle]
      · rw [Slot.isIdle, Bool.and_eq_true, beq_iff_eq, beq_iff_eq] at hidle
        rw [flags_of_registered hslot]
        exact ha.flags_eq_empty hidle.2
    case stays =>
      have hmem : q ∈ h.readsOn q.scope :=
        History.mem_readsOn_iff.2 ⟨List.mem_of_getElem? hq, rfl, hhold.2⟩
      have hidle : ¬s.release.isIdle = true := fun hidle => hstays ⟨hmem, hall.1 hidle⟩
      apply sameScope_of_recount hslot
      rw [hget, if_pos rfl, Slot.endRead?, if_neg hidle]
      rfl
  · have hnone : h.cache.slotOf? q.ticket = none := by
      rw [hi.holds_iff (List.mem_of_getElem? hq)] at hhold
      exact Option.not_isSome_iff_eq_none.1 hhold
    have hsame : h'.cache = h.cache := by
      rw [hafter]
      exact conclude_of_slotOf?_eq_none hnone .failed now
    rw [hsame]
    refine ⟨fun scope _ => .refl _ scope, fun hgone => ?_, fun _ => .refl _ q.scope⟩
    have hreplaced : q.replaced = false := (History.mem_readsOn_iff.1 hgone.1).2.2
    have hunregistered : h.cache.slots.get? q.scope = none :=
      Option.not_isSome_iff_eq_none.1 fun hreg => hhold ⟨hreg, hreplaced⟩
    exact ⟨hunregistered, flags_of_unregistered hunregistered⟩

/-! ## Main result -/

/-- A refresh that fails gives back the error of the source and changes nothing that can be seen of
any scope, whatever reads are in flight or abandoned, and even if time passes before it fails.  Any
read in flight that fails changes nothing that is served and nothing about other scopes.  It takes
the registration of its scope away exactly if it is on this registration and all reads on it have
failed then, so that none of them was loaded, is in flight or was abandoned. -/
theorem failed_read_leaves_view (actions : List Action) :
    let h := History.start.run actions
    (∀ source scope now e, source.load scope = .error e →
      (h.cache.refresh source scope now).1 = .error e ∧
        SameView (h.cache.refresh source scope now).2 h.cache) ∧
    (∀ scope entries now now',
      SameView ((h.begin scope entries now).finish h.reads.length .failed now').cache h.cache) ∧
    ∀ place q now, h.reads[place]? = some q → q.outcome = none →
      let h' := h.finish place .failed now
      (∀ scope, h'.cache.flags scope = h.cache.flags scope) ∧
      (∀ scope key, h'.cache.flag? scope key = h.cache.flag? scope key) ∧
      (∀ scope, scope ≠ q.scope → h'.cache.stats? scope = h.cache.stats? scope) ∧
      (q ∈ h.readsOn q.scope ∧ h'.AllFailed q.scope → h'.cache.stats? q.scope = none) ∧
      (¬(q ∈ h.readsOn q.scope ∧ h'.AllFailed q.scope) →
        h'.cache.stats? q.scope = h.cache.stats? q.scope) := by
  intro h
  have hc : h.cache.Reachable := ⟨actions, rfl⟩
  refine ⟨?_, ?_, ?_⟩
  · intro source scope now e hload
    rw [refresh_of_error hload]
    exact ⟨rfl, hc.sameView_fail scope now now⟩
  · intro scope entries now now'
    rw [History.cache_finish_begin]
    exact hc.sameView_fail scope now now'
  · intro place q now hq hf h'
    obtain ⟨hother, hgone, hstays⟩ := (inv_run actions).finish_failed hq hf now
    have hflags : ∀ scope, h'.cache.flags scope = h.cache.flags scope := by
      intro scope
      by_cases hscope : scope = q.scope
      · subst hscope
        by_cases hlast : q ∈ h.readsOn q.scope ∧ h'.AllFailed q.scope
        · rw [flags_of_unregistered (hgone hlast).1, (hgone hlast).2]
        · exact (hstays hlast).flags
      · exact (hother scope hscope).flags
    refine ⟨hflags, fun scope key => ?_, fun scope hne => (hother scope hne).stats?,
      fun hlast => ?_, fun hlast => (hstays hlast).stats?⟩
    · rw [flag?, flag?, hflags]
    · rw [Cache.stats?, (hgone hlast).1]
      rfl

/-- A scope that is loaded and read again, and another one that is read for the first time. -/
def secondAndFirstRead : List Action :=
  [.begin ⟨"shop", "live"⟩ [default] default, .finish 0 .loaded default,
    .begin ⟨"shop", "live"⟩ [] default, .begin ⟨"shop", "test"⟩ [] default]

theorem failed_read_leaves_view_secondAndFirstRead :
    SameView ((History.start.run secondAndFirstRead).cache.refresh
        ⟨.ok [], fun scope => .error ⟨scope.key, "gone"⟩⟩ ⟨"shop", "live"⟩ default).2
      (History.start.run secondAndFirstRead).cache ∧
    (History.start.run secondAndFirstRead).reads[1]? =
      some (.start ⟨⟨"shop", "live"⟩, 0, 2⟩ []) ∧
    ((History.start.run secondAndFirstRead).finish 1 .failed default).cache.stats?
      ⟨"shop", "live"⟩ = some ⟨1, default, 1⟩ ∧
    (History.start.run secondAndFirstRead).reads[2]? =
      some (.start ⟨⟨"shop", "test"⟩, 1, 1⟩ []) ∧
    ((History.start.run secondAndFirstRead).finish 2 .failed default).cache.stats?
      ⟨"shop", "test"⟩ = none := by
  have hsecond : (History.start.run secondAndFirstRead).reads[1]? =
      some (.start ⟨⟨"shop", "live"⟩, 0, 2⟩ []) := by rfl
  have hfirst : (History.start.run secondAndFirstRead).reads[2]? =
      some (.start ⟨⟨"shop", "test"⟩, 1, 1⟩ []) := by rfl
  obtain ⟨hrefresh, -, hfails⟩ := failed_read_leaves_view secondAndFirstRead
  obtain ⟨-, -, -, -, hstays⟩ := hfails 1 _ default hsecond rfl
  obtain ⟨-, -, -, hgone, -⟩ := hfails 2 _ default hfirst rfl
  refine ⟨(hrefresh _ ⟨"shop", "live"⟩ default _ rfl).2, hsecond, ?_, hfirst, hgone ⟨?_, ?_⟩⟩
  · exact hstays fun hlast => absurd hlast.2 (by decide)
  · exact History.mem_readsOn_iff.2 ⟨List.mem_of_getElem? hfirst, rfl, rfl⟩
  · decide

end FeatureFlags.Cache

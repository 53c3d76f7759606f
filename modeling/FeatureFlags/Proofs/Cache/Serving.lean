import FeatureFlags.Proofs.Cache.Invariant

/-!
# What a cache serves

After any run, in which reads of any scopes begin and end in any order between loads of all scopes
and removals:

* a registered scope serves what one read has found, the one with the highest generation among the
  loaded reads on its registration, and the generation never decreases while it stays registered
  (`serves_newest_read`);
* a scope is registered exactly if some read since its last removal has not failed, and what a
  loaded read has found is only replaced by what a later one has found
  (`registered_iff_read_stands`).
-/

namespace FeatureFlags.Cache

variable {h : History} {scope : Scope} {s : Slot} {q : Read} {place : Nat}

/-! ## The read that is served -/

/-- The read has the highest generation among the loaded reads on the registration of a scope. -/
structure History.IsNewest (h : History) (scope : Scope) (q : Read) : Prop where
  mem : q ∈ h.readsOn scope
  loaded : q.outcome = some .loaded
  max : ∀ q' ∈ h.readsOn scope, q'.outcome = some .loaded → q'.generation ≤ q.generation

/-- A registration serves its newest read, or nothing if none is loaded. -/
theorem Accounted.newest_or_none (ha : Accounted h) (hs : h.cache.slots.get? scope = some s) :
    (∃ q, h.IsNewest scope q ∧ s.generation = q.generation ∧ s.flags = q.flags) ∨
      (∀ q ∈ h.readsOn scope, q.outcome ≠ some .loaded) ∧ s.generation = 0 ∧
        s.flags = .empty := by
  have hacc := ha.accounts hs
  rcases hacc.served with ⟨hg, hflags⟩ | ⟨q, hq, hl, hg, hflags⟩
  · refine Or.inr ⟨fun q hq hl => ?_, hg, hflags⟩
    have hle := hacc.le_served q hq hl
    have hpos := hacc.inOrder.pos q hq
    omega
  · refine Or.inl ⟨q, ⟨hq, hl, fun q' hq' hl' => ?_⟩, hg.symm, hflags⟩
    rw [hg]
    exact hacc.le_served q' hq' hl'

/-- Reads on one registration have taken their generations in the order in which they began. -/
theorem Accounted.pairwise_readsOn (ha : Accounted h) (hs : h.cache.slots.get? scope = some s) :
    (h.readsOn scope).Pairwise fun a b => a.generation < b.generation :=
  (ha.accounts hs).inOrder.increasing

/-- Of two reads on one registration the one with the higher generation has begun later. -/
theorem Accounted.place_le (ha : Accounted h) (hs : h.cache.slots.get? scope = some s)
    {place' : Nat} {q' : Read} (hq : h.reads[place]? = some q) (hq' : h.reads[place']? = some q')
    (hon : q.isOn scope = true) (hon' : q'.isOn scope = true)
    (hle : q.generation ≤ q'.generation) : place ≤ place' := by
  have hpair := ha.pairwise_readsOn hs
  rw [History.readsOn, List.pairwise_filter, List.pairwise_iff_getElem] at hpair
  refine Nat.le_of_not_lt fun hlt => ?_
  obtain ⟨hbound, he⟩ := List.getElem?_eq_some_iff.1 hq
  obtain ⟨hbound', he'⟩ := List.getElem?_eq_some_iff.1 hq'
  have hgt := hpair place' place hbound' hbound hlt (by rw [he']; exact hon')
    (by rw [he]; exact hon)
  rw [he, he'] at hgt
  omega

/-- A read that stands has its registration. -/
theorem Accounted.holds_of_not_failed (ha : Accounted h) (hq : q ∈ h.reads)
    (hr : q.removed = false) (ho : q.outcome ≠ some .failed) : h.Holds q :=
  Classical.byContradiction fun hn => ho (ha.failed q hq hr hn)

/-! ## A scope that stays registered -/

/-- Whether a scope is registered all along a run. -/
def History.StaysRegistered (h : History) (scope : Scope) (actions : List Action) : Prop :=
  ∀ part, part <+: actions → ((h.run part).cache.stats? scope).isSome = true

/-- A read that begins takes no registration away. -/
theorem isSome_get?_begin (hreg : (h.cache.slots.get? scope).isSome = true) (scope' : Scope)
    (entries : List Entry) (now : Timestamp) :
    ((h.begin scope' entries now).cache.slots.get? scope).isSome = true := by
  rw [History.cache_begin]
  cases hs : h.cache.slots.get? scope' with
  | some s =>
    rw [begin_of_registered now hs, Table.get?_insert]
    split
    · rfl
    · exact hreg
  | none =>
    rw [begin_of_unregistered now hs, Table.get?_insert]
    split
    · rfl
    · exact hreg

/-- Nor does a read that is loaded. -/
theorem isSome_get?_finish_loaded (hreg : (h.cache.slots.get? scope).isSome = true) (place : Nat)
    (now : Timestamp) :
    ((h.finish place .loaded now).cache.slots.get? scope).isSome = true := by
  rcases h.finish_cases place .loaded now with he | ⟨q, _, _, he⟩
  · rw [he]
    exact hreg
  · rw [he]
    cases hs : h.cache.slotOf? q.ticket with
    | none =>
      rw [conclude_of_slotOf?_eq_none hs]
      exact hreg
    | some s =>
      rw [get?_conclude hs]
      split
      · rfl
      · exact hreg

/-- Between two histories a scope has not been registered anew. -/
def SameRegistration (scope : Scope) (h h' : History) : Prop :=
  ∀ (place : Nat) (q : Read), h.reads[place]? = some q → q.scope = scope →
    ∃ q' : Read, h'.reads[place]? = some q' ∧ q'.scope = scope ∧ q'.replaced = q.replaced

namespace SameRegistration

variable {h' h'' : History}

theorem refl (scope : Scope) (h : History) : SameRegistration scope h h :=
  fun _ q hq hscope => ⟨q, hq, hscope, rfl⟩

theorem trans (h₁ : SameRegistration scope h h') (h₂ : SameRegistration scope h' h'') :
    SameRegistration scope h h'' := by
  intro place q hq hscope
  obtain ⟨q', hq', hscope', hr'⟩ := h₁ place q hq hscope
  obtain ⟨q'', hq'', hscope'', hr''⟩ := h₂ place q' hq' hscope'
  exact ⟨q'', hq'', hscope'', hr''.trans hr'⟩

/-- A read of a registered scope does not register it anew, and a read of another scope does not
matter. -/
theorem begin (hreg : (h.cache.slots.get? scope).isSome = true) (scope' : Scope)
    (entries : List Entry) (now : Timestamp) :
    SameRegistration scope h (h.begin scope' entries now) := by
  intro place q hq hscope
  have hlt : place < h.reads.length := (List.getElem?_eq_some_iff.1 hq).1
  rw [History.begin]
  dsimp only
  split
  · exact ⟨q, by rw [List.getElem?_append_left hlt]; exact hq, hscope, rfl⟩
  · next hnot =>
    have hne : q.scope ≠ scope' := by
      intro he
      rw [← he, hscope] at hnot
      exact hnot hreg
    refine ⟨q, ?_, hscope, rfl⟩
    rw [List.getElem?_append_left (by rw [List.length_map]; exact hlt), List.getElem?_map, hq,
      Option.map_some, Read.markReplaced_of_ne hne]

theorem finish (scope : Scope) (h : History) (place : Nat) (o : Outcome) (now : Timestamp) :
    SameRegistration scope h (h.finish place o now) := by
  intro place' q hq hscope
  rcases h.finish_cases place o now with he | ⟨p, hp, _, he⟩
  · exact ⟨q, by rw [he]; exact hq, hscope, rfl⟩
  · rw [he]
    by_cases hplace : place = place'
    · subst hplace
      obtain rfl : p = q := Option.some.inj (hp.symm.trans hq)
      have hlt : place < h.reads.length := (List.getElem?_eq_some_iff.1 hp).1
      exact ⟨p.finish o, List.getElem?_set_self hlt, hscope, rfl⟩
    · exact ⟨q, by rw [List.getElem?_set_ne hplace]; exact hq, hscope, rfl⟩

theorem remove (scope scope' : Scope) (h : History) :
    SameRegistration scope h (h.remove scope') := by
  intro place q hq hscope
  refine ⟨q.markRemoved scope', ?_, ?_, Read.replaced_markRemoved scope' q⟩
  · rw [History.remove, List.getElem?_map, hq]
    rfl
  · rw [Read.scope_markRemoved]
    exact hscope

theorem refresh (hreg : (h.cache.slots.get? scope).isSome = true) (source : Source)
    (scope' : Scope) (now : Timestamp) :
    SameRegistration scope h (h.refresh source scope' now) := by
  rw [History.refresh]
  split
  · exact (begin hreg scope' _ now).trans (finish scope _ _ _ _)
  · exact (begin hreg scope' _ now).trans (finish scope _ _ _ _)

private theorem loadEach (source : Source) (now : Timestamp) (scopes : List Scope) :
    ∀ h : History, (h.cache.slots.get? scope).isSome = true →
      SameRegistration scope h (h.loadEach source now scopes) := by
  induction scopes with
  | nil =>
    intro h _
    exact refl scope h
  | cons scope' rest ih =>
    intro h hreg
    have hrefresh := refresh hreg source scope' now
    rw [History.loadEach]
    split
    · next hload =>
      refine hrefresh.trans (ih _ ?_)
      rw [History.refresh, hload]
      exact isSome_get?_finish_loaded (isSome_get?_begin hreg scope' _ now) _ now
    · exact hrefresh

/-- An action does not register a scope anew that is registered before it. -/
theorem step (hreg : (h.cache.slots.get? scope).isSome = true) (a : Action) :
    SameRegistration scope h (h.step a) := by
  cases a with
  | begin scope' entries now => exact begin hreg scope' entries now
  | finish place o now => exact finish scope h place o now
  | refresh source scope' now => exact refresh hreg source scope' now
  | loadAll source now =>
    rw [History.step, History.loadAll]
    split
    · exact loadEach source now _ h hreg
    · exact refl scope h
  | remove scope' => exact remove scope scope' h
  | allLoaded => exact refl scope h

/-- A scope that stays registered keeps its registration. -/
theorem run {actions : List Action} (hstays : h.StaysRegistered scope actions) :
    SameRegistration scope h (h.run actions) := by
  induction actions generalizing h with
  | nil => exact refl scope h
  | cons a rest ih =>
    have hreg : (h.cache.slots.get? scope).isSome = true := by
      rw [← isSome_stats?]
      exact hstays [] List.nil_prefix
    refine (step hreg a).trans (ih fun part hpart => ?_)
    exact hstays (a :: part) (List.cons_prefix_cons.2 ⟨rfl, hpart⟩)

end SameRegistration

/-- While a scope stays registered, its generation does not decrease. -/
theorem Inv.generation_le {s' : Slot} (hi : Inv h) (hs : h.cache.slots.get? scope = some s)
    {actions : List Action} (hstays : h.StaysRegistered scope actions)
    (hs' : (h.run actions).cache.slots.get? scope = some s') : s.generation ≤ s'.generation := by
  rcases hi.newest_or_none hs with ⟨q, hq, hg, _⟩ | ⟨_, hg, _⟩
  · -- The read that is served stays loaded, so a later newest read is at least as new.
    obtain ⟨hmem, hscope, hr⟩ := History.mem_readsOn_iff.1 hq.mem
    obtain ⟨place, hplace⟩ := List.mem_iff_getElem?.1 hmem
    obtain ⟨q', hq', hb⟩ := History.exists_later_read actions hplace
    obtain ⟨q'', hq'', _, hr''⟩ := SameRegistration.run hstays place q hplace hscope
    obtain rfl : q' = q'' := Option.some.inj (hq'.symm.trans hq'')
    have hon : q' ∈ (h.run actions).readsOn scope := by
      refine History.mem_readsOn_iff.2 ⟨List.mem_of_getElem? hq', ?_, hr''.trans hr⟩
      rw [Read.scope, hb.ticket]
      exact hscope
    have hle := ((hi.run actions).accounts hs').le_served q' hon (hb.outcome _ hq.loaded)
    have hgen : q'.generation = q.generation := congrArg Ticket.generation hb.ticket
    omega
  · omega

/-- A read that is older than the one that is served does not replace it. -/
theorem Inv.flags_finish_older (hi : Inv h) (hs : h.cache.slots.get? scope = some s)
    (hplace : h.reads[place]? = some q) (hon : q ∈ h.readsOn scope)
    (hlt : q.generation < s.generation) (now : Timestamp) :
    (h.finish place .loaded now).cache.flags scope = h.cache.flags scope := by
  obtain ⟨hmem, hscope, hr⟩ := History.mem_readsOn_iff.1 hon
  rcases h.finish_cases place .loaded now with he | ⟨q', hq', _, he⟩
  · rw [he]
  · obtain rfl : q' = q := Option.some.inj (hq'.symm.trans hplace)
    have hget : h.cache.slots.get? q'.scope = some s := by rw [hscope]; exact hs
    have hslot : h.cache.slotOf? q'.ticket = some s :=
      slotOf?_eq_some_iff.2 ⟨hget, (hi.number_eq_iff q' hmem hget).2 hr⟩
    have hinstall : s.install q'.generation q'.flags now = s :=
      if_neg (Nat.not_lt.2 (Nat.le_of_lt hlt))
    have hafter : (h.finish place .loaded now).cache.slots.get? scope = some s.release := by
      rw [he, get?_conclude hslot, if_pos hscope.symm]
      exact congrArg (fun s => some (Slot.release s)) hinstall
    rw [flags_of_registered hafter, flags_of_registered hs]
    rfl

/-! ## Main results -/

/-- A registered scope serves one read as a whole, the newest that is loaded on its registration,
or nothing at generation zero if there is none; the statistics tell the generation and the number
of the flags.  Generations follow the order in which the reads have begun, a read that ends late
does not replace a newer one, and the generation does not decrease while the scope stays
registered. -/
theorem serves_newest_read (actions : List Action) (scope : Scope) (stats : ScopeStats)
    (hstats : (History.start.run actions).cache.stats? scope = some stats) :
    let h := History.start.run actions
    stats.flagCount = (h.cache.flags scope).size ∧
    ((∃ q, h.IsNewest scope q ∧ stats.generation = q.generation ∧
        h.cache.flags scope = flagsOf q.entries) ∨
      (∀ q ∈ h.readsOn scope, q.outcome ≠ some .loaded) ∧ stats.generation = 0 ∧
        h.cache.flags scope = .empty) ∧
    ((h.readsOn scope).Pairwise fun a b => a.generation < b.generation) ∧
    (∀ place q now, h.reads[place]? = some q → q ∈ h.readsOn scope →
      q.generation < stats.generation →
        (h.finish place .loaded now).cache.flags scope = h.cache.flags scope) ∧
    ∀ more stats', h.StaysRegistered scope more → (h.run more).cache.stats? scope = some stats' →
      stats.generation ≤ stats'.generation := by
  intro h
  have hi : Inv h := inv_run actions
  obtain ⟨s, hs, rfl⟩ := stats?_eq_some_iff.1 hstats
  refine ⟨?_, ?_, hi.pairwise_readsOn hs, ?_, ?_⟩
  · rw [flags_of_registered hs]
  · rw [flags_of_registered hs]
    exact hi.newest_or_none hs
  · intro place q now hplace hon hlt
    exact hi.flags_finish_older hs hplace hon hlt now
  · intro more stats' hstays hstats'
    obtain ⟨s', hs', rfl⟩ := stats?_eq_some_iff.1 hstats'
    exact hi.generation_le hs hstays hs'

/-- Two reads of a scope; the older one ends last. -/
def olderReadLast : List Action :=
  [.begin ⟨"shop", "live"⟩ [] default, .begin ⟨"shop", "live"⟩ [default] default,
    .finish 1 .loaded default, .finish 0 .loaded default]

theorem serves_newest_read_olderReadLast :
    (History.start.run olderReadLast).cache.stats? ⟨"shop", "live"⟩ = some ⟨1, default, 2⟩ ∧
    ∃ q, (History.start.run olderReadLast).IsNewest ⟨"shop", "live"⟩ q ∧ q.generation = 2 ∧
      (History.start.run olderReadLast).cache.flags ⟨"shop", "live"⟩ = flagsOf q.entries := by
  have hstats : (History.start.run olderReadLast).cache.stats? ⟨"shop", "live"⟩ =
      some ⟨1, default, 2⟩ := by rfl
  obtain ⟨_, hserved, _⟩ := serves_newest_read olderReadLast ⟨"shop", "live"⟩ _ hstats
  rcases hserved with ⟨q, hq, hg, hflags⟩ | ⟨_, hg, _⟩
  · exact ⟨hstats, q, hq, hg.symm, hflags⟩
  · cases hg

/-- A scope is registered exactly if, of the reads of it since its last removal, one is loaded, in
flight or abandoned.  A read in flight still has its registration then, whatever other reads have
failed, and as soon as a read is loaded the scope serves a loaded read that has not begun before
it. -/
theorem registered_iff_read_stands (actions : List Action) (scope : Scope) :
    let h := History.start.run actions
    ((h.cache.stats? scope).isSome = true ↔
      ∃ q : Read, q ∈ h.reads ∧ q.scope = scope ∧ q.removed = false ∧
        (q.outcome = some .loaded ∨ q.outcome = none ∨ q.outcome = some .abandoned)) ∧
    (∀ q ∈ h.reads, q.removed = false → q.outcome = none →
      (h.cache.slotOf? q.ticket).isSome = true) ∧
    ∀ (place : Nat) (q : Read), h.reads[place]? = some q → q.scope = scope → q.removed = false →
      q.outcome = some .loaded → (h.cache.stats? scope).isSome = true ∧
        ∃ (place' : Nat) (q' : Read), place ≤ place' ∧ h.reads[place']? = some q' ∧
          q'.scope = scope ∧ q'.removed = false ∧ q'.outcome = some .loaded ∧
          h.cache.flags scope = flagsOf q'.entries := by
  intro h
  have hi : Inv h := inv_run actions
  refine ⟨⟨fun hreg => ?_, ?_⟩, ?_, ?_⟩
  · rw [isSome_stats?] at hreg
    obtain ⟨s, hs⟩ := Option.isSome_iff_exists.1 hreg
    obtain ⟨q, hq, ho⟩ := (hi.accounts hs).exists_not_failed (hi.not_idle hs)
    obtain ⟨hmem, hscope, hr⟩ := History.mem_readsOn_iff.1 hq
    have hhold : h.Holds q := ⟨by rw [hscope]; exact hreg, hr⟩
    exact ⟨q, hmem, hscope, hi.not_removed q hmem hhold, Outcome.ne_failed_iff.1 ho⟩
  · rintro ⟨q, hq, hscope, hr, ho⟩
    rw [isSome_stats?, ← hscope]
    exact (hi.holds_of_not_failed hq hr (Outcome.ne_failed_iff.2 ho)).1
  · intro q hq hr ho
    refine (hi.holds_iff hq).1 (hi.holds_of_not_failed hq hr ?_)
    exact Outcome.ne_failed_iff.2 (Or.inr (Or.inl ho))
  · intro place q hplace hscope hr ho
    have hmem : q ∈ h.reads := List.mem_of_getElem? hplace
    have hhold : h.Holds q :=
      hi.holds_of_not_failed hmem hr (Outcome.ne_failed_iff.2 (Or.inl ho))
    have hreg : (h.cache.slots.get? scope).isSome = true := by
      rw [← hscope]
      exact hhold.1
    obtain ⟨s, hs⟩ := Option.isSome_iff_exists.1 hreg
    have hon : q ∈ h.readsOn scope := History.mem_readsOn_iff.2 ⟨hmem, hscope, hhold.2⟩
    refine ⟨by rw [isSome_stats?]; exact hreg, ?_⟩
    rcases hi.newest_or_none hs with ⟨q', hnew, _, hflags⟩ | ⟨hnone, _⟩
    · obtain ⟨hmem', hscope', hr'⟩ := History.mem_readsOn_iff.1 hnew.mem
      obtain ⟨place', hplace'⟩ := List.mem_iff_getElem?.1 hmem'
      have hle : place ≤ place' := hi.place_le hs hplace hplace'
        (Read.isOn_iff.2 ⟨hscope, hhold.2⟩) (Read.isOn_iff.2 ⟨hscope', hr'⟩)
        (hnew.max q hon ho)
      have hhold' : h.Holds q' := ⟨by rw [hscope']; exact hreg, hr'⟩
      refine ⟨place', q', hle, hplace', hscope', hi.not_removed q' hmem' hhold', hnew.loaded, ?_⟩
      rw [flags_of_registered hs]
      exact hflags
    · exact absurd ho (hnone q hon)

/-- Two reads of a scope that was not registered; the first fails before the second is loaded. -/
def firstReadFails : List Action :=
  [.begin ⟨"shop", "live"⟩ [] default, .begin ⟨"shop", "live"⟩ [default] default,
    .finish 0 .failed default, .finish 1 .loaded default]

theorem registered_iff_read_stands_firstReadFails :
    (History.start.run firstReadFails).reads[1]? =
      some ⟨⟨⟨"shop", "live"⟩, 0, 2⟩, [default], some .loaded, false, false⟩ ∧
    ((History.start.run firstReadFails).cache.stats? ⟨"shop", "live"⟩).isSome = true := by
  have hread : (History.start.run firstReadFails).reads[1]? =
      some ⟨⟨⟨"shop", "live"⟩, 0, 2⟩, [default], some .loaded, false, false⟩ := by rfl
  obtain ⟨_, _, hloaded⟩ := registered_iff_read_stands firstReadFails ⟨"shop", "live"⟩
  exact ⟨hread, (hloaded 1 _ hread rfl rfl rfl).1⟩

end FeatureFlags.Cache

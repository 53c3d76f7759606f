import FeatureFlags.Proofs.Cache.Slots

/-!
# Histories of a cache

A history is a cache with all the reads that have begun on it.  Any number of reads may be in
flight, and they end in any order.  A read takes what it finds at the source when it begins.

* `History.step` is what an action does.  A load of all scopes is one action (`loadAll`) if the
  source answers at once.  Otherwise its reads are actions like any others, and `allLoaded` is
  what it does when all of them have ended well.
* The cache of a history goes its own way: `cache_refresh` and `cache_loadAll` say so for the
  actions of more than one step.
* `step_induction` reduces what an action keeps to what a single step keeps.
* `exists_later_read` says that a read keeps its place and its outcome.

The marks `removed` and `replaced` of a read tell what has happened to its scope since it began.
They depend on the actions and on whether the scope was registered, not on how the cache tells one
registration from another.
-/

namespace FeatureFlags.Cache

/-- How a read has ended. -/
inductive Outcome where
  | loaded
  | failed
  /-- Nobody waited for it any more. -/
  | abandoned
deriving DecidableEq

/-- A read stands if it is loaded, in flight or abandoned. -/
theorem Outcome.ne_failed_iff {o : Option Outcome} :
    o ≠ some .failed ↔ o = some .loaded ∨ o = none ∨ o = some .abandoned := by
  cases o with
  | none => simp
  | some o => cases o <;> simp

/-- A read that has begun. -/
structure Read where
  ticket : Ticket
  /-- What the read has found at the source. -/
  entries : List Entry
  /-- None while the read is in flight. -/
  outcome : Option Outcome
  /-- Whether its scope has been removed since it began. -/
  removed : Bool
  /-- Whether its scope has been registered anew since it began. -/
  replaced : Bool

namespace Read

/-- A read that has just begun. -/
def start (ticket : Ticket) (entries : List Entry) : Read where
  ticket
  entries
  outcome := none
  removed := false
  replaced := false

/-- The scope that is read. -/
def scope (q : Read) : Scope := q.ticket.scope

/-- The generation that the read has taken. -/
def generation (q : Read) : Nat := q.ticket.generation

/-- The flags of the scope as the read has found them. -/
def flags (q : Read) : ScopeFlags := flagsOf q.entries

/-- What the cache gets to know when the read ends. -/
def ending (q : Read) : Outcome → ReadEnd
  | .loaded => .loaded q.entries
  | .failed => .failed
  | .abandoned => .abandoned

/-- The read after its end. -/
def finish (q : Read) (o : Outcome) : Read := { q with outcome := some o }

/-- The read after a scope has been removed. -/
def markRemoved (scope : Scope) (q : Read) : Read :=
  if q.scope = scope then { q with removed := true } else q

/-- The read after a scope has been registered anew. -/
def markReplaced (scope : Scope) (q : Read) : Read :=
  if q.scope = scope then { q with replaced := true } else q

/-- Whether the read belongs to the latest registration of a scope. -/
def isOn (scope : Scope) (q : Read) : Bool := q.scope == scope && !q.replaced

/-- Whether the read counts as pending: it is in flight, or nobody has waited for it. -/
def isPending (q : Read) : Bool := q.outcome == none || q.outcome == some .abandoned

section Marks

variable (scope : Scope) (q : Read)

@[simp] theorem ticket_markRemoved : (q.markRemoved scope).ticket = q.ticket := by
  rw [markRemoved]
  split <;> rfl

@[simp] theorem scope_markRemoved : (q.markRemoved scope).scope = q.scope := by
  rw [Read.scope, ticket_markRemoved, Read.scope]

@[simp] theorem replaced_markRemoved : (q.markRemoved scope).replaced = q.replaced := by
  rw [markRemoved]
  split <;> rfl

@[simp] theorem ticket_markReplaced : (q.markReplaced scope).ticket = q.ticket := by
  rw [markReplaced]
  split <;> rfl

@[simp] theorem scope_markReplaced : (q.markReplaced scope).scope = q.scope := by
  rw [Read.scope, ticket_markReplaced, Read.scope]

@[simp] theorem outcome_markReplaced : (q.markReplaced scope).outcome = q.outcome := by
  rw [markReplaced]
  split <;> rfl

@[simp] theorem removed_markReplaced : (q.markReplaced scope).removed = q.removed := by
  rw [markReplaced]
  split <;> rfl

variable {scope q}

theorem markRemoved_of_ne (h : q.scope ≠ scope) : q.markRemoved scope = q := if_neg h

theorem markReplaced_of_ne (h : q.scope ≠ scope) : q.markReplaced scope = q := if_neg h

theorem removed_markRemoved_self (h : q.scope = scope) :
    (q.markRemoved scope).removed = true := by
  rw [markRemoved, if_pos h]

theorem replaced_markReplaced_self (h : q.scope = scope) :
    (q.markReplaced scope).replaced = true := by
  rw [markReplaced, if_pos h]

end Marks

end Read

/-- A cache with the reads that have begun on it, in the order in which they began. -/
structure History where
  cache : Cache
  reads : List Read

/-- What may happen to a cache. -/
inductive Action where
  | begin (scope : Scope) (entries : List Entry) (now : Timestamp)
  /-- The read at a place of the history ends, unless it has ended before. -/
  | finish (read : Nat) (outcome : Outcome) (now : Timestamp)
  | refresh (source : Source) (scope : Scope) (now : Timestamp)
  | loadAll (source : Source) (now : Timestamp)
  | remove (scope : Scope)
  /-- A load of all scopes has ended well after reads that were actions of their own. -/
  | allLoaded

namespace History

/-- The history of a cache without scopes. -/
def start : History := ⟨.empty, []⟩

/-- Begins a read that finds the given entries. -/
def begin (h : History) (scope : Scope) (entries : List Entry) (now : Timestamp) : History :=
  let (ticket, cache) := h.cache.begin scope now
  let earlier :=
    if h.cache.slots.contains scope then h.reads else h.reads.map (·.markReplaced scope)
  ⟨cache, earlier ++ [.start ticket entries]⟩

/-- Ends the read at a place. -/
def finish (h : History) (place : Nat) (o : Outcome) (now : Timestamp) : History :=
  match h.reads[place]? with
  | none => h
  | some q =>
    if q.outcome = none then
      ⟨h.cache.conclude q.ticket (q.ending o) now, h.reads.set place (q.finish o)⟩
    else h

/-- Removes a scope. -/
def remove (h : History) (scope : Scope) : History :=
  ⟨(h.cache.remove scope).2, h.reads.map (·.markRemoved scope)⟩

/-- Notes that all scopes have been loaded once. -/
def allLoaded (h : History) : History := { h with cache := { h.cache with initialized := true } }

/-- Reads a scope from a source that answers at once. -/
def refresh (h : History) (source : Source) (scope : Scope) (now : Timestamp) : History :=
  match source.load scope with
  | .ok entries => (h.begin scope entries now).finish h.reads.length .loaded now
  | .error _ => (h.begin scope [] now).finish h.reads.length .failed now

/-- Reads scopes one after the other, which counts as a load of all scopes if none fails. -/
def loadEach (h : History) (source : Source) (now : Timestamp) : List Scope → History
  | [] => h.allLoaded
  | scope :: rest =>
    match source.load scope with
    | .ok _ => (h.refresh source scope now).loadEach source now rest
    | .error _ => h.refresh source scope now

/-- Reads all scopes of a source that answers at once. -/
def loadAll (h : History) (source : Source) (now : Timestamp) : History :=
  match source.listScopes with
  | .ok scopes => h.loadEach source now scopes
  | .error _ => h

/-- What an action does. -/
def step (h : History) : Action → History
  | .begin scope entries now => h.begin scope entries now
  | .finish place o now => h.finish place o now
  | .refresh source scope now => h.refresh source scope now
  | .loadAll source now => h.loadAll source now
  | .remove scope => h.remove scope
  | .allLoaded => h.allLoaded

/-- What actions do, one after the other. -/
def run (h : History) (actions : List Action) : History := actions.foldl step h

/-- The reads that belong to the latest registration of a scope. -/
def readsOn (h : History) (scope : Scope) : List Read := h.reads.filter (·.isOn scope)

@[simp] theorem run_cons (h : History) (a : Action) (actions : List Action) :
    h.run (a :: actions) = (h.step a).run actions := rfl

theorem run_append (h : History) (first second : List Action) :
    h.run (first ++ second) = (h.run first).run second := List.foldl_append

/-! ## The steps -/

/-- Beginning a read of a registered scope adds the read. -/
theorem begin_of_registered {h : History} {scope : Scope} {s : Slot} (entries : List Entry)
    (now : Timestamp) (hs : h.cache.slots.get? scope = some s) :
    h.begin scope entries now =
      ⟨{ h.cache with slots := h.cache.slots.insert scope s.beginRead },
        h.reads ++ [.start ⟨scope, s.number, s.latest + 1⟩ entries]⟩ := by
  have hc : h.cache.slots.contains scope = true := by rw [Table.contains, hs]; rfl
  simp only [begin, Cache.begin_of_registered now hs, hc, if_true]

/-- Registers a scope. -/
def register (h : History) (scope : Scope) (now : Timestamp) : History where
  cache := { h.cache with
    slots := h.cache.slots.insert scope (.fresh h.cache.nextNumber now)
    nextNumber := h.cache.nextNumber + 1 }
  reads := h.reads.map (·.markReplaced scope)

/-- Beginning a read of any other scope registers the scope first. -/
theorem begin_of_unregistered {h : History} {scope : Scope} (entries : List Entry)
    (now : Timestamp) (hs : h.cache.slots.get? scope = none) :
    h.begin scope entries now = (h.register scope now).begin scope entries now := by
  have hc : h.cache.slots.contains scope = false := by rw [Table.contains, hs]; rfl
  have hreg : (h.register scope now).cache.slots.get? scope =
      some (.fresh h.cache.nextNumber now) := Table.get?_insert_self _ _ _
  rw [begin_of_registered entries now hreg]
  simp only [begin, Cache.begin_of_unregistered now hs, hc, Bool.false_eq_true, if_false, register,
    Table.insert_insert]
  rfl

/-- A read in flight ends. -/
theorem finish_of_inFlight {h : History} {place : Nat} {q : Read} (o : Outcome) (now : Timestamp)
    (hq : h.reads[place]? = some q) (hf : q.outcome = none) :
    h.finish place o now =
      ⟨h.cache.conclude q.ticket (q.ending o) now, h.reads.set place (q.finish o)⟩ := by
  simp only [finish, hq, hf, if_true]

/-- Only a read in flight can end. -/
theorem finish_cases (h : History) (place : Nat) (o : Outcome) (now : Timestamp) :
    h.finish place o now = h ∨ ∃ q, h.reads[place]? = some q ∧ q.outcome = none ∧
      h.finish place o now =
        ⟨h.cache.conclude q.ticket (q.ending o) now, h.reads.set place (q.finish o)⟩ := by
  cases hq : h.reads[place]? with
  | none => exact Or.inl (by simp only [finish, hq])
  | some q =>
    by_cases hf : q.outcome = none
    · exact Or.inr ⟨q, rfl, hf, finish_of_inFlight o now hq hf⟩
    · exact Or.inl (by simp only [finish, hq, hf, if_false])

/-- The read that begins stands at the end. -/
theorem getElem?_begin_length (h : History) (scope : Scope) (entries : List Entry)
    (now : Timestamp) :
    (h.begin scope entries now).reads[h.reads.length]? =
      some (.start (h.cache.begin scope now).1 entries) := by
  simp only [begin]
  split
  · exact List.getElem?_concat_length
  · rw [List.getElem?_append_right (by simp)]
    simp

theorem cache_begin (h : History) (scope : Scope) (entries : List Entry) (now : Timestamp) :
    (h.begin scope entries now).cache = (h.cache.begin scope now).2 := rfl

/-- A read that begins and ends with nothing in between is a read and its end for the cache. -/
theorem cache_finish_begin (h : History) (scope : Scope) (entries : List Entry) (o : Outcome)
    (now now' : Timestamp) :
    ((h.begin scope entries now).finish h.reads.length o now').cache =
      (h.cache.begin scope now).2.conclude (h.cache.begin scope now).1
        ((Read.start (h.cache.begin scope now).1 entries).ending o) now' := by
  rw [finish_of_inFlight o now' (getElem?_begin_length h scope entries now) rfl, cache_begin]
  rfl

/-! ## Actions of more than one step -/

/-- The cache of a history refreshes as the cache does. -/
theorem cache_refresh (h : History) (source : Source) (scope : Scope) (now : Timestamp) :
    (h.refresh source scope now).cache = (h.cache.refresh source scope now).2 := by
  rw [refresh, Cache.refresh]
  cases hload : source.load scope with
  | ok entries => exact cache_finish_begin h scope entries .loaded now now
  | error e => exact cache_finish_begin h scope [] .failed now now

private theorem cache_loadEach (source : Source) (now : Timestamp) (scopes : List Scope) :
    ∀ h : History, (h.loadEach source now scopes).cache =
      match h.cache.refreshEach source now scopes with
      | (.ok (), c) => { c with initialized := true }
      | (.error _, c) => c := by
  induction scopes with
  | nil =>
    intro h
    rfl
  | cons scope rest ih =>
    intro h
    rw [loadEach, Cache.refreshEach]
    have hc := cache_refresh h source scope now
    cases hload : source.load scope with
    | ok entries =>
      dsimp only
      rw [ih, hc]
      simp only [Cache.refresh, hload]
    | error e =>
      dsimp only
      rw [hc]
      simp only [Cache.refresh, hload]

/-- The cache of a history loads all scopes as the cache does. -/
theorem cache_loadAll (h : History) (source : Source) (now : Timestamp) :
    (h.loadAll source now).cache = (h.cache.loadAll source now).2 := by
  rw [loadAll, Cache.loadAll]
  cases source.listScopes with
  | error e => rfl
  | ok scopes =>
    dsimp only
    rw [cache_loadEach]
    split <;> simp_all

/-! ## From steps to runs -/

end History

/-- Whether all reads of an action find entries with a property.  A read that fails at once finds
none. -/
def Action.Finds (E : List Entry → Prop) : Action → Prop
  | .begin _ entries _ => E entries
  | .refresh source _ _ | .loadAll source _ =>
    E [] ∧ ∀ scope entries, source.load scope = .ok entries → E entries
  | .finish .. | .remove _ | .allLoaded => True

/-- A property of histories that every single step keeps, if reads find entries with the property
`E`. -/
structure History.Kept (E : List Entry → Prop) (P : History → Prop) : Prop where
  begin : ∀ h scope entries now, E entries → P h → P (h.begin scope entries now)
  finish : ∀ h place o now, P h → P (h.finish place o now)
  remove : ∀ h scope, P h → P (h.remove scope)
  allLoaded : ∀ h, P h → P h.allLoaded

namespace History.Kept

variable {E : List Entry → Prop} {P : History → Prop} {h : History}

/-- A refresh keeps what its two steps keep. -/
theorem refresh (hk : Kept E P) {source : Source} (hnil : E [])
    (hload : ∀ scope entries, source.load scope = .ok entries → E entries) (scope : Scope)
    (now : Timestamp) (hp : P h) : P (h.refresh source scope now) := by
  rw [History.refresh]
  split
  · next entries hs =>
    exact hk.finish _ _ _ _ (hk.begin _ _ _ _ (hload scope entries hs) hp)
  · exact hk.finish _ _ _ _ (hk.begin _ _ _ _ hnil hp)

private theorem loadEach (hk : Kept E P) {source : Source} (hnil : E [])
    (hload : ∀ scope entries, source.load scope = .ok entries → E entries) (now : Timestamp)
    (scopes : List Scope) : ∀ h : History, P h → P (h.loadEach source now scopes) := by
  induction scopes with
  | nil =>
    intro h hp
    exact hk.allLoaded h hp
  | cons scope rest ih =>
    intro h hp
    have hr : P (h.refresh source scope now) := hk.refresh hnil hload scope now hp
    rw [History.loadEach]
    split
    · exact ih _ hr
    · exact hr

/-- An action keeps what every single step keeps. -/
theorem step (hk : Kept E P) {a : Action} (ha : a.Finds E) (hp : P h) : P (h.step a) := by
  cases a with
  | begin scope entries now => exact hk.begin h scope entries now ha hp
  | finish place o now => exact hk.finish h place o now hp
  | refresh source scope now => exact hk.refresh ha.1 ha.2 scope now hp
  | loadAll source now =>
    rw [History.step, History.loadAll]
    split
    · exact hk.loadEach ha.1 ha.2 now _ h hp
    · exact hp
  | remove scope => exact hk.remove h scope hp
  | allLoaded => exact hk.allLoaded h hp

/-- A run keeps what every single step keeps. -/
theorem run (hk : Kept E P) {actions : List Action} (ha : ∀ a ∈ actions, a.Finds E) (hp : P h) :
    P (h.run actions) := by
  induction actions generalizing h with
  | nil => exact hp
  | cons a rest ih =>
    rw [run_cons]
    exact ih (fun b hb => ha b (List.mem_cons_of_mem a hb))
      (hk.step (ha a List.mem_cons_self) hp)

end History.Kept

/-- Every action finds some entries. -/
theorem Action.finds_true (a : Action) : a.Finds fun _ => True := by
  cases a with
  | begin scope entries now => trivial
  | finish place o now => trivial
  | refresh source scope now => exact ⟨trivial, fun _ _ _ => trivial⟩
  | loadAll source now => exact ⟨trivial, fun _ _ _ => trivial⟩
  | remove scope => trivial
  | allLoaded => trivial

/-! ## What becomes of a read -/

/-- What may become of a read in the course of a history. -/
structure Read.Becomes (q q' : Read) : Prop where
  ticket : q'.ticket = q.ticket
  entries : q'.entries = q.entries
  outcome : ∀ o, q.outcome = some o → q'.outcome = some o
  removed : q.removed = true → q'.removed = true

namespace Read.Becomes

theorem refl (q : Read) : q.Becomes q := ⟨rfl, rfl, fun _ h => h, fun h => h⟩

theorem trans {q q' q'' : Read} (h : q.Becomes q') (h' : q'.Becomes q'') : q.Becomes q'' where
  ticket := h'.ticket.trans h.ticket
  entries := h'.entries.trans h.entries
  outcome o ho := h'.outcome o (h.outcome o ho)
  removed hr := h'.removed (h.removed hr)

theorem finish {q : Read} (hf : q.outcome = none) (o : Outcome) : q.Becomes (q.finish o) where
  ticket := rfl
  entries := rfl
  outcome o' ho := by rw [hf] at ho; cases ho
  removed hr := hr

theorem markRemoved (scope : Scope) (q : Read) : q.Becomes (q.markRemoved scope) := by
  rw [Read.markRemoved]
  split
  · exact ⟨rfl, rfl, fun _ h => h, fun _ => rfl⟩
  · exact refl q

theorem markReplaced (scope : Scope) (q : Read) : q.Becomes (q.markReplaced scope) := by
  rw [Read.markReplaced]
  split
  · exact ⟨rfl, rfl, fun _ h => h, fun h => h⟩
  · exact refl q

end Read.Becomes

namespace History

/-- Every single step keeps the reads that have begun, each at its place. -/
theorem kept_read (place : Nat) (q : Read) :
    Kept (fun _ => True) fun h => ∃ q', h.reads[place]? = some q' ∧ q.Becomes q' where
  begin h scope entries now _ hq := by
    obtain ⟨q', hq', hb⟩ := hq
    have hlt : place < h.reads.length := (List.getElem?_eq_some_iff.1 hq').1
    simp only [begin]
    split
    · exact ⟨q', by rw [List.getElem?_append_left hlt]; exact hq', hb⟩
    · refine ⟨q'.markReplaced scope, ?_, hb.trans (.markReplaced scope q')⟩
      rw [List.getElem?_append_left (by rw [List.length_map]; exact hlt), List.getElem?_map, hq']
      rfl
  finish h place' o now hq := by
    obtain ⟨q', hq', hb⟩ := hq
    rcases h.finish_cases place' o now with he | ⟨p, hp, hf, he⟩
    · exact ⟨q', by rw [he]; exact hq', hb⟩
    · rw [he]
      by_cases hplace : place' = place
      · subst hplace
        obtain rfl : p = q' := Option.some.inj (hp.symm.trans hq')
        refine ⟨p.finish o, ?_, hb.trans (.finish hf o)⟩
        exact List.getElem?_set_self (List.getElem?_eq_some_iff.1 hp).1
      · exact ⟨q', by rw [List.getElem?_set_ne hplace]; exact hq', hb⟩
  remove h scope hq := by
    obtain ⟨q', hq', hb⟩ := hq
    refine ⟨q'.markRemoved scope, ?_, hb.trans (.markRemoved scope q')⟩
    rw [remove, List.getElem?_map, hq']
    rfl
  allLoaded h hq := hq

/-- A read keeps its place in a run, and its outcome once it has one. -/
theorem exists_later_read {h : History} {place : Nat} {q : Read} (actions : List Action)
    (hq : h.reads[place]? = some q) :
    ∃ q', (h.run actions).reads[place]? = some q' ∧ q.Becomes q' :=
  (kept_read place q).run (fun a _ => a.finds_true) ⟨q, hq, .refl q⟩

end History

end FeatureFlags.Cache

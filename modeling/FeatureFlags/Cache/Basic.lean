import FeatureFlags.Store.Source

/-!
# The cache

The flags that are served, scope by scope.  A scope is registered when a read of it begins,
and its flags are replaced as a whole when a read ends well.  Each read takes the next
generation of its scope when it begins, and what it read is installed unless a read with a
later generation is installed already.

A read holds on to the registration that it began on, by its number.  After the scope has
been removed, the read changes nothing any more, even if the scope is registered again.

* `Cache.begin` begins a read, and `Cache.conclude` ends it.
* `Cache.refresh` and `Cache.loadAll` read from a source without a break.
-/

namespace FeatureFlags

/-- What the cache tells about a scope. -/
structure ScopeStats where
  flagCount : Nat
  loadedAt : Timestamp
  generation : Nat
deriving DecidableEq, Inhabited

instance : Wire ScopeStats where
  encode s := .object [("flag_count", encode s.flagCount), ("loaded_at", encode s.loadedAt),
    ("generation", encode s.generation)]
  decode? d := do
    let [flagCount, loadedAt, generation] ← d.record?
      [("flag_count", .required), ("loaded_at", .required), ("generation", .required)] | none
    return {
      flagCount := ← Document.field? flagCount
      loadedAt := ← Document.field? loadedAt
      generation := ← Document.field? generation }

/-- The registration of a scope. -/
structure Slot where
  /-- Tells this registration from all others. -/
  number : Nat
  /-- The generation of the latest read that began. -/
  latest : Nat
  /-- The reads that have begun and not ended. -/
  pending : Nat
  /-- The generation of the flags; zero if no read has ended well. -/
  generation : Nat
  flags : ScopeFlags
  loadedAt : Timestamp

namespace Slot

/-- A new registration. -/
def fresh (number : Nat) (now : Timestamp) : Slot where
  number
  latest := 0
  pending := 0
  generation := 0
  flags := .empty
  loadedAt := now

/-- Replaces the flags by those of a read, unless a later read is installed. -/
def install (s : Slot) (generation : Nat) (flags : ScopeFlags) (now : Timestamp) : Slot :=
  if s.generation < generation then { s with generation, flags, loadedAt := now } else s

/-- Counts one pending read less. -/
def release (s : Slot) : Slot := { s with pending := s.pending - 1 }

/-- Whether nothing was ever installed and no read is pending. -/
def isIdle (s : Slot) : Bool := s.pending == 0 && s.generation == 0

end Slot

/-- The flags that are served. -/
structure Cache where
  slots : Table Scope Slot
  /-- The number of the next registration. -/
  nextNumber : Nat
  /-- Whether all scopes have been loaded once. -/
  initialized : Bool

/-- A read that has begun. -/
structure Ticket where
  scope : Scope
  /-- The number of the registration that it began on. -/
  slot : Nat
  generation : Nat
deriving DecidableEq, Inhabited

/-- How a read ends. -/
inductive ReadEnd where
  /-- With the flags of the scope. -/
  | loaded (entries : List Entry)
  | failed
  /-- Nobody waits for it any more. -/
  | abandoned

namespace Cache

/-- A cache without scopes. -/
def empty : Cache := ⟨.empty, 0, false⟩

/-! ## Reading -/

/-- The flags of a scope; none if the scope is not registered. -/
def flags (c : Cache) (scope : Scope) : ScopeFlags :=
  match c.slots.get? scope with
  | some s => s.flags
  | none => .empty

/-- One flag of a scope. -/
def flag? (c : Cache) (scope : Scope) (key : String) : Option Entry := (c.flags scope).get? key

/-- What there is to tell about a scope that is registered. -/
def stats? (c : Cache) (scope : Scope) : Option ScopeStats :=
  (c.slots.get? scope).map fun s => ⟨s.flags.size, s.loadedAt, s.generation⟩

/-- The number of registered scopes. -/
def scopeCount (c : Cache) : Nat := c.slots.size

/-! ## Changing -/

/-- Removes a scope, and says whether it was registered. -/
def remove (c : Cache) (scope : Scope) : Bool × Cache :=
  (c.slots.contains scope, { c with slots := c.slots.erase scope })

/-- Begins a read of a scope, which registers the scope if need be. -/
def begin (c : Cache) (scope : Scope) (now : Timestamp) : Ticket × Cache :=
  let (slot, nextNumber) := match c.slots.get? scope with
    | some s => (s, c.nextNumber)
    | none => (.fresh c.nextNumber now, c.nextNumber + 1)
  let slot := { slot with latest := slot.latest + 1, pending := slot.pending + 1 }
  (⟨scope, slot.number, slot.latest⟩,
    { c with slots := c.slots.insert scope slot, nextNumber })

/-- The registration that a read began on, if the scope still has it. -/
def slotOf? (c : Cache) (t : Ticket) : Option Slot :=
  (c.slots.get? t.scope).filter (·.number == t.slot)

/-- Ends a read.  One that failed takes its scope out if nothing was ever installed there and no
other read is pending; one that is abandoned stays pending for ever. -/
def conclude (c : Cache) (t : Ticket) (e : ReadEnd) (now : Timestamp) : Cache :=
  match c.slotOf? t with
  | none => c
  | some s =>
    match e with
    | .loaded entries =>
      let flags := Table.ofList (entries.map fun e => (e.key, e))
      { c with slots := c.slots.insert t.scope (s.install t.generation flags now).release }
    | .failed =>
      if s.release.isIdle then { c with slots := c.slots.erase t.scope }
      else { c with slots := c.slots.insert t.scope s.release }
    | .abandoned => c

/-- Reads a scope from a source. -/
def refresh (c : Cache) (source : Source) (scope : Scope) (now : Timestamp) :
    Except ReadError Unit × Cache :=
  let (t, c) := c.begin scope now
  match source.load scope with
  | .ok entries => (.ok (), c.conclude t (.loaded entries) now)
  | .error e => (.error e, c.conclude t .failed now)

/-- Reads scopes one after the other up to the first that fails. -/
def refreshEach (c : Cache) (source : Source) (now : Timestamp) :
    List Scope → Except ReadError Unit × Cache
  | [] => (.ok (), c)
  | scope :: rest =>
    match c.refresh source scope now with
    | (.ok (), c) => refreshEach c source now rest
    | (.error e, c) => (.error e, c)

/-- Reads all scopes of a source. -/
def loadAll (c : Cache) (source : Source) (now : Timestamp) : Except ReadError Unit × Cache :=
  match source.listScopes with
  | .error e => (.error e, c)
  | .ok scopes =>
    match c.refreshEach source now scopes with
    | (.ok (), c) => (.ok (), { c with initialized := true })
    | (.error e, c) => (.error e, c)

end Cache

end FeatureFlags

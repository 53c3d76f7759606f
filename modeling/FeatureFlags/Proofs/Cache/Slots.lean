import FeatureFlags.Cache.Basic

/-!
# Registrations under each operation

The lemmas say what each operation of the cache does to the registration of each scope.

* Beginning a read: `begin_of_registered` and `begin_of_unregistered`.
* Ending a read: `get?_conclude_self` and `get?_conclude_of_ne`, where `Slot.endRead?` is what the
  end of a read leaves of its registration.  A read whose registration is gone changes nothing
  (`conclude_of_slotOf?_eq_none`).
-/

namespace FeatureFlags

/-- The flags that entries are served as; of entries with one key the last one counts. -/
def flagsOf (entries : List Entry) : ScopeFlags := Table.ofList (entries.map fun e => (e.key, e))

/-- The last entry with a key is served under the key. -/
theorem get?_flagsOf (entries : List Entry) (key : String) :
    (flagsOf entries).get? key = entries.reverse.find? (·.key = key) := by
  rw [flagsOf, Table.get?_ofList, ← List.map_reverse, List.find?_map, Option.map_map]
  exact congrFun Option.map_id _

/-- Entries are served under their own keys. -/
theorem key_of_get?_flagsOf {entries : List Entry} {key : String} {e : Entry}
    (h : (flagsOf entries).get? key = some e) : e.key = key := by
  rw [get?_flagsOf] at h
  simpa using List.find?_some h

/-- Flags that stand under their own keys, with something for each of them. -/
theorem map_values_of_keys {α : Type} {flags : ScopeFlags}
    (h : ∀ key e, flags.get? key = some e → e.key = key) (f : Entry → α) :
    flags.values.map (fun e => (e.key, f e)) = flags.entries.map fun x => (x.1, f x.2) := by
  rw [Table.values, List.map_map]
  refine List.map_congr_left fun x hx => ?_
  exact Prod.ext (h x.1 x.2 ((Table.mem_entries_iff flags x.1 x.2).1 hx)) rfl

namespace Slot

/-- A registration after one more read has begun on it. -/
def beginRead (s : Slot) : Slot := { s with latest := s.latest + 1, pending := s.pending + 1 }

/-- What the end of a read leaves of the registration it began on. -/
def endRead? (s : Slot) (generation : Nat) (now : Timestamp) : ReadEnd → Option Slot
  | .loaded entries => some (s.install generation (flagsOf entries) now).release
  | .failed => if s.release.isIdle then none else some s.release
  | .abandoned => some s

@[simp] theorem beginRead_number (s : Slot) : s.beginRead.number = s.number := rfl

@[simp] theorem number_install (s : Slot) (generation : Nat) (flags : ScopeFlags)
    (now : Timestamp) : (s.install generation flags now).number = s.number := by
  rw [install]
  split <;> rfl

/-- A registration keeps its number as long as it is there. -/
theorem number_endRead? {s s' : Slot} {generation : Nat} {now : Timestamp} {e : ReadEnd}
    (h : s.endRead? generation now e = some s') : s'.number = s.number := by
  cases e with
  | loaded entries =>
    rw [endRead?, Option.some.injEq] at h
    rw [← h]
    exact number_install s generation (flagsOf entries) now
  | failed =>
    rw [endRead?] at h
    split at h
    · cases h
    · rw [← Option.some.inj h]
      rfl
  | abandoned =>
    rw [endRead?, Option.some.injEq] at h
    rw [h]

end Slot

namespace Cache

variable {c : Cache} {scope : Scope} {t : Ticket} {s : Slot}

/-! ## Beginning a read -/

/-- A read of a registered scope takes the next generation of the registration. -/
theorem begin_of_registered (now : Timestamp) (h : c.slots.get? scope = some s) :
    c.begin scope now = (⟨scope, s.number, s.latest + 1⟩,
      { c with slots := c.slots.insert scope s.beginRead }) := by
  simp only [begin, h]
  rfl

/-- A read of any other scope registers it, under a number of its own. -/
theorem begin_of_unregistered (now : Timestamp) (h : c.slots.get? scope = none) :
    c.begin scope now = (⟨scope, c.nextNumber, 1⟩,
      { c with
        slots := c.slots.insert scope (Slot.fresh c.nextNumber now).beginRead
        nextNumber := c.nextNumber + 1 }) := by
  simp only [begin, h]
  rfl

/-! ## Ending a read -/

/-- A read finds its registration if the scope is registered under the same number. -/
theorem slotOf?_eq_some_iff :
    c.slotOf? t = some s ↔ c.slots.get? t.scope = some s ∧ s.number = t.slot := by
  rw [slotOf?, Option.filter_eq_some_iff, beq_iff_eq]

/-- A read whose registration is gone changes nothing when it ends. -/
theorem conclude_of_slotOf?_eq_none (h : c.slotOf? t = none) (e : ReadEnd) (now : Timestamp) :
    c.conclude t e now = c := by
  simp only [conclude, h]

/-- What the end of a read does to the registration of its scope. -/
theorem get?_conclude_self (h : c.slotOf? t = some s) (e : ReadEnd) (now : Timestamp) :
    (c.conclude t e now).slots.get? t.scope = s.endRead? t.generation now e := by
  simp only [conclude, h]
  cases e with
  | loaded entries => exact Table.get?_insert_self _ _ _
  | failed =>
    by_cases hidle : s.release.isIdle = true
    · simp only [Slot.endRead?, hidle, if_true]
      exact Table.get?_erase_self _ _
    · simp only [Slot.endRead?, hidle, Bool.false_eq_true, if_false]
      exact Table.get?_insert_self _ _ _
  | abandoned => exact (slotOf?_eq_some_iff.1 h).1

/-- The end of a read leaves all other scopes alone. -/
theorem get?_conclude_of_ne (h : scope ≠ t.scope) (e : ReadEnd) (now : Timestamp) :
    (c.conclude t e now).slots.get? scope = c.slots.get? scope := by
  rw [conclude]
  split
  · rfl
  · cases e with
    | loaded entries => exact Table.get?_insert_of_ne _ h _
    | failed =>
      dsimp only
      split
      · exact Table.get?_erase_of_ne _ h
      · exact Table.get?_insert_of_ne _ h _
    | abandoned => rfl

@[simp] theorem nextNumber_conclude (e : ReadEnd) (now : Timestamp) :
    (c.conclude t e now).nextNumber = c.nextNumber := by
  rw [conclude]
  split
  · rfl
  · cases e with
    | loaded entries => rfl
    | failed =>
      dsimp only
      split <;> rfl
    | abandoned => rfl

/-! ## Looking at a scope -/

theorem flags_of_registered (h : c.slots.get? scope = some s) : c.flags scope = s.flags := by
  simp only [flags, h]

theorem flags_of_unregistered (h : c.slots.get? scope = none) : c.flags scope = .empty := by
  simp only [flags, h]

/-- A scope has statistics exactly if it is registered. -/
theorem stats?_eq_some_iff {stats : ScopeStats} :
    c.stats? scope = some stats ↔ ∃ s, c.slots.get? scope = some s ∧
      stats = ⟨s.flags.size, s.loadedAt, s.generation⟩ := by
  rw [stats?, Option.map_eq_some_iff]
  simp only [eq_comm]

theorem isSome_stats? : (c.stats? scope).isSome = (c.slots.get? scope).isSome :=
  Option.isSome_map

end Cache

end FeatureFlags

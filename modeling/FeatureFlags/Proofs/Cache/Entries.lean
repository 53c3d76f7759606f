import FeatureFlags.Proofs.Cache.History

/-!
# Where the entries of a cache come from

Every entry that a cache serves has been found by a read (`kept_all`): a read that begins changes
no flags (`flags_begin`), and what is served when a read ends was served before or has been found
by the read (`flag?_conclude`).
-/

namespace FeatureFlags.Cache

variable {c : Cache} {scope scope' : Scope} {key : String} {e : Entry}

/-! ## The flags under each operation -/

theorem flags_insert (c : Cache) (scope scope' : Scope) (s : Slot) (nextNumber : Nat) :
    flags { c with slots := c.slots.insert scope s, nextNumber } scope' =
      if scope' = scope then s.flags else c.flags scope' := by
  rw [flags, Table.get?_insert, flags]
  by_cases he : scope' = scope
  · rw [if_pos he, if_pos he]
  · rw [if_neg he, if_neg he]

theorem flags_erase (c : Cache) (scope scope' : Scope) :
    flags { c with slots := c.slots.erase scope } scope' =
      if scope' = scope then .empty else c.flags scope' := by
  rw [flags, Table.get?_erase, flags]
  by_cases he : scope' = scope
  · rw [if_pos he, if_pos he]
  · rw [if_neg he, if_neg he]

/-- A read that begins does not change what is served, even if it registers its scope. -/
theorem flags_begin (c : Cache) (scope scope' : Scope) (now : Timestamp) :
    (c.begin scope now).2.flags scope' = c.flags scope' := by
  cases hs : c.slots.get? scope with
  | some s =>
    rw [begin_of_registered now hs, flags_insert]
    split
    · next he => rw [he, flags_of_registered hs]; rfl
    · rfl
  | none =>
    rw [begin_of_unregistered now hs, flags_insert]
    split
    · next he => rw [he, flags_of_unregistered hs]; rfl
    · rfl

/-- A flag that is served is one of the entries that its scope is served from. -/
theorem mem_of_get?_flagsOf {entries : List Entry} (he : (flagsOf entries).get? key = some e) :
    e ∈ entries := by
  rw [get?_flagsOf] at he
  exact List.mem_reverse.1 (List.mem_of_find?_eq_some he)

/-- What the end of a read leaves of a registration was there before, or has been found by the
read. -/
theorem get?_flags_endRead? {s s' : Slot} {generation : Nat} {now : Timestamp} {ending : ReadEnd}
    (hs : s.endRead? generation now ending = some s') (he : s'.flags.get? key = some e) :
    s.flags.get? key = some e ∨ ∃ entries, ending = .loaded entries ∧ e ∈ entries := by
  cases ending with
  | loaded entries =>
    rw [← Option.some.inj hs, Slot.release, Slot.install] at he
    split at he
    · exact .inr ⟨entries, rfl, mem_of_get?_flagsOf he⟩
    · exact .inl he
  | failed =>
    rw [Slot.endRead?] at hs
    split at hs
    · cases hs
    · rw [← Option.some.inj hs] at he
      exact .inl he
  | abandoned =>
    rw [← Option.some.inj hs] at he
    exact .inl he

/-- What is served after the end of a read was served before, or has been found by the read. -/
theorem flag?_conclude {t : Ticket} {ending : ReadEnd} {now : Timestamp}
    (he : (c.conclude t ending now).flag? scope key = some e) :
    c.flag? scope key = some e ∨ ∃ entries, ending = .loaded entries ∧ e ∈ entries := by
  cases hs : c.slotOf? t with
  | none =>
    rw [conclude_of_slotOf?_eq_none hs] at he
    exact .inl he
  | some s =>
    rw [flag?] at he ⊢
    by_cases hscope : scope = t.scope
    · have hafter := get?_conclude_self hs ending now
      rw [hscope] at he
      rw [hscope, flags_of_registered (slotOf?_eq_some_iff.1 hs).1]
      cases hend : s.endRead? t.generation now ending with
      | none =>
        rw [hend] at hafter
        rw [flags_of_unregistered hafter, Table.get?_empty] at he
        cases he
      | some s' =>
        rw [hend] at hafter
        rw [flags_of_registered hafter] at he
        exact get?_flags_endRead? hend he
    · rw [flags, get?_conclude_of_ne hscope] at he
      exact .inl he

/-! ## Every entry -/

/-- Whether all entries that are served or that a read has found have a property. -/
structure History.All (V : Entry → Prop) (h : History) : Prop where
  found : ∀ q ∈ h.reads, ∀ e ∈ q.entries, V e
  served : ∀ scope key e, h.cache.flag? scope key = some e → V e

/-- Every entry that is served has been found by a read. -/
theorem History.kept_all (V : Entry → Prop) : Kept (fun entries => ∀ e ∈ entries, V e) (All V) where
  begin h scope entries now hentries hall := by
    constructor
    case found =>
      intro q hq
      rcases List.mem_append.1 hq with hq | hq
      · split at hq
        · exact hall.found q hq
        · obtain ⟨p, hp, rfl⟩ := List.mem_map.1 hq
          rw [(Read.Becomes.markReplaced scope p).entries]
          exact hall.found p hp
      · rw [List.mem_singleton.1 hq]
        exact hentries
    case served =>
      intro scope' key e he
      rw [cache_begin, flag?, flags_begin] at he
      exact hall.served scope' key e he
  finish h place o now hall := by
    rcases h.finish_cases place o now with he | ⟨q, hq, _, he⟩
    · rw [he]
      exact hall
    · rw [he]
      have hmem : q ∈ h.reads := List.mem_of_getElem? hq
      constructor
      case found =>
        intro p hp
        rcases List.mem_or_eq_of_mem_set hp with hp | rfl
        · exact hall.found p hp
        · exact hall.found q hmem
      case served =>
        intro scope key e hserved
        rcases flag?_conclude hserved with hserved | ⟨entries, hending, hin⟩
        · exact hall.served scope key e hserved
        · cases o with
          | loaded =>
            obtain rfl : q.entries = entries := ReadEnd.loaded.inj hending
            exact hall.found q hmem e hin
          | failed => cases hending
          | abandoned => cases hending
  remove h scope hall := by
    constructor
    case found =>
      intro q' hq'
      obtain ⟨q, hq, rfl⟩ := List.mem_map.1 hq'
      rw [(Read.Becomes.markRemoved scope q).entries]
      exact hall.found q hq
    case served =>
      intro scope' key e he
      rw [remove, Cache.remove, flag?, flags_erase] at he
      split at he
      · rw [Table.get?_empty] at he
        cases he
      · exact hall.served scope' key e he
  allLoaded _ hall := ⟨hall.found, hall.served⟩

theorem History.all_start (V : Entry → Prop) : All V .start where
  found _ hq := absurd hq List.not_mem_nil
  served _ _ _ he := by cases he

end FeatureFlags.Cache

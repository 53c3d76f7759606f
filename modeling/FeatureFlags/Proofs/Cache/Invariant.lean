import FeatureFlags.Proofs.Cache.Accounts

/-!
# The invariant of a cache

What holds of a cache and its reads after any run (`inv_run`).

* Every registration is what the reads that belong to it make of it, and it is not idle.
* A registration has a number of its own: a read has that number exactly if the scope has not been
  registered anew since the read began.
* A read that has lost its registration has failed, or its scope has been removed since.
-/

namespace FeatureFlags.Cache

variable {h : History} {scope scope' : Scope} {q : Read}

/-! ## The reads on a registration -/

theorem Read.isOn_iff : q.isOn scope = true ↔ q.scope = scope ∧ q.replaced = false := by
  rw [Read.isOn, Bool.and_eq_true, beq_iff_eq, Bool.not_eq_true']

theorem History.mem_readsOn_iff :
    q ∈ h.readsOn scope ↔ q ∈ h.reads ∧ q.scope = scope ∧ q.replaced = false := by
  rw [History.readsOn, List.mem_filter, Read.isOn_iff]

/-- Reads of other scopes are none of a registration's. -/
theorem Read.isOn_of_ne (hne : q.scope ≠ scope) : q.isOn scope = false := by
  rw [Read.isOn, beq_false_of_ne hne, Bool.false_and]

/-- Marks on the reads of one scope do not change the reads on another. -/
theorem filter_isOn_map {f : Read → Read} (hne : scope' ≠ scope)
    (hscope : ∀ q, (f q).scope = q.scope) (hf : ∀ q : Read, q.scope ≠ scope → f q = q)
    (reads : List Read) :
    (reads.map f).filter (·.isOn scope') = reads.filter (·.isOn scope') := by
  induction reads with
  | nil => rfl
  | cons q rest ih =>
    rw [List.map_cons, List.filter_cons, List.filter_cons, ih]
    by_cases hq : q.scope = scope
    · have hne' : q.scope ≠ scope' := by rw [hq]; exact hne.symm
      rw [Read.isOn_of_ne hne', Read.isOn_of_ne (by rw [hscope]; exact hne')]
      rfl
    · rw [hf q hq]

/-- A scope that is registered anew starts without reads. -/
theorem filter_isOn_map_markReplaced (reads : List Read) :
    (reads.map (·.markReplaced scope)).filter (·.isOn scope) = [] := by
  rw [List.filter_eq_nil_iff]
  intro q' hq'
  obtain ⟨q, _, rfl⟩ := List.mem_map.1 hq'
  rw [Read.isOn_iff, Read.scope_markReplaced]
  rintro ⟨hs, hr⟩
  rw [Read.replaced_markReplaced_self hs] at hr
  cases hr

/-- A member of a list and what the list is when that member is overwritten. -/
theorem exists_split_of_getElem? {α : Type} {l : List α} {i : Nat} {a : α} (ha : l[i]? = some a) :
    ∃ first rest, l = first ++ a :: rest ∧ ∀ b, l.set i b = first ++ b :: rest := by
  obtain ⟨hlt, rfl⟩ := List.getElem?_eq_some_iff.1 ha
  refine ⟨l.take i, l.drop (i + 1), ?_, fun b => ?_⟩
  · rw [List.getElem_cons_drop, List.take_append_drop]
  · rw [List.set_eq_take_append_cons_drop, if_pos hlt]

/-! ## The invariant -/

/-- Whether a read still has the registration that it began on. -/
def History.Holds (h : History) (q : Read) : Prop :=
  (h.cache.slots.get? q.scope).isSome = true ∧ q.replaced = false

/-- What holds of a cache and its reads while registrations come and go. -/
structure Accounted (h : History) : Prop where
  accounts : ∀ {scope s}, h.cache.slots.get? scope = some s → Accounts s (h.readsOn scope)
  number_lt : ∀ {scope s}, h.cache.slots.get? scope = some s → s.number < h.cache.nextNumber
  slot_lt : ∀ q ∈ h.reads, q.ticket.slot < h.cache.nextNumber
  number_eq_iff : ∀ q ∈ h.reads, ∀ {s}, h.cache.slots.get? q.scope = some s →
    (s.number = q.ticket.slot ↔ q.replaced = false)
  not_removed : ∀ q ∈ h.reads, h.Holds q → q.removed = false
  failed : ∀ q ∈ h.reads, q.removed = false → ¬h.Holds q → q.outcome = some .failed

/-- What holds of a cache and its reads after every step. -/
structure Inv (h : History) : Prop extends Accounted h where
  not_idle : ∀ {scope s}, h.cache.slots.get? scope = some s → s.isIdle = false

theorem inv_start : Inv .start where
  accounts hs := by cases hs
  number_lt hs := by cases hs
  slot_lt _ hq := absurd hq List.not_mem_nil
  number_eq_iff _ hq := absurd hq List.not_mem_nil
  not_removed _ hq := absurd hq List.not_mem_nil
  failed _ hq := absurd hq List.not_mem_nil
  not_idle hs := by cases hs

/-- A read has its registration exactly if the cache finds it. -/
theorem Accounted.holds_iff (ha : Accounted h) (hq : q ∈ h.reads) :
    h.Holds q ↔ (h.cache.slotOf? q.ticket).isSome = true := by
  rw [Option.isSome_iff_exists]
  constructor
  · rintro ⟨hreg, hr⟩
    obtain ⟨s, hs⟩ := Option.isSome_iff_exists.1 hreg
    exact ⟨s, slotOf?_eq_some_iff.2 ⟨hs, (ha.number_eq_iff q hq hs).2 hr⟩⟩
  · rintro ⟨s, hs⟩
    obtain ⟨hget, hnum⟩ := slotOf?_eq_some_iff.1 hs
    have hreg : (h.cache.slots.get? q.scope).isSome = true := by
      rw [Read.scope, hget]
      rfl
    exact ⟨hreg, (ha.number_eq_iff q hq hget).1 hnum⟩

/-! ## A read begins -/

section Begin

variable {s : Slot} {entries : List Entry} {now : Timestamp}

/-- No read gets or loses its registration when a scope is registered. -/
theorem holds_register (hs : h.cache.slots.get? scope = none) :
    (h.register scope now).Holds (q.markReplaced scope) ↔ h.Holds q := by
  rw [History.Holds, History.Holds, Read.scope_markReplaced]
  by_cases he : q.scope = scope
  · rw [Read.replaced_markReplaced_self he, he, hs]
    constructor
    · rintro ⟨_, hr⟩
      cases hr
    · rintro ⟨hreg, _⟩
      cases hreg
  · have hget : (h.register scope now).cache.slots.get? q.scope = h.cache.slots.get? q.scope :=
      Table.get?_insert_of_ne _ he _
    rw [Read.markReplaced_of_ne he, hget]

/-- A new registration has a number that no read has. -/
theorem Accounted.register (ha : Accounted h) (hs : h.cache.slots.get? scope = none) :
    Accounted (h.register scope now) where
  accounts hs' := by
    rcases Table.get?_insert_eq_some_iff.1 hs' with ⟨rfl, rfl⟩ | ⟨hne, hs'⟩
    · rw [History.readsOn, History.register, filter_isOn_map_markReplaced]
      exact accounts_fresh _ _
    · have hreads : (h.register scope now).readsOn _ = h.readsOn _ :=
        filter_isOn_map hne (Read.scope_markReplaced scope) (fun _ => Read.markReplaced_of_ne) _
      rw [hreads]
      exact ha.accounts hs'
  number_lt hs' := by
    show _ < h.cache.nextNumber + 1
    rcases Table.get?_insert_eq_some_iff.1 hs' with ⟨rfl, rfl⟩ | ⟨_, hs'⟩
    · exact Nat.lt_succ_self h.cache.nextNumber
    · exact Nat.lt_succ_of_lt (ha.number_lt hs')
  slot_lt q' hq' := by
    obtain ⟨q, hq, rfl⟩ := List.mem_map.1 hq'
    rw [Read.ticket_markReplaced]
    exact Nat.lt_succ_of_lt (ha.slot_lt q hq)
  number_eq_iff q' hq' s hs' := by
    obtain ⟨q, hq, rfl⟩ := List.mem_map.1 hq'
    rw [Read.scope_markReplaced] at hs'
    rcases Table.get?_insert_eq_some_iff.1 hs' with ⟨he, rfl⟩ | ⟨hne, hs'⟩
    · have hlt := ha.slot_lt q hq
      rw [Read.ticket_markReplaced, Read.replaced_markReplaced_self he]
      refine ⟨fun hn => ?_, fun hr => by cases hr⟩
      have hn' : h.cache.nextNumber = q.ticket.slot := hn
      omega
    · rw [Read.markReplaced_of_ne hne]
      exact ha.number_eq_iff q hq hs'
  not_removed q' hq' hholds := by
    obtain ⟨q, hq, rfl⟩ := List.mem_map.1 hq'
    rw [holds_register hs] at hholds
    rw [Read.removed_markReplaced]
    exact ha.not_removed q hq hholds
  failed q' hq' hr hholds := by
    obtain ⟨q, hq, rfl⟩ := List.mem_map.1 hq'
    rw [holds_register hs] at hholds
    rw [Read.removed_markReplaced] at hr
    rw [Read.outcome_markReplaced]
    exact ha.failed q hq hr hholds

/-- A new read is on the registration of its scope and on no other. -/
theorem readsOn_append_start (c : Cache) (reads : List Read) (t : Ticket) (entries : List Entry)
    (scope : Scope) :
    History.readsOn ⟨c, reads ++ [.start t entries]⟩ scope =
      reads.filter (·.isOn scope) ++ if t.scope = scope then [.start t entries] else [] := by
  rw [History.readsOn, List.filter_append, List.filter_cons, List.filter_nil]
  by_cases ht : t.scope = scope
  · have hon : (Read.start t entries).isOn scope = true := Read.isOn_iff.2 ⟨ht, rfl⟩
    rw [if_pos ht, if_pos hon]
  · have hoff : (Read.start t entries).isOn scope = false := Read.isOn_of_ne ht
    rw [if_neg ht, hoff]
    rfl

/-- A read of a registered scope joins the reads of the registration. -/
theorem Accounted.begin (ha : Accounted h) (hs : h.cache.slots.get? scope = some s) :
    Accounted (h.begin scope entries now) := by
  rw [History.begin_of_registered entries now hs]
  have hreg : ∀ scope', ((h.cache.slots.insert scope s.beginRead).get? scope').isSome =
      (h.cache.slots.get? scope').isSome := by
    intro scope'
    by_cases he : scope' = scope
    · rw [he, Table.get?_insert_self, hs]
      rfl
    · rw [Table.get?_insert_of_ne _ he]
  constructor
  case accounts =>
    intro scope' s' hs'
    rw [readsOn_append_start]
    rcases Table.get?_insert_eq_some_iff.1 hs' with ⟨rfl, rfl⟩ | ⟨hne, hs'⟩
    · rw [if_pos rfl]
      exact (ha.accounts hs).beginRead rfl rfl
    · rw [if_neg hne.symm, List.append_nil]
      exact ha.accounts hs'
  case number_lt =>
    intro scope' s' hs'
    rcases Table.get?_insert_eq_some_iff.1 hs' with ⟨_, rfl⟩ | ⟨_, hs'⟩
    · exact ha.number_lt (s := s) hs
    · exact ha.number_lt hs'
  case slot_lt =>
    intro q hq
    rcases List.mem_append.1 hq with hq | hq
    · exact ha.slot_lt q hq
    · rw [List.mem_singleton.1 hq]
      exact ha.number_lt hs
  case number_eq_iff =>
    intro q hq s' hs'
    rcases List.mem_append.1 hq with hq | hq
    · rcases Table.get?_insert_eq_some_iff.1 hs' with ⟨he, rfl⟩ | ⟨_, hs'⟩
      · rw [Slot.beginRead_number]
        exact ha.number_eq_iff q hq (by rw [he]; exact hs)
      · exact ha.number_eq_iff q hq hs'
    · rw [List.mem_singleton] at hq
      subst hq
      rcases Table.get?_insert_eq_some_iff.1 hs' with ⟨_, rfl⟩ | ⟨hne, _⟩
      · exact ⟨fun _ => rfl, fun _ => rfl⟩
      · exact absurd rfl hne
  case not_removed =>
    intro q hq hholds
    rcases List.mem_append.1 hq with hq | hq
    · exact ha.not_removed q hq ⟨by rw [← hreg]; exact hholds.1, hholds.2⟩
    · rw [List.mem_singleton.1 hq]
      rfl
  case failed =>
    intro q hq hr hholds
    rcases List.mem_append.1 hq with hq | hq
    · exact ha.failed q hq hr fun hold => hholds ⟨by rw [hreg]; exact hold.1, hold.2⟩
    · rw [List.mem_singleton] at hq
      subst hq
      refine absurd ⟨?_, rfl⟩ hholds
      rw [hreg]
      exact Option.isSome_iff_exists.2 ⟨s, hs⟩

/-- A read that begins leaves no registration idle, since it is pending. -/
theorem not_isIdle_begin {scope' : Scope} {s' : Slot}
    (h' : ∀ {s''}, scope' ≠ scope → h.cache.slots.get? scope' = some s'' → s''.isIdle = false)
    (hs : h.cache.slots.get? scope = some s)
    (hs' : (h.begin scope entries now).cache.slots.get? scope' = some s') : s'.isIdle = false := by
  rw [History.begin_of_registered entries now hs] at hs'
  rcases Table.get?_insert_eq_some_iff.1 hs' with ⟨_, rfl⟩ | ⟨hne, hs'⟩
  · rfl
  · exact h' hne hs'

/-- A read that begins keeps the invariant. -/
theorem Inv.begin (hi : Inv h) (scope : Scope) (entries : List Entry) (now : Timestamp) :
    Inv (h.begin scope entries now) := by
  cases hs : h.cache.slots.get? scope with
  | some s =>
    exact ⟨hi.toAccounted.begin hs, not_isIdle_begin (fun _ => hi.not_idle) hs⟩
  | none =>
    rw [History.begin_of_unregistered entries now hs]
    have hreg : (h.register scope now).cache.slots.get? scope =
        some (.fresh h.cache.nextNumber now) := Table.get?_insert_self _ _ _
    refine ⟨(hi.toAccounted.register hs).begin hreg, not_isIdle_begin ?_ hreg⟩
    intro s'' hne hs''
    rw [History.register, Table.get?_insert_of_ne _ hne] at hs''
    exact hi.not_idle hs''

end Begin

/-! ## A read ends -/

section Finish

variable {first rest : List Read} {s : Slot} {o : Outcome} {now : Timestamp}

/-- The end of a read changes nothing but its outcome. -/
theorem filter_isOn_finish (scope : Scope) :
    (first ++ q.finish o :: rest).filter (·.isOn scope) =
      if q.isOn scope = true then
        first.filter (·.isOn scope) ++ q.finish o :: rest.filter (·.isOn scope)
      else (first ++ q :: rest).filter (·.isOn scope) := by
  have hon : (q.finish o).isOn scope = q.isOn scope := rfl
  rw [List.filter_append, List.filter_cons, hon]
  split
  · rfl
  · next hoff => rw [List.filter_append, List.filter_cons, if_neg hoff]

/-- All reads but one have stayed as they were, and that one has ended. -/
theorem forall_mem_finish {P : Read → Prop} (hreads : h.reads = first ++ q :: rest)
    (hP : ∀ x ∈ h.reads, P x) (hq : P q → P (q.finish o)) :
    ∀ x ∈ first ++ q.finish o :: rest, P x := by
  rw [hreads] at hP
  intro x hx
  rcases eq_or_mem_others hx with rfl | hx
  · exact hq (hP q (List.mem_append_right _ List.mem_cons_self))
  · exact hP x (mem_of_mem_others q hx)

/-- A read that has lost its registration ends without a trace in the cache. -/
theorem Inv.finish_of_not_holds (hi : Inv h) (hreads : h.reads = first ++ q :: rest)
    (hf : q.outcome = none) (hq : ¬h.Holds q) : Inv ⟨h.cache, first ++ q.finish o :: rest⟩ where
  accounts {scope s} hs := by
    have hoff : ¬q.isOn scope = true := by
      intro hon
      obtain ⟨hscope, hr⟩ := Read.isOn_iff.1 hon
      refine hq ⟨?_, hr⟩
      rw [hscope]
      exact Option.isSome_iff_exists.2 ⟨s, hs⟩
    rw [History.readsOn, filter_isOn_finish, if_neg hoff, ← hreads]
    exact hi.accounts hs
  number_lt hs := hi.number_lt hs
  slot_lt := forall_mem_finish hreads hi.slot_lt id
  number_eq_iff := forall_mem_finish hreads hi.number_eq_iff id
  not_removed := forall_mem_finish hreads hi.not_removed id
  failed := by
    refine forall_mem_finish hreads hi.failed fun hfailed hr _ => ?_
    have ho := hfailed hr hq
    rw [hf] at ho
    cases ho
  not_idle hs := hi.not_idle hs

/-- The registration of a scope after a read of it has ended. -/
theorem get?_conclude (hs : h.cache.slotOf? q.ticket = some s) (e : ReadEnd) (now : Timestamp)
    (scope : Scope) :
    (h.cache.conclude q.ticket e now).slots.get? scope =
      if scope = q.scope then s.endRead? q.generation now e else h.cache.slots.get? scope := by
  split
  · next he =>
    rw [he]
    exact get?_conclude_self hs e now
  · next hne => exact get?_conclude_of_ne hne e now

/-- A read that still has its registration is one of those that the registration accounts for. -/
theorem Inv.exists_slot (hi : Inv h) (hreads : h.reads = first ++ q :: rest) (hq : h.Holds q) :
    ∃ s, h.cache.slotOf? q.ticket = some s ∧ h.cache.slots.get? q.scope = some s ∧
      Accounts s (first.filter (·.isOn q.scope) ++ q :: rest.filter (·.isOn q.scope)) := by
  have hmem : q ∈ h.reads := by
    rw [hreads]
    exact List.mem_append_right _ List.mem_cons_self
  obtain ⟨s, hs⟩ := Option.isSome_iff_exists.1 ((hi.holds_iff hmem).1 hq)
  have hslot : h.cache.slots.get? q.scope = some s := (slotOf?_eq_some_iff.1 hs).1
  refine ⟨s, hs, hslot, ?_⟩
  have ha := hi.accounts hslot
  have hon : q.isOn q.scope = true := Read.isOn_iff.2 ⟨rfl, hq.2⟩
  rw [History.readsOn, hreads, List.filter_append, List.filter_cons, if_pos hon] at ha
  exact ha

/-- If a read loses its registration by the end of a read, it has failed. -/
theorem failed_of_lost (hs : h.cache.slotOf? q.ticket = some s)
    (ha : Accounts s (first.filter (·.isOn q.scope) ++ q :: rest.filter (·.isOn q.scope)))
    (hf : q.outcome = none) (hq : h.Holds q) {x : Read} (hx : x ∈ first ++ q.finish o :: rest)
    (hhold : h.Holds x)
    (hlost : ¬History.Holds ⟨h.cache.conclude q.ticket (q.ending o) now,
      first ++ q.finish o :: rest⟩ x) : x.outcome = some .failed := by
  have hgone : x.scope = q.scope ∧ s.endRead? q.generation now (q.ending o) = none := by
    refine Classical.byContradiction fun hcon => hlost ⟨?_, hhold.2⟩
    rw [get?_conclude hs]
    split
    · next he => exact Option.ne_none_iff_isSome.1 fun hn => hcon ⟨he, hn⟩
    · exact hhold.1
  have hon : q.isOn q.scope = true := Read.isOn_iff.2 ⟨rfl, hq.2⟩
  have hxon : x.isOn q.scope = true := Read.isOn_iff.2 ⟨hgone.1, hhold.2⟩
  have hfilter := List.mem_filter.2 ⟨hx, hxon⟩
  rw [filter_isOn_finish, if_pos hon] at hfilter
  exact ha.failed_of_endRead hf hgone.2 x hfilter

/-- A read that still has its registration settles with it. -/
theorem Inv.finish_of_holds (hi : Inv h) (hreads : h.reads = first ++ q :: rest)
    (hf : q.outcome = none) (hq : h.Holds q) :
    Inv ⟨h.cache.conclude q.ticket (q.ending o) now, first ++ q.finish o :: rest⟩ := by
  obtain ⟨s, hs, hslot, haccounts⟩ := hi.exists_slot hreads hq
  have hon : q.isOn q.scope = true := Read.isOn_iff.2 ⟨rfl, hq.2⟩
  constructor
  case toAccounted =>
    constructor
    case accounts =>
      intro scope s' hs'
      rw [get?_conclude hs] at hs'
      rw [History.readsOn, filter_isOn_finish]
      split at hs'
      · next he =>
        rw [he, if_pos hon]
        exact haccounts.endRead hf hs'
      · next hne =>
        have hoff : ¬q.isOn scope = true := fun h' => hne (Read.isOn_iff.1 h').1.symm
        rw [if_neg hoff, ← hreads]
        exact hi.accounts hs'
    case number_lt =>
      intro scope s' hs'
      rw [get?_conclude hs] at hs'
      rw [nextNumber_conclude]
      split at hs'
      · rw [Slot.number_endRead? hs']
        exact hi.number_lt hslot
      · exact hi.number_lt hs'
    case slot_lt =>
      rw [nextNumber_conclude]
      exact forall_mem_finish hreads hi.slot_lt id
    case number_eq_iff =>
      refine forall_mem_finish hreads (fun x hx s' hs' => ?_) id
      rw [get?_conclude hs] at hs'
      split at hs'
      · next he =>
        rw [Slot.number_endRead? hs']
        exact hi.number_eq_iff x hx (by rw [he]; exact hslot)
      · exact hi.number_eq_iff x hx hs'
    case not_removed =>
      refine forall_mem_finish hreads (fun x hx hhold => ?_) id
      refine hi.not_removed x hx ⟨?_, hhold.2⟩
      have hreg := hhold.1
      rw [get?_conclude hs] at hreg
      split at hreg
      · next he =>
        rw [he, hslot]
        rfl
      · exact hreg
    case failed =>
      intro x hx hr hlose
      by_cases hhold : h.Holds x
      · exact failed_of_lost hs haccounts hf hq hx hhold hlose
      · exact forall_mem_finish (P := fun x => x.removed = false → ¬h.Holds x →
          x.outcome = some .failed) hreads hi.failed (fun _ _ hn => absurd hq hn) x hx hr hhold
  case not_idle =>
    intro scope s' hs'
    rw [get?_conclude hs] at hs'
    split at hs'
    · exact haccounts.not_isIdle_endRead hf hs'
    · exact hi.not_idle hs'

/-- A read that ends keeps the invariant, however it ends. -/
theorem Inv.finish (hi : Inv h) (place : Nat) (o : Outcome) (now : Timestamp) :
    Inv (h.finish place o now) := by
  rcases h.finish_cases place o now with he | ⟨q, hq, hf, he⟩
  · rw [he]
    exact hi
  · obtain ⟨first, rest, hreads, hset⟩ := exists_split_of_getElem? hq
    rw [he, hset]
    by_cases hhold : h.Holds q
    · exact hi.finish_of_holds hreads hf hhold
    · have hmem : q ∈ h.reads := List.mem_of_getElem? hq
      have hnone : h.cache.slotOf? q.ticket = none := by
        rw [hi.holds_iff hmem] at hhold
        exact Option.not_isSome_iff_eq_none.1 hhold
      rw [conclude_of_slotOf?_eq_none hnone]
      exact hi.finish_of_not_holds hreads hf hhold

end Finish

/-! ## A scope is removed -/

/-- After the removal of a scope no read of it has its registration. -/
theorem holds_remove : (h.remove scope).Holds (q.markRemoved scope) ↔
    q.scope ≠ scope ∧ h.Holds q := by
  rw [History.Holds, History.Holds, Read.scope_markRemoved, Read.replaced_markRemoved]
  by_cases he : q.scope = scope
  · have hget : (h.remove scope).cache.slots.get? q.scope = none := by
      rw [he]
      exact Table.get?_erase_self _ _
    rw [hget]
    constructor
    · rintro ⟨hreg, _⟩
      cases hreg
    · rintro ⟨hne, _⟩
      exact absurd he hne
  · have hget : (h.remove scope).cache.slots.get? q.scope = h.cache.slots.get? q.scope :=
      Table.get?_erase_of_ne _ he
    rw [hget]
    exact ⟨fun hhold => ⟨he, hhold⟩, fun hhold => hhold.2⟩

/-- A removal keeps the invariant. -/
theorem Inv.remove (hi : Inv h) (scope : Scope) : Inv (h.remove scope) where
  accounts hs' := by
    obtain ⟨hne, hs⟩ := Table.get?_erase_eq_some_iff.1 hs'
    have hreads : (h.remove scope).readsOn _ = h.readsOn _ :=
      filter_isOn_map hne (Read.scope_markRemoved scope) (fun _ => Read.markRemoved_of_ne) h.reads
    rw [hreads]
    exact hi.accounts hs
  number_lt hs' := hi.number_lt (Table.get?_erase_eq_some_iff.1 hs').2
  slot_lt q' hq' := by
    obtain ⟨q, hq, rfl⟩ := List.mem_map.1 hq'
    rw [Read.ticket_markRemoved]
    exact hi.slot_lt q hq
  number_eq_iff q' hq' s hs' := by
    obtain ⟨q, hq, rfl⟩ := List.mem_map.1 hq'
    rw [Read.scope_markRemoved] at hs'
    rw [Read.ticket_markRemoved, Read.replaced_markRemoved]
    exact hi.number_eq_iff q hq (Table.get?_erase_eq_some_iff.1 hs').2
  not_removed q' hq' hhold := by
    obtain ⟨q, hq, rfl⟩ := List.mem_map.1 hq'
    obtain ⟨hne, hhold⟩ := holds_remove.1 hhold
    rw [Read.markRemoved_of_ne hne]
    exact hi.not_removed q hq hhold
  failed q' hq' hr hhold := by
    obtain ⟨q, hq, rfl⟩ := List.mem_map.1 hq'
    have hne : q.scope ≠ scope := by
      intro he
      rw [Read.removed_markRemoved_self he] at hr
      cases hr
    rw [holds_remove, not_and] at hhold
    rw [Read.markRemoved_of_ne hne] at hr ⊢
    exact hi.failed q hq hr (hhold hne)
  not_idle hs' := hi.not_idle (Table.get?_erase_eq_some_iff.1 hs').2

/-! ## Every run -/

theorem Inv.allLoaded (hi : Inv h) : Inv h.allLoaded :=
  ⟨⟨hi.accounts, hi.number_lt, hi.slot_lt, hi.number_eq_iff, hi.not_removed, hi.failed⟩,
    hi.not_idle⟩

/-- Every single step keeps the invariant. -/
theorem kept_inv : History.Kept (fun _ => True) Inv where
  begin _ scope entries now _ hi := hi.begin scope entries now
  finish _ place o now hi := hi.finish place o now
  remove _ scope hi := hi.remove scope
  allLoaded _ hi := hi.allLoaded

theorem Inv.step (hi : Inv h) (a : Action) : Inv (h.step a) := kept_inv.step a.finds_true hi

theorem Inv.run (hi : Inv h) (actions : List Action) : Inv (h.run actions) :=
  kept_inv.run (fun a _ => a.finds_true) hi

/-- The invariant holds after every run. -/
theorem inv_run (actions : List Action) : Inv (History.start.run actions) :=
  inv_start.run actions

end FeatureFlags.Cache

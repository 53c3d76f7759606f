import FeatureFlags.Proofs.Cache.History

/-!
# The accounts of a registration

`Accounts s reads` says that the registration `s` is what the reads that have begun on it make of
it: it counts the pending ones, their generations increase up to the latest one, and it serves the
loaded read with the highest generation, or nothing if there is none.

* A read that begins keeps the accounts (`Accounts.beginRead`).
* A read that ends keeps them, whichever way it ends, if it leaves the registration
  (`Accounts.endRead`).
* A read that ends takes the registration away only if all reads on it have failed
  (`Accounts.failed_of_endRead`).
-/

namespace FeatureFlags.Cache

/-- The reads have taken generations up to the latest one in the order in which they began. -/
structure InOrder (latest : Nat) (reads : List Read) : Prop where
  increasing : reads.Pairwise fun a b => a.generation < b.generation
  pos : ∀ q ∈ reads, 0 < q.generation
  le_latest : ∀ q ∈ reads, q.generation ≤ latest

/-- The registration is what the reads on it, in the order in which they began, make of it. -/
structure Accounts (s : Slot) (reads : List Read) : Prop where
  pending_eq : s.pending = reads.countP Read.isPending
  inOrder : InOrder s.latest reads
  le_served : ∀ q ∈ reads, q.outcome = some .loaded → q.generation ≤ s.generation
  served : s.generation = 0 ∧ s.flags = .empty ∨
    ∃ q ∈ reads, q.outcome = some .loaded ∧ q.generation = s.generation ∧ s.flags = q.flags

/-- Nothing has begun on a new registration. -/
theorem accounts_fresh (number : Nat) (now : Timestamp) : Accounts (Slot.fresh number now) [] where
  pending_eq := rfl
  inOrder := ⟨List.Pairwise.nil, fun _ hq => absurd hq List.not_mem_nil,
    fun _ hq => absurd hq List.not_mem_nil⟩
  le_served _ hq := absurd hq List.not_mem_nil
  served := Or.inl ⟨rfl, rfl⟩

/-! ## The end of a read among others -/

/-- A member of a list is the one at a given place or one of the others. -/
theorem eq_or_mem_others {α : Type} {first rest : List α} {a x : α}
    (h : x ∈ first ++ a :: rest) : x = a ∨ x ∈ first ++ rest := by
  rw [List.mem_append, List.mem_cons] at h
  rcases h with h | h | h
  · exact Or.inr (List.mem_append_left rest h)
  · exact Or.inl h
  · exact Or.inr (List.mem_append_right first h)

theorem mem_of_mem_others {α : Type} {first rest : List α} {x : α} (a : α)
    (h : x ∈ first ++ rest) : x ∈ first ++ a :: rest := by
  rw [List.mem_append] at h ⊢
  rcases h with h | h
  · exact Or.inl h
  · exact Or.inr (List.mem_cons_of_mem a h)

namespace InOrder

variable {latest : Nat} {reads first rest : List Read} {q : Read}

/-- A read that begins takes the next generation. -/
theorem beginRead (h : InOrder latest reads) (hg : q.generation = latest + 1) :
    InOrder (latest + 1) (reads ++ [q]) where
  increasing := by
    rw [List.pairwise_append]
    refine ⟨h.increasing, List.pairwise_singleton _ _, ?_⟩
    intro a ha b hb
    have hle := h.le_latest a ha
    rw [List.mem_singleton.1 hb]
    omega
  pos x hx := by
    rw [List.mem_append, List.mem_singleton] at hx
    rcases hx with hx | rfl
    · exact h.pos x hx
    · omega
  le_latest x hx := by
    rw [List.mem_append, List.mem_singleton] at hx
    rcases hx with hx | rfl
    · have hle := h.le_latest x hx
      omega
    · omega

/-- The end of a read does not touch the generations. -/
theorem finish (h : InOrder latest (first ++ q :: rest)) (o : Outcome) :
    InOrder latest (first ++ q.finish o :: rest) where
  increasing := by
    have hi := h.increasing
    rw [List.pairwise_append, List.pairwise_cons] at hi ⊢
    obtain ⟨hfirst, ⟨hq, hrest⟩, hcross⟩ := hi
    refine ⟨hfirst, ⟨hq, hrest⟩, ?_⟩
    intro a ha b hb
    rcases List.mem_cons.1 hb with rfl | hb
    · exact hcross a ha q List.mem_cons_self
    · exact hcross a ha b (List.mem_cons_of_mem q hb)
  pos x hx := by
    rcases eq_or_mem_others hx with rfl | hx
    · exact h.pos q (List.mem_append_right _ List.mem_cons_self)
    · exact h.pos x (mem_of_mem_others _ hx)
  le_latest x hx := by
    rcases eq_or_mem_others hx with rfl | hx
    · exact h.le_latest q (List.mem_append_right _ List.mem_cons_self)
    · exact h.le_latest x (mem_of_mem_others _ hx)

end InOrder

/-! ## How many reads are pending -/

section Pending

variable {first rest : List Read} {q : Read}

/-- A read in flight is one of the pending ones. -/
theorem countP_inFlight (hf : q.outcome = none) :
    (first ++ q :: rest).countP Read.isPending = (first ++ rest).countP Read.isPending + 1 := by
  have hq : q.isPending = true := by rw [Read.isPending, hf]; rfl
  rw [List.countP_append, List.countP_append, List.countP_cons, if_pos hq]
  omega

/-- A read that nobody has waited for remains one of them. -/
theorem countP_abandoned :
    (first ++ q.finish .abandoned :: rest).countP Read.isPending =
      (first ++ rest).countP Read.isPending + 1 := by
  have hq : (q.finish .abandoned).isPending = true := rfl
  rw [List.countP_append, List.countP_append, List.countP_cons, if_pos hq]
  omega

/-- A read that has come back does not. -/
theorem countP_returned {o : Outcome} (ho : o ≠ .abandoned) :
    (first ++ q.finish o :: rest).countP Read.isPending =
      (first ++ rest).countP Read.isPending := by
  have hq : ¬(q.finish o).isPending = true := by
    cases o with
    | loaded => exact Bool.false_ne_true
    | failed => exact Bool.false_ne_true
    | abandoned => exact absurd rfl ho
  rw [List.countP_append, List.countP_append, List.countP_cons, if_neg hq]
  omega

end Pending

namespace Accounts

variable {s s' : Slot} {reads first rest : List Read} {q : Read} {now : Timestamp}

/-- A registration is idle exactly if all reads on it have failed. -/
theorem isIdle_iff (ha : Accounts s reads) :
    s.isIdle = true ↔ ∀ q ∈ reads, q.outcome = some .failed := by
  rw [Slot.isIdle, Bool.and_eq_true, beq_iff_eq, beq_iff_eq, ha.pending_eq, List.countP_eq_zero]
  constructor
  · rintro ⟨hp, hg⟩ q hq
    have hnot := hp q hq
    rw [Read.isPending, Bool.or_eq_true, beq_iff_eq, beq_iff_eq] at hnot
    cases ho : q.outcome with
    | none => exact absurd (Or.inl ho) hnot
    | some o =>
      cases o with
      | loaded =>
        -- The generation of a loaded read is positive and at most the one that is served.
        have hle := ha.le_served q hq ho
        have hpos := ha.inOrder.pos q hq
        omega
      | failed => rfl
      | abandoned => exact absurd (Or.inr ho) hnot
  · intro h
    refine ⟨fun q hq => ?_, ?_⟩
    · rw [Read.isPending, h q hq]
      decide
    · rcases ha.served with ⟨hg, _⟩ | ⟨q, hq, hl, _⟩
      · exact hg
      · rw [h q hq] at hl
        cases hl

/-- Some read on a registration that is not idle has not failed. -/
theorem exists_not_failed (ha : Accounts s reads) (hidle : s.isIdle = false) :
    ∃ q ∈ reads, q.outcome ≠ some .failed := by
  rw [Bool.eq_false_iff, ne_eq, ha.isIdle_iff] at hidle
  simpa using hidle

/-- A registration is at generation zero as long as no read on it is loaded. -/
theorem generation_eq_zero_iff (ha : Accounts s reads) :
    s.generation = 0 ↔ ∀ q ∈ reads, q.outcome ≠ some .loaded := by
  constructor
  · intro hg q hq hl
    have hle := ha.le_served q hq hl
    have hpos := ha.inOrder.pos q hq
    omega
  · intro hnone
    rcases ha.served with ⟨hg, _⟩ | ⟨q, hq, hl, _⟩
    · exact hg
    · exact absurd hl (hnone q hq)

/-- It serves nothing until then. -/
theorem flags_eq_empty (ha : Accounts s reads) (hg : s.generation = 0) : s.flags = .empty := by
  rcases ha.served with ⟨_, hflags⟩ | ⟨q, hq, _, hq', _⟩
  · exact hflags
  · have hpos := ha.inOrder.pos q hq
    omega

/-- No read is served that has not begun. -/
theorem generation_le_latest (ha : Accounts s reads) : s.generation ≤ s.latest := by
  rcases ha.served with ⟨hg, _⟩ | ⟨q, hq, _, hg, _⟩
  · omega
  · have hle := ha.inOrder.le_latest q hq
    omega

/-- A read that begins counts as pending. -/
theorem beginRead (ha : Accounts s reads) (hf : q.outcome = none)
    (hg : q.generation = s.latest + 1) : Accounts s.beginRead (reads ++ [q]) where
  pending_eq := by
    rw [countP_inFlight hf, List.append_nil, ← ha.pending_eq]
    rfl
  inOrder := ha.inOrder.beginRead hg
  le_served x hx hl := by
    rw [List.mem_append, List.mem_singleton] at hx
    rcases hx with hx | rfl
    · exact ha.le_served x hx hl
    · rw [hf] at hl
      cases hl
  served := by
    rcases ha.served with h | ⟨x, hx, h⟩
    · exact Or.inl h
    · exact Or.inr ⟨x, List.mem_append_left _ hx, h⟩

/-- A read that ends without being installed only changes what is pending. -/
theorem notInstalled (ha : Accounts s (first ++ q :: rest)) (hf : q.outcome = none) {o : Outcome}
    (ho : o = .loaded → q.generation ≤ s.generation) {pending : Nat}
    (hp : pending = (first ++ q.finish o :: rest).countP Read.isPending) :
    Accounts { s with pending } (first ++ q.finish o :: rest) where
  pending_eq := hp
  inOrder := ha.inOrder.finish o
  le_served x hx hl := by
    rcases eq_or_mem_others hx with rfl | hx
    · exact ho (Option.some.inj hl)
    · exact ha.le_served x (mem_of_mem_others _ hx) hl
  served := by
    rcases ha.served with h | ⟨x, hx, hl, h⟩
    · exact Or.inl h
    · rcases eq_or_mem_others hx with rfl | hx
      · rw [hf] at hl
        cases hl
      · exact Or.inr ⟨x, mem_of_mem_others _ hx, hl, h⟩

/-- A read that ends well with the highest generation is installed. -/
theorem installed (ha : Accounts s (first ++ q :: rest)) (hlt : s.generation < q.generation)
    {pending : Nat} (hp : pending = (first ++ q.finish .loaded :: rest).countP Read.isPending) :
    Accounts { s with pending, generation := q.generation, flags := q.flags, loadedAt := now }
      (first ++ q.finish .loaded :: rest) where
  pending_eq := hp
  inOrder := ha.inOrder.finish .loaded
  le_served x hx hl := by
    rcases eq_or_mem_others hx with rfl | hx
    · exact Nat.le_refl q.generation
    · have hle := ha.le_served x (mem_of_mem_others _ hx) hl
      exact Nat.le_of_lt (Nat.lt_of_le_of_lt hle hlt)
  served := Or.inr
    ⟨q.finish .loaded, List.mem_append_right _ List.mem_cons_self, rfl, rfl, rfl⟩

/-- A read that ends well is installed, unless a read with a higher generation is. -/
theorem loaded (ha : Accounts s (first ++ q :: rest)) (hf : q.outcome = none) (now : Timestamp) :
    Accounts (s.install q.generation q.flags now).release (first ++ q.finish .loaded :: rest) := by
  have hcount : s.pending - 1 = (first ++ q.finish .loaded :: rest).countP Read.isPending := by
    rw [ha.pending_eq, countP_inFlight hf, countP_returned (by decide), Nat.add_sub_cancel]
  by_cases hlt : s.generation < q.generation
  · rw [Slot.install, if_pos hlt]
    exact ha.installed hlt hcount
  · rw [Slot.install, if_neg hlt]
    exact ha.notInstalled hf (fun _ => Nat.le_of_not_lt hlt) hcount

/-- A read that fails only ceases to be pending. -/
theorem failed (ha : Accounts s (first ++ q :: rest)) (hf : q.outcome = none) :
    Accounts s.release (first ++ q.finish .failed :: rest) := by
  refine ha.notInstalled hf (fun h => by cases h) ?_
  rw [ha.pending_eq, countP_inFlight hf, countP_returned (by decide), Nat.add_sub_cancel]

/-- A read that is abandoned goes on counting as pending. -/
theorem abandoned (ha : Accounts s (first ++ q :: rest)) (hf : q.outcome = none) :
    Accounts s (first ++ q.finish .abandoned :: rest) := by
  refine ha.notInstalled hf (fun h => by cases h) ?_
  rw [ha.pending_eq, countP_inFlight hf, countP_abandoned]

/-! ## Any end of a read -/

/-- A read that ends keeps the accounts of its registration, if that stays. -/
theorem endRead (ha : Accounts s (first ++ q :: rest)) (hf : q.outcome = none) {o : Outcome}
    (h : s.endRead? q.generation now (q.ending o) = some s') :
    Accounts s' (first ++ q.finish o :: rest) := by
  cases o with
  | loaded =>
    rw [← Option.some.inj h]
    exact ha.loaded hf now
  | failed =>
    simp only [Read.ending, Slot.endRead?] at h
    split at h
    · cases h
    · rw [← Option.some.inj h]
      exact ha.failed hf
  | abandoned =>
    rw [← Option.some.inj h]
    exact ha.abandoned hf

/-- A registration that outlasts the end of a read is not idle. -/
theorem not_isIdle_endRead (ha : Accounts s (first ++ q :: rest)) (hf : q.outcome = none)
    {o : Outcome} (h : s.endRead? q.generation now (q.ending o) = some s') :
    s'.isIdle = false := by
  have hmem : q.finish o ∈ first ++ q.finish o :: rest :=
    List.mem_append_right _ List.mem_cons_self
  by_cases ho : o = .failed
  · subst ho
    simp only [Read.ending, Slot.endRead?] at h
    split at h
    · cases h
    · next hn =>
      rw [← Option.some.inj h]
      exact Bool.eq_false_iff.2 hn
  · refine Bool.eq_false_iff.2 fun hi => ho ?_
    exact Option.some.inj ((ha.endRead hf h).isIdle_iff.1 hi _ hmem)

/-- The end of a read takes a registration away only if all reads on it have failed. -/
theorem failed_of_endRead (ha : Accounts s (first ++ q :: rest)) (hf : q.outcome = none)
    {o : Outcome} (h : s.endRead? q.generation now (q.ending o) = none) :
    ∀ x ∈ first ++ q.finish o :: rest, x.outcome = some .failed := by
  cases o with
  | loaded => cases h
  | abandoned => cases h
  | failed =>
    simp only [Read.ending, Slot.endRead?] at h
    split at h
    · next hidle => exact (ha.failed hf).isIdle_iff.1 hidle
    · cases h

end Accounts

end FeatureFlags.Cache

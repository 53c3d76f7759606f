import FeatureFlags.Proofs.Store.Invariant
import Mathlib.Data.List.Induction

/-!
# Stores made from snapshots

A snapshot is loaded entry by entry, and each entry is compared with what is stored so far.  What
comes out does not depend on that.

* `upsertAll_empty_of_ok` and `exists_upsertAll_empty`: a list of entries is accepted exactly if it
  is `Coherent`, which is said of the entries alone and two at a time, and then the store `Holds`
  the last entry for each key in each scope.
* `ofSnapshot_holds_last`: so only the order of the entries for one key in one scope
  matters, and neither the order of the others nor how the snapshot groups them.
-/

namespace FeatureFlags.Store

variable {s s' : Store} {scope scope' : Scope} {e : Entry} {key : String}
  {entries entries' : List (Scope × Entry)}

/-! ## Entries with their scopes -/

/-- The entries of a list for a key in a scope, in their order. -/
def entriesAt (entries : List (Scope × Entry)) (scope : Scope) (key : String) : List Entry :=
  (entries.filter fun x => x.1 = scope ∧ x.2.key = key).map (·.2)

theorem mem_entriesAt_iff : e ∈ entriesAt entries scope e.key ↔ (scope, e) ∈ entries := by
  rw [entriesAt, List.mem_map]
  constructor
  · rintro ⟨x, hx, rfl⟩
    obtain ⟨hmem, hat⟩ := List.mem_filter.1 hx
    obtain ⟨rfl, _⟩ := of_decide_eq_true hat
    exact hmem
  · intro hmem
    exact ⟨(scope, e), List.mem_filter.2 ⟨hmem, decide_eq_true ⟨rfl, rfl⟩⟩, rfl⟩

theorem key_of_mem_entriesAt (he : e ∈ entriesAt entries scope key) : e.key = key := by
  rw [entriesAt, List.mem_map] at he
  obtain ⟨x, hx, rfl⟩ := he
  exact (of_decide_eq_true (List.mem_filter.1 hx).2).2

/-- One more entry comes last for its key in its scope. -/
theorem entriesAt_append (entries : List (Scope × Entry)) (scope : Scope) (e : Entry)
    (scope' : Scope) (key : String) :
    entriesAt (entries ++ [(scope, e)]) scope' key =
      entriesAt entries scope' key ++ if scope' = scope ∧ key = e.key then [e] else [] := by
  rw [entriesAt, List.filter_append, List.map_append, entriesAt]
  by_cases h : scope' = scope ∧ key = e.key
  · have heq : scope = scope' ∧ e.key = key := ⟨h.1.symm, h.2.symm⟩
    rw [if_pos h, List.filter_cons_of_pos (by simpa using heq)]
    rfl
  · have hne : ¬(scope = scope' ∧ e.key = key) := fun hat => h ⟨hat.1.symm, hat.2.symm⟩
    rw [if_neg h, List.filter_cons_of_neg (by simpa using hne)]
    rfl

/-- Whether entries are valid, and those of one project with one key are of one flag. -/
structure Coherent (entries : List (Scope × Entry)) : Prop where
  valid : ∀ x ∈ entries, x.2.Valid
  oneFlag : ∀ x ∈ entries, ∀ y ∈ entries, x.1.project = y.1.project → x.2.key = y.2.key →
    x.2.flag.id = y.2.flag.id

theorem coherent_append_iff : Coherent (entries ++ [(scope, e)]) ↔
    Coherent entries ∧ e.Valid ∧ ∀ x ∈ entries, x.1.project = scope.project → x.2.key = e.key →
      x.2.flag.id = e.flag.id := by
  have hlast : (scope, e) ∈ entries ++ [(scope, e)] := List.mem_append_right _ List.mem_cons_self
  constructor
  · intro h
    refine ⟨⟨fun x hx => ?_, fun x hx y hy => ?_⟩, h.valid _ hlast, fun x hx => ?_⟩
    · exact h.valid x (List.mem_append_left _ hx)
    · exact h.oneFlag x (List.mem_append_left _ hx) y (List.mem_append_left _ hy)
    · exact h.oneFlag x (List.mem_append_left _ hx) _ hlast
  · rintro ⟨h, hvalid, hfree⟩
    refine ⟨fun x hx => ?_, fun x hx y hy hproject hkey => ?_⟩
    · rcases List.mem_append.1 hx with hx | hx
      · exact h.valid x hx
      · exact List.mem_singleton.1 hx ▸ hvalid
    · rcases List.mem_append.1 hx with hx | hx
      · rcases List.mem_append.1 hy with hy | hy
        · exact h.oneFlag x hx y hy hproject hkey
        · obtain rfl := List.mem_singleton.1 hy
          exact hfree x hx hproject hkey
      · obtain rfl := List.mem_singleton.1 hx
        rcases List.mem_append.1 hy with hy | hy
        · exact (hfree y hy hproject.symm hkey.symm).symm
        · obtain rfl := List.mem_singleton.1 hy
          rfl

/-- Entries that are the same for each key in each scope are coherent or not together. -/
theorem Coherent.of_entriesAt (h : Coherent entries)
    (hsame : ∀ scope key, entriesAt entries' scope key = entriesAt entries scope key) :
    Coherent entries' := by
  have hsub : ∀ x ∈ entries', x ∈ entries := by
    rintro ⟨scope, e⟩ hx
    rw [← mem_entriesAt_iff, hsame, mem_entriesAt_iff] at hx
    exact hx
  exact ⟨fun x hx => h.valid x (hsub x hx),
    fun x hx y hy => h.oneFlag x (hsub x hx) y (hsub y hy)⟩

/-! ## Stores that hold entries -/

/-- Whether a store has the last entries of a list and no others. -/
structure Holds (s : Store) (entries : List (Scope × Entry)) : Prop where
  tidy : s.Tidy
  get? : ∀ scope key, (s.flags scope).get? key = (entriesAt entries scope key).getLast?

theorem holds_empty : Holds empty [] where
  tidy := kept_tidy.empty
  get? _ _ := rfl

/-- A list says all that there is in a store. -/
theorem Holds.eq (hs : Holds s entries) (hs' : Holds s' entries) : s = s' := by
  have hflags : ∀ scope, s.flags scope = s'.flags scope := by
    intro scope
    apply Table.ext_get?
    intro key
    rw [hs.get?, hs'.get?]
  have hscopes : s.scopes = s'.scopes := by
    apply Table.ext_get?
    intro scope
    rw [hs.tidy.get?_scopes, hs'.tidy.get?_scopes, hflags]
  cases s
  cases s'
  exact congrArg Store.mk hscopes

theorem Holds.put (hs : Holds s entries) (hvalid : e.Valid)
    (hfree : s.hasConflict scope.project e.key e.flag.id = false) :
    Holds (s.put scope e) (entries ++ [(scope, e)]) where
  tidy := kept_tidy.put s scope e hvalid hfree hs.tidy
  get? scope' key := by
    rw [get?_flags_put, entriesAt_append, hs.get?]
    split
    · rw [List.getLast?_concat]
    · rw [List.append_nil]

/-- What stands in the store stands for all entries of the list: an entry that another one has
replaced has the same flag. -/
theorem Holds.hasConflict_eq_false_iff (hs : Holds s entries) (hc : Coherent entries)
    (project key : String) (id : FlagId) : s.hasConflict project key id = false ↔
      ∀ x ∈ entries, x.1.project = project → x.2.key = key → x.2.flag.id = id := by
  rw [Store.hasConflict_eq_false_iff]
  constructor
  · rintro hfree ⟨scope, e⟩ hx hproject rfl
    have hne : entriesAt entries scope e.key ≠ [] := List.ne_nil_of_mem (mem_entriesAt_iff.2 hx)
    obtain ⟨last, hlast⟩ := Option.isSome_iff_exists.1 (List.getLast?_isSome.2 hne)
    have hstored := (hs.get? scope e.key).trans hlast
    have hmem := List.mem_of_getLast? hlast
    have hkey : last.key = e.key := key_of_mem_entriesAt hmem
    rw [← hkey, mem_entriesAt_iff] at hmem
    calc e.flag.id = last.flag.id := hc.oneFlag _ hx _ hmem rfl hkey.symm
      _ = id := hfree scope last hproject hstored
  · intro hfree scope e hproject he
    rw [hs.get?] at he
    have hmem := List.mem_of_getLast? he
    have hkey : e.key = key := key_of_mem_entriesAt hmem
    rw [← hkey, mem_entriesAt_iff] at hmem
    exact hfree _ hmem hproject hkey

theorem Holds.mem_listScopes_iff (hs : Holds s entries) :
    scope ∈ s.listScopes ↔ ∃ e, (scope, e) ∈ entries := by
  rw [hs.tidy.mem_listScopes_iff]
  constructor
  · intro hne
    obtain ⟨e, he⟩ := List.exists_mem_of_ne_nil _ hne
    obtain ⟨key, he⟩ := Table.mem_values_iff.1 he
    rw [hs.get?] at he
    have hmem := List.mem_of_getLast? he
    rw [← key_of_mem_entriesAt hmem, mem_entriesAt_iff] at hmem
    exact ⟨e, hmem⟩
  · rintro ⟨e, he⟩
    have hne : entriesAt entries scope e.key ≠ [] := List.ne_nil_of_mem (mem_entriesAt_iff.2 he)
    obtain ⟨last, hlast⟩ := Option.isSome_iff_exists.1 (List.getLast?_isSome.2 hne)
    exact List.ne_nil_of_mem
      (Table.mem_values_iff.2 ⟨e.key, (hs.get? scope e.key).trans hlast⟩)

/-! ## Loading -/

theorem upsertAll_append (s : Store) (entries : List (Scope × Entry)) (scope : Scope) (e : Entry) :
    s.upsertAll (entries ++ [(scope, e)]) =
      s.upsertAll entries >>= fun s => s.upsert scope e := by
  rw [upsertAll, List.foldlM_append]
  refine congrArg _ (funext fun s => ?_)
  exact bind_pure _

/-- Entries that get in are coherent, and the store holds them. -/
theorem upsertAll_empty_of_ok (hs : empty.upsertAll entries = .ok s) :
    Coherent entries ∧ Holds s entries := by
  induction entries using List.reverseRecOn generalizing s with
  | nil =>
    rw [← Except.ok.inj hs]
    exact ⟨⟨fun _ hx => absurd hx List.not_mem_nil, fun _ hx => absurd hx List.not_mem_nil⟩,
      holds_empty⟩
  | append_singleton entries x ih =>
    obtain ⟨scope, e⟩ := x
    rw [upsertAll_append] at hs
    cases hbefore : empty.upsertAll entries with
    | error error =>
      rw [hbefore] at hs
      cases hs
    | ok before =>
      rw [hbefore] at hs
      obtain ⟨hc, hh⟩ := ih hbefore
      obtain ⟨hvalid, hfree, rfl⟩ := upsert_eq_ok_iff.1 hs
      have hagree := (hh.hasConflict_eq_false_iff hc _ _ _).1 hfree
      exact ⟨coherent_append_iff.2 ⟨hc, hvalid, hagree⟩, hh.put hvalid hfree⟩

/-- Coherent entries get in. -/
theorem exists_upsertAll_empty (hc : Coherent entries) : ∃ s, empty.upsertAll entries = .ok s := by
  induction entries using List.reverseRecOn with
  | nil => exact ⟨empty, rfl⟩
  | append_singleton entries x ih =>
    obtain ⟨scope, e⟩ := x
    obtain ⟨hc, hvalid, hagree⟩ := coherent_append_iff.1 hc
    obtain ⟨before, hbefore⟩ := ih hc
    obtain ⟨_, hh⟩ := upsertAll_empty_of_ok hbefore
    have hfree := (hh.hasConflict_eq_false_iff hc _ _ _).2 hagree
    refine ⟨before.put scope e, ?_⟩
    rw [upsertAll_append, hbefore]
    exact upsert_eq_ok_iff.2 ⟨hvalid, hfree, rfl⟩

theorem upsertAll_empty_eq_ok_iff :
    empty.upsertAll entries = .ok s ↔ Coherent entries ∧ Holds s entries := by
  refine ⟨upsertAll_empty_of_ok, fun ⟨hc, hh⟩ => ?_⟩
  obtain ⟨s', hs'⟩ := exists_upsertAll_empty hc
  rw [hs', (upsertAll_empty_of_ok hs').2.eq hh]

/-- Only the entries for each key in each scope and their order matter. -/
theorem toOption_upsertAll_empty_congr
    (hsame : ∀ scope key, entriesAt entries' scope key = entriesAt entries scope key) :
    (empty.upsertAll entries').toOption = (empty.upsertAll entries).toOption := by
  have hiff : ∀ s, empty.upsertAll entries' = .ok s ↔ empty.upsertAll entries = .ok s := by
    intro s
    rw [upsertAll_empty_eq_ok_iff, upsertAll_empty_eq_ok_iff]
    constructor
    · rintro ⟨hc, hh⟩
      exact ⟨hc.of_entriesAt fun _ _ => (hsame _ _).symm,
        ⟨hh.tidy, fun _ _ => (hh.get? _ _).trans (hsame _ _ ▸ rfl)⟩⟩
    · rintro ⟨hc, hh⟩
      exact ⟨hc.of_entriesAt hsame, ⟨hh.tidy, fun _ _ => (hh.get? _ _).trans (hsame _ _ ▸ rfl)⟩⟩
  cases h : empty.upsertAll entries with
  | ok s => rw [(hiff s).2 h]
  | error error =>
    cases h' : empty.upsertAll entries' with
    | ok s =>
      rw [(hiff s).1 h'] at h
      cases h
    | error error' => rfl

/-! ## Main result -/

/-- A snapshot is accepted exactly if each entry has a flag key and passes the checks, and entries
of one project with one key are of one flag.  The store then has the last entry for each key in
each scope, and the scopes that have entries.  Another snapshot with the same entries for each key
in each scope, in the same order, leads to the same store, or is refused as well. -/
theorem ofSnapshot_holds_last (snapshot : Snapshot) :
    ((∃ s, ofSnapshot snapshot = .ok s) ↔
      (∀ x ∈ snapshot.entries,
        FlagKey.isValid x.2.flag.key = true ∧ x.2.config.validate x.2.flag = .ok ()) ∧
      ∀ x ∈ snapshot.entries, ∀ y ∈ snapshot.entries, x.1.project = y.1.project →
        x.2.flag.key = y.2.flag.key → x.2.flag.id = y.2.flag.id) ∧
    (∀ s, ofSnapshot snapshot = .ok s →
      (∀ scope key,
        (s.flags scope).get? key = (entriesAt snapshot.entries scope key).getLast?) ∧
      ∀ scope, scope ∈ s.listScopes ↔ ∃ e, (scope, e) ∈ snapshot.entries) ∧
    ∀ other : Snapshot,
      (∀ scope key, entriesAt other.entries scope key = entriesAt snapshot.entries scope key) →
        (ofSnapshot other).toOption = (ofSnapshot snapshot).toOption := by
  refine ⟨⟨?accepted, ?accepts⟩, ?holds, fun other hsame => toOption_upsertAll_empty_congr hsame⟩
  case accepted =>
    rintro ⟨s, hs⟩
    obtain ⟨hc, _⟩ := upsertAll_empty_of_ok hs
    refine ⟨fun x hx => ?_, hc.oneFlag⟩
    exact ⟨(hc.valid x hx).key, Configuration.validate_eq_ok_iff.2 (hc.valid x hx).fits⟩
  case accepts =>
    rintro ⟨hvalid, hone⟩
    refine exists_upsertAll_empty ⟨fun x hx => ?_, hone⟩
    exact ⟨(hvalid x hx).1, Configuration.validate_eq_ok_iff.1 (hvalid x hx).2⟩
  case holds =>
    intro s hs
    obtain ⟨_, hh⟩ := upsertAll_empty_of_ok hs
    exact ⟨hh.get?, fun scope => hh.mem_listScopes_iff⟩

end FeatureFlags.Store

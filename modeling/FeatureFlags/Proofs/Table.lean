import FeatureFlags.Table

/-!
# Tables of lists

* `Table.mem_of_mem_ofList`: the entries of a table of a list are entries of the list.
* `Table.ofList_of_perm`: a table is the table of its entries in any order.
* `Table.entries_ofList_of_keys`: what is in the order of its keys already stays in it.
* `Table.size_eq_of_mem_keys`: the keys say how large a table is.
* `Table.insert_comm`: insertions under different keys do not depend on their order.
-/

namespace FeatureFlags.Table

/-- Other values leave the keys. -/
theorem keys_map {κ ν μ : Type} [Ord κ] (t : Table κ ν) (f : κ → ν → μ) :
    (t.map f).keys = t.keys := by
  rw [keys, map, List.map_map, keys]
  rfl

/-- Tables with the same keys are of the same size. -/
theorem size_eq_of_mem_keys {κ ν μ : Type} [Ord κ] [Std.TransOrd κ] {t : Table κ ν}
    {u : Table κ μ} (h : ∀ k, k ∈ t.keys ↔ k ∈ u.keys) : t.size = u.size := by
  rw [← length_keys, ← length_keys]
  exact ((List.perm_ext_iff_of_nodup t.nodup_keys u.nodup_keys).2 h).length_eq

variable {κ ν : Type} [Ord κ] [DecidableEq κ] [Std.TransOrd κ] [Std.LawfulEqOrd κ]

theorem mem_of_mem_ofList {l : List (κ × ν)} {e : κ × ν} (h : e ∈ (ofList l).entries) :
    e ∈ l := by
  obtain ⟨k, v⟩ := e
  rw [mem_entries_iff, get?_ofList, Option.map_eq_some_iff] at h
  obtain ⟨e, he, rfl⟩ := h
  have hk : e.1 = k := by simpa using List.find?_some he
  subst hk
  exact List.mem_reverse.1 (List.mem_of_find?_eq_some he)

/-- A table is the table of its entries in any order. -/
theorem ofList_of_perm {l : List (κ × ν)} {t : Table κ ν} (h : l.Perm t.entries) :
    ofList l = t := by
  apply ext_get?
  intro k
  rw [get?_ofList]
  cases hfind : l.reverse.find? (·.1 = k) with
  | some e =>
    have hk : e.1 = k := by simpa using List.find?_some hfind
    have he : e ∈ t.entries :=
      h.mem_iff.1 (List.mem_reverse.1 (List.mem_of_find?_eq_some hfind))
    rw [Option.map_some, ← hk, (mem_entries_iff t e.1 e.2).1 he]
  | none =>
    cases hget : t.get? k with
    | some v =>
      have hmem : (k, v) ∈ l.reverse :=
        List.mem_reverse.2 (h.mem_iff.2 ((mem_entries_iff t k v).2 hget))
      exact absurd (decide_eq_true rfl) (List.find?_eq_none.1 hfind (k, v) hmem)
    | none => rfl

/-- A list with the keys of a table, in their order, is the entries of a table. -/
theorem entries_ofList_of_keys {l : List (κ × ν)} {μ : Type} {t : Table κ μ}
    (h : l.map Prod.fst = t.keys) : (ofList l).entries = l := by
  have hkeys : (l.map Prod.fst).Pairwise fun a b => compare a b = .lt := by
    rw [h]
    exact List.pairwise_map.2 t.ordered
  have hself : ofList l = ⟨l, List.pairwise_map.1 hkeys⟩ := ofList_of_perm (.refl l)
  rw [hself]

/-- Insertions under different keys may be made in either order. -/
theorem insert_comm (t : Table κ ν) {k k' : κ} (h : k' ≠ k) (v v' : ν) :
    (t.insert k v).insert k' v' = (t.insert k' v').insert k v := by
  apply ext_get?
  intro i
  rw [get?_insert, get?_insert, get?_insert, get?_insert]
  by_cases hi : i = k
  · rw [if_pos hi, if_pos hi, if_neg fun hi' => h (hi'.symm.trans hi)]
  · rw [if_neg hi, if_neg hi]

end FeatureFlags.Table

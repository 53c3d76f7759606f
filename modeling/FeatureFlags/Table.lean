/-!
# Tables

Finite maps kept as a list of entries in strictly increasing key order.  A
table has one written form, so two tables with the same look-ups are equal.

The lemmas do three things:

* say what each operation does to look-up (`get?_empty`, `get?_insert`,
  `get?_erase`, `get?_filter`, `get?_map`, `get?_ofList`);
* tie look-up to the entry list (`mem_entries_iff`);
* conclude equality of tables from equality of look-ups (`ext_get?`).
-/

namespace FeatureFlags

/-- A finite map from `κ` to `ν` with its entries in increasing key order. -/
structure Table (κ ν : Type) [Ord κ] where
  /-- The entries, each key once. -/
  entries : List (κ × ν)
  /-- Every entry stands before those with larger keys. -/
  ordered : entries.Pairwise fun a b => compare a.1 b.1 = .lt

namespace Table

variable {κ ν μ : Type} [Ord κ]

/-! ## Entry lists -/

/-- The value that an entry list holds for a key. -/
def lookupEntry (k : κ) : List (κ × ν) → Option ν
  | [] => none
  | (k', v) :: rest =>
    match compare k k' with
    | .eq => some v
    | _ => lookupEntry k rest

/-- Puts an entry at its place, over an entry with the same key. -/
def insertEntry (k : κ) (v : ν) : List (κ × ν) → List (κ × ν)
  | [] => [(k, v)]
  | (k', v') :: rest =>
    match compare k k' with
    | .lt => (k, v) :: (k', v') :: rest
    | .eq => (k, v) :: rest
    | .gt => (k', v') :: insertEntry k v rest

/-- Takes the entry with the given key away. -/
def eraseEntry (k : κ) (entries : List (κ × ν)) : List (κ × ν) :=
  entries.filter fun e => compare k e.1 != .eq

/-- An entry of the list after an insertion is the new one or an old one. -/
theorem mem_insertEntry {k : κ} {v : ν} {e : κ × ν} {l : List (κ × ν)}
    (h : e ∈ insertEntry k v l) : e = (k, v) ∨ e ∈ l := by
  induction l with
  | nil => simpa [insertEntry] using h
  | cons hd tl ih =>
    obtain ⟨k', v'⟩ := hd
    rw [insertEntry] at h
    split at h <;> grind

/-- Insertion keeps the key order. -/
theorem pairwise_insertEntry [Std.TransOrd κ] [Std.LawfulEqOrd κ] (k : κ) (v : ν) {l : List (κ × ν)}
    (h : l.Pairwise fun a b => compare a.1 b.1 = .lt) :
    (insertEntry k v l).Pairwise fun a b => compare a.1 b.1 = .lt := by
  induction l with
  | nil => simp [insertEntry]
  | cons hd tl ih =>
    obtain ⟨k', v'⟩ := hd
    rw [List.pairwise_cons] at h
    rw [insertEntry]
    split
    · rename_i hlt
      refine List.pairwise_cons.2 ⟨?_, List.pairwise_cons.2 h⟩
      intro e he
      rcases List.mem_cons.1 he with rfl | he
      · exact hlt
      · exact Std.TransCmp.lt_trans hlt (h.1 e he)
    · rename_i heq
      have := Std.LawfulEqOrd.eq_of_compare heq
      subst this
      exact List.pairwise_cons.2 h
    · rename_i hgt
      refine List.pairwise_cons.2 ⟨?_, ih h.2⟩
      intro e he
      rcases mem_insertEntry he with rfl | he
      · exact Std.OrientedCmp.gt_iff_lt.1 hgt
      · exact h.1 e he

/-- Erasure keeps the key order. -/
theorem pairwise_eraseEntry (k : κ) {l : List (κ × ν)}
    (h : l.Pairwise fun a b => compare a.1 b.1 = .lt) :
    (eraseEntry k l).Pairwise fun a b => compare a.1 b.1 = .lt :=
  h.filter _

theorem lookupEntry_insertEntry_self [Std.ReflOrd κ] (k : κ) (v : ν) (l : List (κ × ν)) :
    lookupEntry k (insertEntry k v l) = some v := by
  induction l with
  | nil => simp [insertEntry, lookupEntry]
  | cons hd tl ih =>
    obtain ⟨k', v'⟩ := hd
    rw [insertEntry]
    split
    · simp [lookupEntry]
    · simp [lookupEntry]
    · rename_i h
      simp [lookupEntry, h, ih]

theorem lookupEntry_insertEntry_of_ne [Std.LawfulEqOrd κ] {k k' : κ} (hne : k' ≠ k) (v : ν)
    (l : List (κ × ν)) :
    lookupEntry k' (insertEntry k v l) = lookupEntry k' l := by
  have hk : compare k' k ≠ .eq := fun h => hne (Std.LawfulEqOrd.eq_of_compare h)
  induction l with
  | nil =>
    rw [insertEntry, lookupEntry, lookupEntry]
    split
    · exact absurd ‹_› hk
    · rfl
  | cons hd tl ih =>
    obtain ⟨k'', v''⟩ := hd
    rw [insertEntry]
    split
    · rw [lookupEntry]
      split
      · exact absurd ‹_› hk
      · rfl
    · rename_i heq
      have := Std.LawfulEqOrd.eq_of_compare heq
      subst this
      rw [lookupEntry, lookupEntry]
      split <;> first | exact absurd ‹_› hk | rfl
    · rw [lookupEntry, lookupEntry, ih]

theorem lookupEntry_eraseEntry_self (k : κ) (l : List (κ × ν)) :
    lookupEntry k (eraseEntry k l) = none := by
  induction l with
  | nil => rfl
  | cons hd tl ih =>
    obtain ⟨k', v'⟩ := hd
    rw [eraseEntry] at ih ⊢
    by_cases h : compare k k' = .eq
    · simpa [h] using ih
    · simp only [List.filter_cons, bne_iff_ne, ne_eq, h, not_false_eq_true, if_true]
      rw [lookupEntry]
      split
      · exact absurd ‹_› h
      · exact ih

theorem lookupEntry_eraseEntry_of_ne [Std.LawfulEqOrd κ] {k k' : κ} (hne : k' ≠ k)
    (l : List (κ × ν)) :
    lookupEntry k' (eraseEntry k l) = lookupEntry k' l := by
  induction l with
  | nil => rfl
  | cons hd tl ih =>
    obtain ⟨k'', v''⟩ := hd
    rw [eraseEntry] at ih ⊢
    by_cases h : compare k k'' = .eq
    · have := Std.LawfulEqOrd.eq_of_compare h
      subst this
      have hk : compare k' k ≠ .eq := fun h => hne (Std.LawfulEqOrd.eq_of_compare h)
      simp only [List.filter_cons, bne_iff_ne, ne_eq, h, not_true_eq_false, if_false]
      rw [ih, lookupEntry]
      split
      · exact absurd ‹_› hk
      · rfl
    · simp only [List.filter_cons, bne_iff_ne, ne_eq, h, not_false_eq_true, if_true]
      rw [lookupEntry, lookupEntry, ih]

/-- Look-up in an ordered list finds exactly its entries. -/
theorem mem_iff_lookupEntry [Std.LawfulEqOrd κ] {k : κ} {v : ν} {l : List (κ × ν)}
    (h : l.Pairwise fun a b => compare a.1 b.1 = .lt) :
    (k, v) ∈ l ↔ lookupEntry k l = some v := by
  induction l with
  | nil => simp [lookupEntry]
  | cons hd tl ih =>
    obtain ⟨k', v'⟩ := hd
    rw [List.pairwise_cons] at h
    rw [lookupEntry, List.mem_cons, ih h.2]
    split
    · rename_i heq
      have := Std.LawfulEqOrd.eq_of_compare heq
      subst this
      constructor
      · rintro (heq | hmem)
        · simp_all
        · have := h.1 _ ((ih h.2).2 hmem)
          simp at this
      · intro heq
        simp_all
    · rename_i hne
      constructor
      · rintro (heq | hmem)
        · simp only [Prod.mk.injEq] at heq
          obtain ⟨rfl, rfl⟩ := heq
          simp at hne
        · exact hmem
      · exact Or.inr

/-- Ordered lists with the same entries are equal. -/
theorem eq_of_mem_iff [Std.TransOrd κ] {l₁ l₂ : List (κ × ν)}
    (h₁ : l₁.Pairwise fun a b => compare a.1 b.1 = .lt)
    (h₂ : l₂.Pairwise fun a b => compare a.1 b.1 = .lt)
    (h : ∀ e, e ∈ l₁ ↔ e ∈ l₂) : l₁ = l₂ := by
  induction l₁ generalizing l₂ with
  | nil =>
    cases l₂ with
    | nil => rfl
    | cons b _ => exact absurd ((h b).2 (by simp)) (by simp)
  | cons a t₁ ih =>
    cases l₂ with
    | nil => exact absurd ((h a).1 (by simp)) (by simp)
    | cons b t₂ =>
      rw [List.pairwise_cons] at h₁ h₂
      have hirr : ∀ x : κ, compare x x ≠ .lt := by intro x; simp
      have hab : a = b := by
        have ha := (h a).1 (by simp)
        have hb := (h b).2 (by simp)
        rcases List.mem_cons.1 ha with hab | ha
        · exact hab
        · rcases List.mem_cons.1 hb with hba | hb
          · exact hba.symm
          · exact absurd (Std.TransCmp.lt_trans (h₁.1 _ hb) (h₂.1 _ ha)) (hirr _)
      subst hab
      congr 1
      refine ih h₁.2 h₂.2 fun e => ?_
      have he := h e
      simp only [List.mem_cons] at he
      constructor
      · intro hm
        rcases he.1 (Or.inr hm) with rfl | hm'
        · exact absurd (h₁.1 _ hm) (hirr _)
        · exact hm'
      · intro hm
        rcases he.2 (Or.inr hm) with rfl | hm'
        · exact absurd (h₂.1 _ hm) (hirr _)
        · exact hm'

/-! ## Operations -/

/-- The table without entries. -/
def empty : Table κ ν := ⟨[], .nil⟩

instance : EmptyCollection (Table κ ν) := ⟨empty⟩

instance : Inhabited (Table κ ν) := ⟨empty⟩

/-- The value stored under a key. -/
def get? (t : Table κ ν) (k : κ) : Option ν := lookupEntry k t.entries

/-- Whether a key has a value. -/
def contains (t : Table κ ν) (k : κ) : Bool := (t.get? k).isSome

/-- The keys in increasing order. -/
def keys (t : Table κ ν) : List κ := t.entries.map (·.1)

/-- The values in the order of their keys. -/
def values (t : Table κ ν) : List ν := t.entries.map (·.2)

/-- The number of entries. -/
def size (t : Table κ ν) : Nat := t.entries.length

/-- Whether there are no entries. -/
def isEmpty (t : Table κ ν) : Bool := t.entries.isEmpty

/-- Keeps the entries that pass a test. -/
def filter (t : Table κ ν) (p : κ → ν → Bool) : Table κ ν :=
  ⟨t.entries.filter fun e => p e.1 e.2, t.ordered.filter _⟩

/-- Replaces every value by its image. -/
def map (t : Table κ ν) (f : κ → ν → μ) : Table κ μ :=
  ⟨t.entries.map fun e => (e.1, f e.1 e.2), List.pairwise_map.2 t.ordered⟩

/-- Stores a value under a key, over the value that was there. -/
def insert [Std.TransOrd κ] [Std.LawfulEqOrd κ] (t : Table κ ν) (k : κ) (v : ν) : Table κ ν :=
  ⟨insertEntry k v t.entries, pairwise_insertEntry k v t.ordered⟩

/-- Removes a key and its value. -/
def erase (t : Table κ ν) (k : κ) : Table κ ν :=
  ⟨eraseEntry k t.entries, pairwise_eraseEntry k t.ordered⟩

/-- Stores the entries of a list one after the other, so the last value of a key stays. -/
def ofList [Std.TransOrd κ] [Std.LawfulEqOrd κ] (entries : List (κ × ν)) : Table κ ν :=
  entries.foldl (fun t e => t.insert e.1 e.2) empty

/-! ## Look-up after each operation -/

@[simp] theorem get?_empty (k : κ) : (empty : Table κ ν).get? k = none := rfl

theorem get?_map [Std.LawfulEqOrd κ] (t : Table κ ν) (f : κ → ν → μ) (k : κ) :
    (t.map f).get? k = (t.get? k).map (f k) := by
  obtain ⟨l, h⟩ := t
  simp only [get?, map]
  clear h
  induction l with
  | nil => rfl
  | cons hd tl ih =>
    obtain ⟨k', v'⟩ := hd
    simp only [List.map_cons, lookupEntry]
    split
    · rename_i heq
      have := Std.LawfulEqOrd.eq_of_compare heq
      subst this
      rfl
    · exact ih

@[simp] theorem get?_insert_self [Std.TransOrd κ] [Std.LawfulEqOrd κ] (t : Table κ ν) (k : κ)
    (v : ν) :
    (t.insert k v).get? k = some v :=
  lookupEntry_insertEntry_self k v t.entries

theorem get?_insert_of_ne [Std.TransOrd κ] [Std.LawfulEqOrd κ] (t : Table κ ν) {k k' : κ}
    (h : k' ≠ k) (v : ν) :
    (t.insert k v).get? k' = t.get? k' :=
  lookupEntry_insertEntry_of_ne h v t.entries

theorem get?_insert [DecidableEq κ] [Std.TransOrd κ] [Std.LawfulEqOrd κ] (t : Table κ ν)
    (k k' : κ) (v : ν) :
    (t.insert k v).get? k' = if k' = k then some v else t.get? k' := by
  split
  · next h => exact h ▸ get?_insert_self t k v
  · next h => exact get?_insert_of_ne t h v

@[simp] theorem get?_erase_self (t : Table κ ν) (k : κ) : (t.erase k).get? k = none :=
  lookupEntry_eraseEntry_self k t.entries

theorem get?_erase_of_ne [Std.LawfulEqOrd κ] (t : Table κ ν) {k k' : κ} (h : k' ≠ k) :
    (t.erase k).get? k' = t.get? k' :=
  lookupEntry_eraseEntry_of_ne h t.entries

theorem get?_erase [DecidableEq κ] [Std.LawfulEqOrd κ] (t : Table κ ν) (k k' : κ) :
    (t.erase k).get? k' = if k' = k then none else t.get? k' := by
  split
  · next h => exact h ▸ get?_erase_self t k
  · next h => exact get?_erase_of_ne t h

/-- What is found after an insertion is the new value or an old one. -/
theorem get?_insert_eq_some_iff [DecidableEq κ] [Std.TransOrd κ] [Std.LawfulEqOrd κ]
    {t : Table κ ν} {k k' : κ} {v w : ν} :
    (t.insert k v).get? k' = some w ↔ k' = k ∧ w = v ∨ k' ≠ k ∧ t.get? k' = some w := by
  rw [get?_insert]
  split
  · next h => simp [h, eq_comm]
  · next h => simp [h]

/-- What is found after an erasure was there before, under another key. -/
theorem get?_erase_eq_some_iff [DecidableEq κ] [Std.LawfulEqOrd κ] {t : Table κ ν} {k k' : κ}
    {w : ν} : (t.erase k).get? k' = some w ↔ k' ≠ k ∧ t.get? k' = some w := by
  rw [get?_erase]
  split
  · next h => simp [h]
  · next h => simp [h]

/-- Look-up finds exactly the entries. -/
theorem mem_entries_iff [Std.LawfulEqOrd κ] (t : Table κ ν) (k : κ) (v : ν) :
    (k, v) ∈ t.entries ↔ t.get? k = some v :=
  mem_iff_lookupEntry t.ordered

/-- A value of a table is found under some key. -/
theorem mem_values_iff [Std.LawfulEqOrd κ] {t : Table κ ν} {v : ν} :
    v ∈ t.values ↔ ∃ k, t.get? k = some v := by
  rw [values, List.mem_map]
  constructor
  · rintro ⟨⟨k, _⟩, he, rfl⟩
    exact ⟨k, (mem_entries_iff t k _).1 he⟩
  · rintro ⟨k, hk⟩
    exact ⟨(k, v), (mem_entries_iff t k v).2 hk, rfl⟩

/-- The keys of a table are those under which something is found. -/
theorem mem_keys_iff [Std.LawfulEqOrd κ] {t : Table κ ν} {k : κ} :
    k ∈ t.keys ↔ (t.get? k).isSome = true := by
  rw [keys, List.mem_map, Option.isSome_iff_exists]
  constructor
  · rintro ⟨⟨_, v⟩, he, rfl⟩
    exact ⟨v, (mem_entries_iff t _ v).1 he⟩
  · rintro ⟨v, hv⟩
    exact ⟨(k, v), (mem_entries_iff t k v).2 hv, rfl⟩

/-- A key has one value. -/
theorem nodup_keys [Std.TransOrd κ] (t : Table κ ν) : t.keys.Nodup := by
  rw [keys, List.Nodup, List.pairwise_map]
  refine t.ordered.imp fun {a b} hlt he => ?_
  have hself : compare b.1 b.1 = .eq := Std.ReflCmp.compare_self
  rw [he, hself] at hlt
  cases hlt

/-- The values in the order of their keys, found one by one. -/
theorem map_values [Std.LawfulEqOrd κ] {α : Type} (t : Table κ ν) {f : ν → α} {g : κ → α}
    (hfg : ∀ k v, t.get? k = some v → f v = g k) : t.values.map f = t.keys.map g := by
  rw [values, keys, List.map_map, List.map_map]
  exact List.map_congr_left fun e he => hfg e.1 e.2 ((mem_entries_iff t e.1 e.2).1 he)

theorem length_keys (t : Table κ ν) : t.keys.length = t.size := List.length_map _

/-- Only the empty table has no entries. -/
theorem isEmpty_iff {t : Table κ ν} : t.isEmpty = true ↔ t = empty := by
  obtain ⟨entries, _⟩ := t
  cases entries with
  | nil => exact iff_of_true rfl rfl
  | cons e rest => exact iff_of_false Bool.false_ne_true fun h => by cases h

theorem get?_filter [Std.LawfulEqOrd κ] (t : Table κ ν) (p : κ → ν → Bool) (k : κ) :
    (t.filter p).get? k = (t.get? k).filter (p k) := by
  apply Option.ext
  intro v
  rw [← mem_entries_iff, Option.filter_eq_some_iff, ← mem_entries_iff]
  simp [filter]

private theorem get?_foldl_insert [DecidableEq κ] [Std.TransOrd κ] [Std.LawfulEqOrd κ]
    (entries : List (κ × ν)) (k : κ) :
    ∀ t : Table κ ν, (entries.foldl (fun t e => t.insert e.1 e.2) t).get? k =
      ((entries.reverse.find? (·.1 = k)).map (·.2)).or (t.get? k) := by
  induction entries with
  | nil =>
    intro t
    rfl
  | cons e rest ih =>
    intro t
    rw [List.foldl_cons, ih, get?_insert, List.reverse_cons, List.find?_append]
    cases rest.reverse.find? (·.1 = k) with
    | some e' => rfl
    | none =>
      by_cases h : e.1 = k
      · simp [h]
      · simp [h, Ne.symm h]

/-- A table of a list has the last value that the list has for a key. -/
theorem get?_ofList [DecidableEq κ] [Std.TransOrd κ] [Std.LawfulEqOrd κ] (entries : List (κ × ν))
    (k : κ) : (ofList entries).get? k = (entries.reverse.find? (·.1 = k)).map (·.2) := by
  rw [ofList, get?_foldl_insert, get?_empty, Option.or_none]

/-- Tables with the same look-ups are equal. -/
theorem ext_get? [Std.TransOrd κ] [Std.LawfulEqOrd κ] {t₁ t₂ : Table κ ν}
    (h : ∀ k, t₁.get? k = t₂.get? k) : t₁ = t₂ := by
  obtain ⟨l₁, h₁⟩ := t₁
  obtain ⟨l₂, h₂⟩ := t₂
  have : l₁ = l₂ := by
    refine eq_of_mem_iff h₁ h₂ fun e => ?_
    obtain ⟨k, v⟩ := e
    have hk := h k
    simp only [get?] at hk
    rw [mem_iff_lookupEntry h₁, mem_iff_lookupEntry h₂, hk]
  subst this
  rfl

/-- Of two insertions under one key the later one counts. -/
theorem insert_insert [DecidableEq κ] [Std.TransOrd κ] [Std.LawfulEqOrd κ] (t : Table κ ν) (k : κ)
    (v w : ν) : (t.insert k v).insert k w = t.insert k w := by
  apply ext_get?
  intro k'
  rw [get?_insert, get?_insert, get?_insert]
  split <;> rfl

end Table

end FeatureFlags

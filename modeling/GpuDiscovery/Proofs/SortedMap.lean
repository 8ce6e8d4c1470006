import GpuDiscovery.SortedMap
import Mathlib.Data.List.Nodup
import Mathlib.Data.List.Perm.Subperm

/-!
# What a sorted map contains

A map can be asked for a key, and it can be gone through, entry by entry, by its keys or by its
values. Here these views are related: what is found under a key is what stands beside it, and each
key stands in the map once. A map made from a list has the keys of the list. It has all entries of
the list if no key stands in the list twice, and only then (`hasOwnEntries_ofList_iff`).
-/

namespace GpuDiscovery

variable {κ ν : Type} [Ord κ] [Std.LawfulEqOrd κ]

/-- In a sorted list an entry is found under its key. -/
theorem findEntry_eq_some_iff {key : κ} {value : ν} {entries : List (κ × ν)}
    (h : entries.Pairwise fun a b => compare a.1 b.1 = .lt) :
    findEntry key entries = some value ↔ (key, value) ∈ entries := by
  induction entries with
  | nil => simp [findEntry]
  | cons head rest ih =>
    rw [List.pairwise_cons] at h
    rw [findEntry, List.mem_cons, ← ih h.2]
    split
    · rename_i heq
      have hkey : key = head.1 := Std.LawfulEqCmp.compare_eq_iff_eq.1 heq
      subst hkey
      -- Behind the head its key does not stand again.
      have hrest : findEntry head.1 rest = none := findEntry_eq_none_of_lt h.1
      simp [hrest, Prod.ext_iff, eq_comm]
    · rename_i hne
      rw [Std.LawfulEqCmp.compare_eq_iff_eq] at hne
      simp [Prod.ext_iff, hne]

namespace SortedMap

omit [Std.LawfulEqOrd κ] in
/-- Each of the values stands in the map under a key of its own. -/
def HasOwnEntries (map : SortedMap κ ν) (values : List ν) : Prop :=
  ∃ keys : List κ, keys.Nodup ∧ keys.map map.get? = values.map some

variable {map : SortedMap κ ν} {key : κ} {value : ν}

/-- What is found under a key is the entry with this key. -/
theorem get?_eq_some_iff : map.get? key = some value ↔ (key, value) ∈ map.entries :=
  findEntry_eq_some_iff map.sorted

theorem mem_values_iff : value ∈ map.values ↔ ∃ key, map.get? key = some value := by
  rw [values, List.mem_map]
  simp only [get?_eq_some_iff, Prod.exists, exists_eq_right]

theorem mem_keys_iff : key ∈ map.keys ↔ ∃ value, map.get? key = some value := by
  rw [keys, List.mem_map]
  simp only [get?_eq_some_iff, Prod.exists, exists_and_right, exists_eq_right]

/-- No key stands in a map twice. -/
theorem nodup_keys (map : SortedMap κ ν) : map.keys.Nodup := by
  rw [keys, List.nodup_iff_pairwise_ne, List.pairwise_map]
  refine map.sorted.imp fun {a b} hlt heq => ?_
  rw [heq] at hlt
  simp at hlt

variable [Std.TransOrd κ] [DecidableEq κ]

omit [DecidableEq κ] in
/-- A value of a map into which one was inserted is this one or an old one. -/
theorem mem_values_insert {other : ν} (h : other ∈ (map.insert key value).values) :
    other = value ∨ other ∈ map.values := by
  obtain ⟨entry, hentry, rfl⟩ := List.mem_map.1 h
  rcases mem_insertEntry hentry with rfl | hold
  · exact .inl rfl
  · exact .inr (List.mem_map.2 ⟨entry, hold, rfl⟩)

theorem mem_keys_insert {other : κ} :
    other ∈ (map.insert key value).keys ↔ other = key ∨ other ∈ map.keys := by
  simp only [mem_keys_iff, get?_insert]
  by_cases hother : other = key
  · simp [hother]
  · simp [hother]

/-- A map made from a list has the keys of the list. -/
theorem mem_keys_ofList {entries : List (κ × ν)} :
    key ∈ (ofList entries).keys ↔ key ∈ entries.map (·.1) := by
  have hfold : ∀ map : SortedMap κ ν,
      key ∈ (entries.foldl (fun map entry => map.insert entry.1 entry.2) map).keys ↔
        key ∈ map.keys ∨ key ∈ entries.map (·.1) := by
    induction entries with
    | nil => simp
    | cons entry rest ih =>
      intro map
      rw [List.foldl_cons, ih, mem_keys_insert, List.map_cons, List.mem_cons, or_assoc,
        or_left_comm]
  have hempty : key ∉ (empty : SortedMap κ ν).keys := List.not_mem_nil
  rw [ofList, hfold]
  simp [hempty]

/-- Where no key stands in a list twice, no entry is overwritten. -/
theorem get?_ofList_of_nodup {entries : List (κ × ν)} (h : (entries.map (·.1)).Nodup) :
    (ofList entries).get? key = some value ↔ (key, value) ∈ entries := by
  have hfold : ∀ map : SortedMap κ ν, (∀ entry ∈ entries, map.get? entry.1 = none) →
      ((entries.foldl (fun map entry => map.insert entry.1 entry.2) map).get? key = some value ↔
        map.get? key = some value ∨ (key, value) ∈ entries) := by
    induction entries with
    | nil => simp
    | cons entry rest ih =>
      rw [List.map_cons, List.nodup_cons] at h
      intro map hmap
      rw [List.forall_mem_cons] at hmap
      have hrest : ∀ other ∈ rest, (map.insert entry.1 entry.2).get? other.1 = none := by
        intro other hother
        rw [get?_insert, if_neg, hmap.2 other hother]
        intro heq
        exact h.1 (heq ▸ List.mem_map_of_mem hother)
      rw [List.foldl_cons, ih h.2 _ hrest, get?_insert, List.mem_cons, ← or_assoc]
      refine or_congr_left ?_
      by_cases hkey : key = entry.1
      · rw [if_pos hkey, hkey, hmap.1]
        simp [Prod.ext_iff, eq_comm]
      · rw [if_neg hkey]
        simp [Prod.ext_iff, hkey]
  rw [ofList, hfold empty fun _ _ => get?_empty _, get?_empty]
  simp

/-- Where no key stands in a list twice, the map has the entries of the list in another order. -/
theorem perm_entries_ofList {entries : List (κ × ν)} (h : (entries.map (·.1)).Nodup) :
    (ofList entries).entries.Perm entries := by
  refine (List.perm_ext_iff_of_nodup (List.Nodup.of_map _ (nodup_keys _)) (.of_map _ h)).2 ?_
  rintro ⟨key, value⟩
  rw [← get?_eq_some_iff, get?_ofList_of_nodup h]

/-- Where no key stands in a list twice, the order of the list makes no difference. -/
theorem ofList_eq_of_perm {xs ys : List (κ × ν)} (h : xs.Perm ys) (hkeys : (xs.map (·.1)).Nodup) :
    ofList xs = ofList ys := by
  have hothers : (ys.map (·.1)).Nodup := (h.map (·.1)).nodup_iff.1 hkeys
  refine ext_get? fun key => Option.ext fun value => ?_
  rw [get?_ofList_of_nodup hkeys, get?_ofList_of_nodup hothers, h.mem_iff]

/-- **What a map loses of a list.** Nothing exactly if no key stands in the list twice. -/
theorem hasOwnEntries_ofList_iff {entries : List (κ × ν)} :
    (ofList entries).HasOwnEntries (entries.map (·.2)) ↔ (entries.map (·.1)).Nodup := by
  constructor
  · rintro ⟨keys, hkeys, hfound⟩
    have hsubset : keys ⊆ entries.map (·.1) := by
      intro key hkey
      have hmem := List.mem_map_of_mem (f := (ofList entries).get?) hkey
      rw [hfound] at hmem
      obtain ⟨value, -, hvalue⟩ := List.mem_map.1 hmem
      exact mem_keys_ofList.1 (mem_keys_iff.2 ⟨value, hvalue.symm⟩)
    -- There are as many keys as entries, so the keys are those of the list.
    have hlength : (entries.map (·.1)).length = keys.length := by
      have hlengths := congrArg List.length hfound
      simp only [List.length_map] at hlengths ⊢
      exact hlengths.symm
    have hperm := (List.subperm_of_subset hkeys hsubset).perm_of_length_le (Nat.le_of_eq hlength)
    exact hperm.nodup_iff.1 hkeys
  · intro h
    refine ⟨entries.map (·.1), h, ?_⟩
    rw [List.map_map, List.map_map]
    exact List.map_congr_left fun entry hentry => (get?_ofList_of_nodup h).2 hentry

end SortedMap

end GpuDiscovery

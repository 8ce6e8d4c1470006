/-!
# Maps sorted by key

A finite map kept as a list of entries with strictly increasing keys. The order is part of the
type, so a map has one representation and two maps with the same contents are equal (`ext_get?`).
Adapters by identifier, registry values by name and the patterns of a query are such maps, because
their order is visible: it decides in which order patterns are listed in a query and which of two
runtime files with one destination is kept.

`insert` overwrites: the value inserted last stands.
-/

namespace GpuDiscovery

variable {κ ν : Type} [Ord κ]

/-- Inserts an entry into a list of entries sorted by key, in place of one with the same key. -/
def insertEntry (key : κ) (value : ν) : List (κ × ν) → List (κ × ν)
  | [] => [(key, value)]
  | head :: rest =>
    match compare key head.1 with
    | .lt => (key, value) :: head :: rest
    | .eq => (key, value) :: rest
    | .gt => head :: insertEntry key value rest

/-- The value stored under a key. -/
def findEntry (key : κ) : List (κ × ν) → Option ν
  | [] => none
  | head :: rest => if compare key head.1 = .eq then some head.2 else findEntry key rest

theorem mem_insertEntry {key : κ} {value : ν} {entry : κ × ν} {entries : List (κ × ν)}
    (h : entry ∈ insertEntry key value entries) : entry = (key, value) ∨ entry ∈ entries := by
  induction entries with
  | nil => simpa [insertEntry] using h
  | cons head rest ih =>
    simp only [insertEntry] at h
    split at h <;> grind

/-- Insertion keeps the keys strictly increasing. -/
theorem sorted_insertEntry [Std.TransOrd κ] [Std.LawfulEqOrd κ] (key : κ) (value : ν)
    {entries : List (κ × ν)}
    (h : entries.Pairwise fun a b => compare a.1 b.1 = .lt) :
    (insertEntry key value entries).Pairwise fun a b => compare a.1 b.1 = .lt := by
  induction entries with
  | nil => simp [insertEntry]
  | cons head rest ih =>
    rw [List.pairwise_cons] at h
    simp only [insertEntry]
    split
    · rename_i hlt
      refine List.pairwise_cons.2 ⟨fun b hb => ?_, List.pairwise_cons.2 h⟩
      rcases List.mem_cons.1 hb with rfl | hb
      · exact hlt
      · exact Std.TransCmp.lt_trans hlt (h.1 b hb)
    · rename_i heq
      have hkey : key = head.1 := Std.LawfulEqCmp.compare_eq_iff_eq.1 heq
      exact List.pairwise_cons.2 ⟨fun b hb => hkey ▸ h.1 b hb, h.2⟩
    · rename_i hgt
      refine List.pairwise_cons.2 ⟨fun b hb => ?_, ih h.2⟩
      rcases mem_insertEntry hb with rfl | hb
      · exact Std.OrientedCmp.gt_iff_lt.1 hgt
      · exact h.1 b hb

/-- Looking up the key just inserted finds the value; any other key finds what it did before. -/
theorem findEntry_insertEntry [Std.OrientedOrd κ] [Std.LawfulEqOrd κ] [DecidableEq κ]
    (key other : κ) (value : ν) (entries : List (κ × ν)) :
    findEntry other (insertEntry key value entries) =
      if other = key then some value else findEntry other entries := by
  induction entries with
  | nil => simp [insertEntry, findEntry, Std.LawfulEqCmp.compare_eq_iff_eq]
  | cons head rest ih =>
    simp only [insertEntry]
    split
    · simp [findEntry, Std.LawfulEqCmp.compare_eq_iff_eq]
    · rename_i heq
      have hkey : key = head.1 := Std.LawfulEqCmp.compare_eq_iff_eq.1 heq
      subst hkey
      simp only [findEntry, Std.LawfulEqCmp.compare_eq_iff_eq]
      split <;> rfl
    · rename_i hgt
      simp only [findEntry, ih, Std.LawfulEqCmp.compare_eq_iff_eq]
      split
      · rename_i hother
        split
        · rename_i hkey
          rw [← hkey, hother] at hgt
          simp at hgt
        · rfl
      · rfl

/-- A key below all keys of a list is not found in it. -/
theorem findEntry_eq_none_of_lt {key : κ} {entries : List (κ × ν)}
    (h : ∀ b ∈ entries, compare key b.1 = .lt) : findEntry key entries = none := by
  induction entries with
  | nil => rfl
  | cons head rest ih =>
    have hhead := h head (by simp)
    simp only [findEntry, hhead]
    exact ih fun b hb => h b (by simp [hb])

/-- Sorted lists that answer every look-up alike are the same list. -/
theorem eq_of_findEntry_eq [Std.TransOrd κ] [Std.LawfulEqOrd κ] : ∀ {xs ys : List (κ × ν)},
    (xs.Pairwise fun a b => compare a.1 b.1 = .lt) →
    (ys.Pairwise fun a b => compare a.1 b.1 = .lt) →
    (∀ key, findEntry key xs = findEntry key ys) → xs = ys
  | [], [], _, _, _ => rfl
  | [], y :: ys, _, _, h => by simpa [findEntry] using h y.1
  | x :: xs, [], _, _, h => by simpa [findEntry] using h x.1
  | x :: xs, y :: ys, hx, hy, h => by
    rw [List.pairwise_cons] at hx hy
    have hkey : compare x.1 y.1 = .eq := by
      cases hc : compare x.1 y.1 with
      | eq => rfl
      | lt =>
        have hnone : findEntry x.1 (y :: ys) = none := findEntry_eq_none_of_lt fun b hb => by
          rcases List.mem_cons.1 hb with rfl | hb
          · exact hc
          · exact Std.TransCmp.lt_trans hc (hy.1 b hb)
        have := h x.1
        rw [hnone] at this
        simp [findEntry] at this
      | gt =>
        have hc' := Std.OrientedCmp.gt_iff_lt.1 hc
        have hnone : findEntry y.1 (x :: xs) = none := findEntry_eq_none_of_lt fun b hb => by
          rcases List.mem_cons.1 hb with rfl | hb
          · exact hc'
          · exact Std.TransCmp.lt_trans hc' (hx.1 b hb)
        have := h y.1
        rw [hnone] at this
        simp [findEntry] at this
    have heq : x.1 = y.1 := Std.LawfulEqCmp.compare_eq_iff_eq.1 hkey
    have hvalue : x.2 = y.2 := by
      have := h x.1
      simpa [findEntry, heq] using this
    have hrest : xs = ys := by
      refine eq_of_findEntry_eq hx.2 hy.2 fun key => ?_
      have hkeys := h key
      simp only [findEntry, heq] at hkeys
      split at hkeys
      · rename_i he
        have he' : key = y.1 := Std.LawfulEqCmp.compare_eq_iff_eq.1 he
        have hxs : findEntry key xs = none := findEntry_eq_none_of_lt fun b hb => by
          rw [he', ← heq]; exact hx.1 b hb
        have hys : findEntry key ys = none := findEntry_eq_none_of_lt fun b hb => by
          rw [he']; exact hy.1 b hb
        rw [hxs, hys]
      · exact hkeys
    rw [hrest, Prod.ext heq hvalue]

/-- A finite map whose entries are listed by increasing key. -/
structure SortedMap (κ ν : Type) [Ord κ] where
  /-- The entries, smallest key first. -/
  entries : List (κ × ν)
  /-- Keys strictly increase, so no key occurs twice. -/
  sorted : entries.Pairwise fun a b => compare a.1 b.1 = .lt

namespace SortedMap

/-- The map without entries. -/
def empty : SortedMap κ ν := ⟨[], .nil⟩

instance : Inhabited (SortedMap κ ν) := ⟨empty⟩

instance [DecidableEq κ] [DecidableEq ν] : DecidableEq (SortedMap κ ν) := fun a b =>
  decidable_of_iff (a.entries = b.entries) (by cases a; cases b; simp)

/-- The value stored under a key. -/
def get? (map : SortedMap κ ν) (key : κ) : Option ν :=
  findEntry key map.entries

/-- A key is stored. -/
def contains (map : SortedMap κ ν) (key : κ) : Bool :=
  (map.get? key).isSome

/-- The keys in increasing order. -/
def keys (map : SortedMap κ ν) : List κ :=
  map.entries.map (·.1)

/-- The values in the order of their keys. -/
def values (map : SortedMap κ ν) : List ν :=
  map.entries.map (·.2)

/-- The number of entries. -/
def size (map : SortedMap κ ν) : Nat :=
  map.entries.length

/-- There are no entries. -/
def isEmpty (map : SortedMap κ ν) : Bool :=
  map.entries.isEmpty

theorem isEmpty_iff {map : SortedMap κ ν} : map.isEmpty = true ↔ map = empty := by
  obtain ⟨entries, sorted⟩ := map
  rw [isEmpty, List.isEmpty_iff, empty, mk.injEq]

theorem get?_empty (key : κ) : (empty : SortedMap κ ν).get? key = none := rfl

variable [Std.TransOrd κ] [Std.LawfulEqOrd κ]

/-- Stores a value under a key, in place of an earlier one. -/
def insert (map : SortedMap κ ν) (key : κ) (value : ν) : SortedMap κ ν :=
  ⟨insertEntry key value map.entries, sorted_insertEntry key value map.sorted⟩

/-- Inserts entries from first to last, so that of several under one key the last one stands. -/
def ofList (entries : List (κ × ν)) : SortedMap κ ν :=
  entries.foldl (fun map entry => map.insert entry.1 entry.2) empty

theorem get?_insert [DecidableEq κ] (map : SortedMap κ ν) (key other : κ) (value : ν) :
    (map.insert key value).get? other = if other = key then some value else map.get? other :=
  findEntry_insertEntry key other value map.entries

/-- Maps with the same contents are equal. -/
theorem ext_get? {a b : SortedMap κ ν} (h : ∀ key, a.get? key = b.get? key) : a = b := by
  have := eq_of_findEntry_eq a.sorted b.sorted h
  cases a; cases b; simp_all

end SortedMap

/-- A finite set whose members are listed in increasing order. -/
abbrev SortedSet (κ : Type) [Ord κ] := SortedMap κ Unit

end GpuDiscovery

import GpuDiscovery.Registry.Path

/-!
# Reading registry paths back

What is parsed is exactly what is written: the path of a text is the one path with something below
its root that is written so (`parse_eq_ok_iff`). The separator is the first backslash, because no
root has one in its name, so the path below may hold any further ones. Joining puts them there, and
what is joined is still read back.
-/

namespace GpuDiscovery

/-- The names that a path can begin with. -/
def rootNames : List String :=
  ["HKEY_CLASSES_ROOT", "HKEY_CURRENT_CONFIG", "HKEY_CURRENT_USER", "HKEY_LOCAL_MACHINE",
   "HKEY_PERFORMANCE_DATA", "HKEY_USERS"]

namespace RegistryRoot

/-- The names are those of the roots. -/
theorem mem_rootNames_iff {name : String} :
    name ∈ rootNames ↔ ∃ root : RegistryRoot, root.name = name := by
  constructor
  · intro h
    have hevery : rootNames = every.map RegistryRoot.name := rfl
    rw [hevery] at h
    obtain ⟨root, -, hname⟩ := List.mem_map.1 h
    exact ⟨root, hname⟩
  · rintro ⟨root, rfl⟩
    cases root <;> decide

theorem ofName_eq_ok_iff {name : String} {root : RegistryRoot} :
    ofName name = .ok root ↔ name = root.name := by
  constructor
  · intro h
    rw [ofName] at h
    split at h
    · next found hfound =>
      rw [← Except.ok.inj h]
      have hname := List.find?_some hfound
      exact (of_decide_eq_true hname).symm
    · cases h
  · rintro rfl
    exact ofName_name root

end RegistryRoot

namespace RegistryPath

variable {path : RegistryPath} {text : String}

theorem toList_text (path : RegistryPath) :
    path.text.toList = path.root.name.toList ++ '\\' :: path.subkey.toList := by
  rw [RegistryPath.text, String.toList_append, String.toList_append, List.append_assoc]
  rfl

/-- A path is written with its root in front of the first backslash. -/
theorem splitAtFirst_text (path : RegistryPath) :
    Text.splitAtFirst '\\' path.text.toList =
      some (path.root.name.toList, path.subkey.toList) :=
  Text.splitAtFirst_eq_some_iff.2 ⟨path.toList_text, path.root.separator_notMem_name⟩

theorem text_of_parse (h : parse text = .ok path) : text = path.text ∧ path.subkey ≠ "" := by
  rw [parse] at h
  split at h
  · cases h
  · cases h
  · next name subkey hsubkey hsplit =>
    cases hroot : RegistryRoot.ofName (String.ofList name) with
    | error error =>
      rw [hroot] at h
      cases h
    | ok root =>
      rw [hroot] at h
      cases h
      obtain ⟨hcut, -⟩ := Text.splitAtFirst_eq_some_iff.1 hsplit
      constructor
      · rw [← String.toList_inj, hcut, toList_text, String.toList_ofList,
          ← RegistryRoot.ofName_eq_ok_iff.1 hroot, String.toList_ofList]
      · intro hempty
        exact hsubkey (String.ofList_eq_empty_iff.1 hempty)

theorem parse_text (h : path.subkey ≠ "") : parse path.text = .ok path := by
  rw [parse, splitAtFirst_text]
  split
  · next hnone => cases hnone
  · next hnil =>
    obtain ⟨-, hempty⟩ := Prod.mk.inj (Option.some.inj hnil)
    exact absurd (String.toList_eq_nil_iff.1 hempty) h
  · next hparts =>
    obtain ⟨rfl, rfl⟩ := Prod.mk.inj (Option.some.inj hparts)
    rw [String.ofList_toList, String.ofList_toList, RegistryRoot.ofName_name]
    rfl

/-- **Parsing is reading back.** -/
theorem parse_eq_ok_iff : parse text = .ok path ↔ text = path.text ∧ path.subkey ≠ "" := by
  constructor
  · exact text_of_parse
  · rintro ⟨rfl, hsubkey⟩
    exact parse_text hsubkey

/-- What can be parsed is a root's name, a backslash, and something behind it. -/
theorem exists_parse_iff :
    (∃ path, parse text = .ok path) ↔
      ∃ name ∈ rootNames, ∃ subkey, subkey ≠ "" ∧ text = name ++ "\\" ++ subkey := by
  simp only [parse_eq_ok_iff, RegistryRoot.mem_rootNames_iff]
  constructor
  · rintro ⟨⟨root, subkey⟩, rfl, hsubkey⟩
    exact ⟨root.name, ⟨root, rfl⟩, subkey, hsubkey, rfl⟩
  · rintro ⟨_, ⟨root, rfl⟩, subkey, hsubkey, rfl⟩
    exact ⟨⟨root, subkey⟩, rfl, hsubkey⟩

/-! ## Joining -/

@[simp] theorem text_join (path : RegistryPath) (child : String) :
    (path.join child).text = path.text ++ "\\" ++ child := by
  simp only [RegistryPath.text, join, String.append_assoc]

theorem subkey_join_ne_empty (path : RegistryPath) (child : String) :
    (path.join child).subkey ≠ "" := by
  rw [join]
  simp

/-- Children are written behind the path, each behind a backslash. -/
theorem text_foldl_join (path : RegistryPath) (children : List String) :
    (children.foldl join path).text = path.text ++ String.join (children.map ("\\" ++ ·)) := by
  induction children generalizing path with
  | nil => rw [List.foldl_nil, List.map_nil, String.join_nil, String.append_empty]
  | cons child rest ih =>
    rw [List.foldl_cons, ih, text_join, List.map_cons, String.join_cons, String.append_assoc,
      String.append_assoc, String.append_assoc]

/-- There is still something below the root. -/
theorem subkey_foldl_join_ne_empty (h : path.subkey ≠ "") (children : List String) :
    (children.foldl join path).subkey ≠ "" := by
  induction children generalizing path with
  | nil => exact h
  | cons child rest ih => exact ih (path.subkey_join_ne_empty child)

end RegistryPath

end GpuDiscovery

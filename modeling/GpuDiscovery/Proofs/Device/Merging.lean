import GpuDiscovery.Device.Record
import Mathlib.Data.List.Nodup

/-!
# Which files a merge takes in

`mergeFiles` goes through the files one by one, with the list as it is when their turn comes. Here
it is said without going through them: the list there was stays in front, and behind it come those
files whose destination stands nowhere in front of them (`newcomers`). The others are ignored
(`latecomers`). That a file which was turned away stands in front as well makes no difference,
because its destination does so already.

The laws of adding files to a device follow: nothing is lost or added twice, destinations stay
distinct, files can be added in portions, and adding them again adds nothing.
-/

namespace GpuDiscovery

/-- The file at this place among the files has a destination that no file has in front of it: in the
list there was, or among the files. -/
def comesFirst (former files : List RuntimeFile) (place : RuntimeFile × Nat) : Bool :=
  !hasDestination (former ++ files.take place.2) place.1.destinationName

/-- The files whose destination no file has in front of them, in their order. -/
def newcomers (former files : List RuntimeFile) : List RuntimeFile :=
  (files.zipIdx.filter (comesFirst former files)).map (·.1)

/-- The files whose destination some file has in front of them, in their order. -/
def latecomers (former files : List RuntimeFile) : List RuntimeFile :=
  (files.zipIdx.filter fun place => !comesFirst former files place).map (·.1)

variable {former files : List RuntimeFile} {name : String}

/-! ## Destinations -/

theorem hasDestination_append (xs ys : List RuntimeFile) (name : String) :
    hasDestination (xs ++ ys) name = (hasDestination xs name || hasDestination ys name) :=
  List.any_append

theorem hasDestination_iff :
    hasDestination files name = true ↔ name ∈ files.map RuntimeFile.destinationName := by
  rw [hasDestination, List.any_eq_true, List.mem_map]
  simp only [decide_eq_true_eq]

theorem hasDestination_of_prefix (h : former <+: files)
    (htaken : hasDestination former name = true) : hasDestination files name = true := by
  obtain ⟨behind, rfl⟩ := h
  rw [hasDestination_append, htaken, Bool.true_or]

/-! ## The first of each destination -/

/-- Whatever is asked about coming first: the first file comes first unless its destination is
taken, and it stands in front of the others in either case. -/
theorem map_filter_comesFirst_cons (keep : Bool → Bool) (former : List RuntimeFile)
    (file : RuntimeFile) (rest : List RuntimeFile) :
    ((file :: rest).zipIdx.filter fun place =>
        keep (comesFirst former (file :: rest) place)).map (·.1) =
      (if keep (!hasDestination former file.destinationName) then [file] else []) ++
        (rest.zipIdx.filter fun place =>
          keep (comesFirst (former ++ [file]) rest place)).map (·.1) := by
  have hrest : ((rest.zipIdx 1).filter fun place =>
        keep (comesFirst former (file :: rest) place)) =
      (rest.zipIdx.filter fun place => keep (comesFirst (former ++ [file]) rest place)).map
        fun place => (place.1, place.2 + 1) := by
    rw [List.zipIdx_succ, List.filter_map]
    congr 1
    apply List.filter_congr
    rintro ⟨other, index⟩ -
    simp [comesFirst]
  have hfirst : comesFirst former (file :: rest) (file, 0) =
      !hasDestination former file.destinationName := by
    simp [comesFirst]
  rw [List.zipIdx_cons, Nat.zero_add, List.filter_cons, hfirst, hrest]
  by_cases hkeep : keep (!hasDestination former file.destinationName) = true
  · simp [hkeep, Function.comp_def]
  · simp [hkeep, Function.comp_def]

@[simp] theorem newcomers_nil (former : List RuntimeFile) : newcomers former [] = [] := rfl

@[simp] theorem latecomers_nil (former : List RuntimeFile) : latecomers former [] = [] := rfl

theorem newcomers_cons (former : List RuntimeFile) (file : RuntimeFile) (rest : List RuntimeFile) :
    newcomers former (file :: rest) =
      (if hasDestination former file.destinationName then [] else [file]) ++
        newcomers (former ++ [file]) rest := by
  have hcons := map_filter_comesFirst_cons id former file rest
  by_cases htaken : hasDestination former file.destinationName = true
  · simpa [newcomers, htaken] using hcons
  · simpa [newcomers, htaken] using hcons

theorem latecomers_cons (former : List RuntimeFile) (file : RuntimeFile)
    (rest : List RuntimeFile) :
    latecomers former (file :: rest) =
      (if hasDestination former file.destinationName then [file] else []) ++
        latecomers (former ++ [file]) rest := by
  have hcons := map_filter_comesFirst_cons Bool.not former file rest
  rwa [Bool.not_not] at hcons

/-- What is new depends on the destinations that were taken, and on nothing else of the list. -/
theorem comesFirst_congr {xs ys : List RuntimeFile}
    (h : ∀ name, hasDestination xs name = hasDestination ys name) (files : List RuntimeFile) :
    comesFirst xs files = comesFirst ys files := by
  funext place
  rw [comesFirst, comesFirst, hasDestination_append, hasDestination_append, h]

/-- Every file is either new or late. -/
theorem perm_newcomers_latecomers (former files : List RuntimeFile) :
    (newcomers former files ++ latecomers former files).Perm files := by
  have hsplit := List.filter_append_perm (comesFirst former files) files.zipIdx
  have hfiles := hsplit.map Prod.fst
  rw [List.map_append, List.zipIdx_map_fst] at hfiles
  exact hfiles

/-! ## Merging -/

/-- **A merge takes in the newcomers and hands the latecomers back.** -/
theorem mergeFiles_eq (former files : List RuntimeFile) :
    mergeFiles former files = (former ++ newcomers former files, latecomers former files) := by
  induction files generalizing former with
  | nil => simp [mergeFiles]
  | cons file rest ih =>
    rw [mergeFiles, newcomers_cons, latecomers_cons]
    by_cases htaken : hasDestination former file.destinationName = true
    -- A file that is turned away brings no destination that is not there.
    · have hsame : ∀ name, hasDestination (former ++ [file]) name = hasDestination former name := by
        intro name
        rw [hasDestination_append]
        by_cases hname : file.destinationName = name
        · rw [← hname, htaken, Bool.true_or]
        · simp [hasDestination, hname]
      simp only [if_pos htaken, ih former, newcomers, latecomers, comesFirst_congr hsame rest,
        List.nil_append, List.singleton_append]
    · simp only [if_neg htaken, ih, List.append_assoc, List.nil_append]

theorem mergeFiles_eq_append_newcomers (former files : List RuntimeFile) :
    (mergeFiles former files).1 = former ++ newcomers former files := by
  rw [mergeFiles_eq]

theorem prefix_mergeFiles (former files : List RuntimeFile) :
    former <+: (mergeFiles former files).1 := by
  rw [mergeFiles_eq_append_newcomers]
  exact List.prefix_append _ _

/-- Merging files at once is merging them in two steps. -/
theorem mergeFiles_append (former xs ys : List RuntimeFile) :
    mergeFiles former (xs ++ ys) =
      ((mergeFiles (mergeFiles former xs).1 ys).1,
        (mergeFiles former xs).2 ++ (mergeFiles (mergeFiles former xs).1 ys).2) := by
  induction xs generalizing former with
  | nil => rfl
  | cons file rest ih =>
    rw [List.cons_append, mergeFiles, mergeFiles]
    by_cases htaken : hasDestination former file.destinationName = true
    · rw [if_pos htaken, if_pos htaken, ih former]
      rfl
    · rw [if_neg htaken, if_neg htaken, ih (former ++ [file])]

/-- Merging takes no destination that is taken. -/
theorem nodup_mergeFiles (h : (former.map RuntimeFile.destinationName).Nodup)
    (files : List RuntimeFile) :
    ((mergeFiles former files).1.map RuntimeFile.destinationName).Nodup := by
  induction files generalizing former with
  | nil => exact h
  | cons file rest ih =>
    rw [mergeFiles]
    by_cases htaken : hasDestination former file.destinationName = true
    · rw [if_pos htaken]
      exact ih h
    -- The file is taken in at the end, where its destination is new.
    · rw [if_neg htaken]
      rw [hasDestination_iff] at htaken
      apply ih
      rw [List.map_append, List.map_singleton, List.nodup_append]
      refine ⟨h, List.nodup_singleton _, ?_⟩
      intro name hname other hother heq
      rw [List.mem_singleton] at hother
      rw [heq, hother] at hname
      exact htaken hname

/-- Once files were merged, the destination of each of them is taken. -/
theorem taken_mergeFiles {file : RuntimeFile} (h : file ∈ files) :
    hasDestination (mergeFiles former files).1 file.destinationName = true := by
  induction files generalizing former with
  | nil => exact absurd h List.not_mem_nil
  | cons first rest ih =>
    rw [mergeFiles]
    by_cases htaken : hasDestination former first.destinationName = true
    · rw [if_pos htaken]
      rcases List.mem_cons.1 h with rfl | h
      · exact hasDestination_of_prefix (prefix_mergeFiles former rest) htaken
      · exact ih h
    · rw [if_neg htaken]
      rcases List.mem_cons.1 h with rfl | h
      · refine hasDestination_of_prefix (prefix_mergeFiles _ rest) ?_
        simp [hasDestination]
      · exact ih h

/-- Of files whose destinations are taken, none is taken in. -/
theorem mergeFiles_of_taken
    (h : ∀ file ∈ files, hasDestination former file.destinationName = true) :
    mergeFiles former files = (former, files) := by
  induction files with
  | nil => rfl
  | cons file rest ih =>
    rw [List.forall_mem_cons] at h
    rw [mergeFiles, if_pos h.1, ih h.2]

/-! ## Adding files to a device -/

namespace DeviceRecord

/-- A device with its own files is the device. -/
theorem withFiles_files (device : DeviceRecord) (list : RuntimeFileList) :
    device.withFiles (device.files list) list = device := by
  rcases list with _ | _
  · rfl
  · rfl

@[simp] theorem withFiles_withFiles (device : DeviceRecord) (xs ys : List RuntimeFile)
    (list : RuntimeFileList) : (device.withFiles xs list).withFiles ys list =
      device.withFiles ys list := by
  rcases list with _ | _
  · rfl
  · rfl

theorem appendFiles_eq (device : DeviceRecord) (list : RuntimeFileList)
    (files : List RuntimeFile) :
    device.appendFiles list files =
      (device.withFiles (mergeFiles (device.files list) files).1 list,
        (mergeFiles (device.files list) files).2) := rfl

/-- **Adding files is a partition of them.** The files whose destination is new go behind the ones
that are there, the others are handed back, each in their order, and together they are all files.
Putting the former list back gives the former device, so nothing but this list has changed. Its
destinations are distinct exactly if they were so before. Files can be added in two portions, and
adding them a second time changes nothing and hands all of them back. -/
theorem appendFiles_partitions (device : DeviceRecord) (list : RuntimeFileList)
    (xs : List RuntimeFile) :
    let first := device.appendFiles list xs
    first.1.files list = device.files list ++ newcomers (device.files list) xs ∧
      first.2 = latecomers (device.files list) xs ∧
      (newcomers (device.files list) xs ++ latecomers (device.files list) xs).Perm xs ∧
      first.1.withFiles (device.files list) list = device ∧
      (((first.1.files list).map RuntimeFile.destinationName).Nodup ↔
        ((device.files list).map RuntimeFile.destinationName).Nodup) ∧
      (∀ ys, device.appendFiles list (xs ++ ys) =
        ((first.1.appendFiles list ys).1, first.2 ++ (first.1.appendFiles list ys).2)) ∧
      first.1.appendFiles list xs = (first.1, xs) := by
  intro first
  have hfirst : first = (device.withFiles (mergeFiles (device.files list) xs).1 list,
      (mergeFiles (device.files list) xs).2) := rfl
  have hfiles : first.1.files list = (mergeFiles (device.files list) xs).1 :=
    files_withFiles _ _ _
  refine ⟨?_, ?_, perm_newcomers_latecomers _ _, ?_, ?_, fun ys => ?_, ?_⟩
  · rw [hfiles, mergeFiles_eq]
  · rw [hfirst, mergeFiles_eq]
  · rw [hfirst, withFiles_withFiles, withFiles_files]
  · rw [hfiles]
    constructor
    · exact List.Nodup.sublist ((prefix_mergeFiles _ xs).sublist.map _)
    · exact fun h => nodup_mergeFiles h xs
  · rw [appendFiles_eq, appendFiles_eq, hfiles, hfirst, mergeFiles_append, withFiles_withFiles]
  · have htaken : mergeFiles (first.1.files list) xs = (first.1.files list, xs) := by
      apply mergeFiles_of_taken
      intro file hmem
      rw [hfiles]
      exact taken_mergeFiles hmem
    rw [appendFiles_eq, htaken, withFiles_files]

end DeviceRecord

-- The file that was there and the first of two new ones keep the others out.
example :
    let file (source : String) : RuntimeFile := .ofPaths source ""
    mergeFiles [file "base\\ocl.dll"] [file "a\\hip.dll", file "x64\\ocl.dll", file "b/hip.dll"] =
      ([file "base\\ocl.dll", file "a\\hip.dll"], [file "x64\\ocl.dll", file "b/hip.dll"]) := by
  decide +kernel

end GpuDiscovery

import GpuDiscovery.Text.CaseFold
import Mathlib

/-!
# Texts in another case

A letter of the 26 has another case, and every other character is alone (`IsCaseOf`). Folding both
texts to small letters decides whether one is the other in another case, character by character
(`map_toLower_eq_iff`).

Beginnings are cut off by their size in bytes (`takeBytes`). A letter fills one byte in either case,
so a text fills as many bytes as any other text that differs in case only, and cutting by bytes is
the same as cutting by characters wherever the comparison goes well.
-/

namespace GpuDiscovery.Text

/-- The other character is this one, or the same letter in the other case. -/
def IsCaseOf (letter other : Char) : Prop :=
  other = letter ∨ other = letter.toLower ∨ other = letter.toUpper

/-- The other text is this one with some of its letters in the other case. -/
def IsRecasing (text other : List Char) : Prop :=
  List.Forall₂ IsCaseOf text other

variable {letter other : Char} {text start cs : List Char}

/-! ## Folding -/

theorem toLower_eq_toLower_iff : letter.toLower = other.toLower ↔ IsCaseOf letter other := by
  constructor
  · intro h
    by_cases hupper : other.isUpper = true
    · have hother : other.toUpper = other :=
        Char.toUpper_eq_of_not_isLower (Char.not_isLower_of_isUpper hupper)
      refine .inr (.inr ?_)
      rw [← hother, ← Char.toUpper_toLower_eq_toUpper, ← h, Char.toUpper_toLower_eq_toUpper]
    · rw [Char.toLower_eq_of_not_isUpper hupper] at h
      exact .inr (.inl h.symm)
  · rintro (rfl | rfl | rfl)
    · rfl
    · rw [Char.toLower_toLower_eq_toLower]
    · rw [Char.toLower_toUpper_eq_toLower]

/-- Texts differ in case only exactly if folding makes them equal. -/
theorem map_toLower_eq_iff :
    text.map Char.toLower = cs.map Char.toLower ↔ IsRecasing text cs := by
  rw [IsRecasing, ← List.forall₂_eq_eq_eq, List.forall₂_map_left_iff, List.forall₂_map_right_iff]
  simp only [toLower_eq_toLower_iff]

theorem sameLetters_iff :
    sameLetters text cs = true ↔ text.map Char.toLower = cs.map Char.toLower :=
  beq_iff_eq

/-! ## Sizes -/

theorem utf8Size_toLower (c : Char) : c.toLower.utf8Size = c.utf8Size := by
  by_cases h : c.isUpper = true
  · have hupper : c.utf8Size = 1 := by
      rw [Char.utf8Size_eq_one_iff]
      grind [Char.isUpper]
    have hlower : c.toLower.utf8Size = 1 := by
      rw [Char.utf8Size_eq_one_iff]
      grind [Char.isUpper, Char.toLower]
    rw [hupper, hlower]
  · rw [Char.toLower_eq_of_not_isUpper h]

theorem utf8Len_map_toLower (cs : List Char) :
    String.utf8Len (cs.map Char.toLower) = String.utf8Len cs := by
  induction cs with
  | nil => rfl
  | cons c rest ih =>
    rw [List.map_cons, String.utf8Len_cons, String.utf8Len_cons, ih, utf8Size_toLower]

/-- What is taken is the beginning of that size. -/
theorem takeBytes_eq_some_iff {size : Nat} :
    takeBytes size cs = some start ↔ start <+: cs ∧ String.utf8Len start = size := by
  fun_induction takeBytes size cs generalizing start with
  | case1 cs =>
    constructor
    · rintro ⟨⟩
      exact ⟨List.nil_prefix, rfl⟩
    -- Every character fills a byte, so only the empty beginning fills none.
    · rintro ⟨-, hsize⟩
      rcases start with _ | ⟨c, others⟩
      · rfl
      · have hpos := c.utf8Size_pos
        rw [String.utf8Len_cons] at hsize
        omega
  | case2 size =>
    refine iff_of_false nofun ?_
    rintro ⟨hbegins, hsize⟩
    rw [List.prefix_nil.1 hbegins] at hsize
    cases hsize
  | case3 size c rest hfits ih =>
    rw [Option.map_eq_some_iff]
    constructor
    · rintro ⟨others, hothers, rfl⟩
      obtain ⟨hbegins, hsize⟩ := ih.1 hothers
      rw [String.utf8Len_cons, hsize]
      exact ⟨List.cons_prefix_cons.2 ⟨rfl, hbegins⟩, Nat.sub_add_cancel hfits⟩
    · rintro ⟨hbegins, hsize⟩
      rcases start with _ | ⟨first, others⟩
      · cases hsize
      · obtain ⟨rfl, hothers⟩ := List.cons_prefix_cons.1 hbegins
        rw [String.utf8Len_cons] at hsize
        exact ⟨others, ih.2 ⟨hothers, by omega⟩, rfl⟩
  -- The first character is too wide for what is to be filled.
  | case4 size c rest hwide =>
    refine iff_of_false nofun ?_
    rintro ⟨hbegins, hsize⟩
    rcases start with _ | ⟨first, others⟩
    · cases hsize
    · obtain ⟨rfl, -⟩ := List.cons_prefix_cons.1 hbegins
      rw [String.utf8Len_cons] at hsize
      omega

/-- A beginning is another text in some case exactly if cutting by the size of that text gives
it. -/
theorem takeBytes_any_sameLetters_iff :
    (takeBytes (String.utf8Len text) cs).any (sameLetters · text) = true ↔
      text.map Char.toLower <+: cs.map Char.toLower := by
  rw [Option.any_eq_true, List.prefix_map_iff]
  constructor
  · rintro ⟨start, htake, hsame⟩
    exact ⟨start, (takeBytes_eq_some_iff.1 htake).1, (sameLetters_iff.1 hsame).symm⟩
  · rintro ⟨start, hbegins, hsame⟩
    have hsize : String.utf8Len start = String.utf8Len text := by
      rw [← utf8Len_map_toLower start, ← hsame, utf8Len_map_toLower]
    exact ⟨start, takeBytes_eq_some_iff.2 ⟨hbegins, hsize⟩, sameLetters_iff.2 hsame.symm⟩

end GpuDiscovery.Text

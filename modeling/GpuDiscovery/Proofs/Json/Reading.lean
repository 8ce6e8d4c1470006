import GpuDiscovery.Json.Value
import GpuDiscovery.Proofs.Text.Numeral
import GpuDiscovery.Proofs.Text.Utf16
import Mathlib.Data.List.Basic

/-!
# Reading JSON back

A reader for all JSON texts without fractions, exponents and nulls, in whatever way they are laid
out: white space may stand between any two tokens, characters may be escaped in any of the ways that
there are, and the halves of a surrogate pair may be escaped one by one. It knows nothing of the
layout that `Json.pretty` chooses.

What `Json.pretty` writes is read as the value it was written for (`read?_pretty`). Every reader of
a part is given whatever stands behind the part as well, and has to leave it alone. Only numbers
could reach into it, as they have no end of their own; but what stands behind a number is a comma, a
line end or nothing (`EndsNumber`).
-/

namespace GpuDiscovery.Json

open Text

/-! ## The reader -/

/-- White space between tokens. -/
def isSpace (c : Char) : Bool :=
  c = ' ' || c = '\t' || c = '\n' || c = '\r'

/-- What stands behind the white space in front. -/
def skipSpace (cs : List Char) : List Char :=
  cs.dropWhile isSpace

/-- The unit that hexadecimal digits of either case stand for. -/
def unit? (digits : List Char) : Option UInt16 :=
  if digits.all fun c => hexDigitValue c.toLower < 16 then
    some (UInt16.ofNat (hexValue (digits.map Char.toLower)))
  else none

/-- The unit that a backslash and a character stand for. -/
def shortEscape? : Char → Option UInt16
  | '"' => some 0x22
  | '\\' => some 0x5C
  | '/' => some 0x2F
  | 'b' => some 0x08
  | 'f' => some 0x0C
  | 'n' => some 0x0A
  | 'r' => some 0x0D
  | 't' => some 0x09
  | _ => none

/-- Puts units in front of those that were read. -/
def prepend (units : List UInt16) (read : Option (List UInt16 × List Char)) :
    Option (List UInt16 × List Char) :=
  read.map fun others => (units ++ others.1, others.2)

/-- Reads the characters of a text up to the closing quotation mark. They come as units, because a
character may be escaped as two of them. -/
def readUnits : List Char → Option (List UInt16 × List Char)
  | [] => none
  | '"' :: rest => some ([], rest)
  | '\\' :: 'u' :: a :: b :: c :: d :: rest =>
    (unit? [a, b, c, d]).bind fun unit => prepend [unit] (readUnits rest)
  | '\\' :: c :: rest =>
    (shortEscape? c).bind fun unit => prepend [unit] (readUnits rest)
  | c :: rest =>
    if c.toNat < 0x20 then none else prepend (Utf16.encodeChar c) (readUnits rest)

/-- Reads a text in quotation marks. -/
def readText : List Char → Option (String × List Char)
  | '"' :: rest => do
    let (units, rest) ← readUnits rest
    let text ← Utf16.decode? units
    return (text, rest)
  | _ => none

/-- Reads a natural number, which has no zero in front unless it is zero. -/
def readNatural (cs : List Char) : Option (Nat × List Char) :=
  let digits := cs.takeWhile Char.isDigit
  if digits = [] ∨ (digits.head? = some '0' ∧ digits ≠ ['0']) then none
  else some (Nat.ofDigitChars 10 digits 0, cs.dropWhile Char.isDigit)

/-- Reads a number. -/
def readInteger : List Char → Option (Int × List Char)
  | '-' :: rest => (readNatural rest).map fun read => (-(read.1 : Int), read.2)
  | cs => (readNatural cs).map fun read => ((read.1 : Int), read.2)

section

variable {α : Type} (readItem : List Char → Option (α × List Char)) (close : Char)

/-- Reads at most so many items and their commas, up to the closing bracket. -/
def readItems : (most : Nat) → List Char → Option (List α × List Char)
  | 0, _ => none
  | most + 1, cs => do
    let (item, rest) ← readItem cs
    match skipSpace rest with
    | [] => none
    | c :: rest =>
      if c = close then
        return ([item], rest)
      else if c = ',' then
        let (items, rest) ← readItems most rest
        return (item :: items, rest)
      else none

/-- Reads what stands behind an opening bracket, up to the closing one. -/
def readSequence (cs : List Char) : Option (List α × List Char) :=
  if (skipSpace cs).head? = some close then some ([], (skipSpace cs).tail)
  else readItems readItem close cs.length cs

end

/-- Reads a member of an object. -/
def readMember (readItem : List Char → Option (Json × List Char)) (cs : List Char) :
    Option ((String × Json) × List Char) := do
  let (name, rest) ← readText (skipSpace cs)
  match skipSpace rest with
  | ':' :: rest => do
    let (value, rest) ← readItem rest
    return ((name, value), rest)
  | _ => none

/-- Reads a value whose brackets are nested at most so deep. -/
def readValue : (depth : Nat) → List Char → Option (Json × List Char)
  | 0, _ => none
  | depth + 1, cs =>
    match skipSpace cs with
    | 't' :: 'r' :: 'u' :: 'e' :: rest => some (bool true, rest)
    | 'f' :: 'a' :: 'l' :: 's' :: 'e' :: rest => some (bool false, rest)
    | '[' :: rest =>
      (readSequence (readValue depth) ']' rest).map fun read => (array read.1, read.2)
    | '\x7b' :: rest =>
      (readSequence (readMember (readValue depth)) '\x7d' rest).map fun read =>
        (object read.1, read.2)
    | '"' :: rest => (readText ('"' :: rest)).map fun read => (string read.1, read.2)
    | cs => (readInteger cs).map fun read => (integer read.1, read.2)

/-- The value of a text. No brackets are nested deeper than there are characters. -/
def read? (text : String) : Option Json := do
  let (value, rest) ← readValue (text.length + 1) text.toList
  if skipSpace rest = [] then some value else none

/-! ## White space -/

variable {c : Char} {cs rest behind : List Char} {level : Nat}

theorem skipSpace_cons (h : isSpace c = false) : skipSpace (c :: cs) = c :: cs := by
  rw [skipSpace, List.dropWhile_cons, h]
  rfl

/-- A line end and blanks are white space. -/
theorem skipSpace_newLine (level : Nat) (cs : List Char) :
    skipSpace (newLine level ++ cs) = skipSpace cs := by
  apply List.dropWhile_append_of_pos
  intro c hc
  rcases List.mem_cons.1 hc with rfl | hc
  · rfl
  · rw [List.eq_of_mem_replicate hc]
    rfl

/-! ## Texts -/

/-- A control character is escaped by four digits that are read as its unit. -/
theorem unit?_control : ∀ n < 0x20, ∃ a b c d,
    zeroFill 4 (Nat.toDigits 16 n) = [a, b, c, d] ∧ unit? [a, b, c, d] = some (UInt16.ofNat n) := by
  have hdigits : ∀ n < 0x20, zeroFill 4 (Nat.toDigits 16 n) =
        ['0', '0', (n / 16).digitChar, (n % 16).digitChar] ∧
      unit? ['0', '0', (n / 16).digitChar, (n % 16).digitChar] = some (UInt16.ofNat n) := by
    decide
  exact fun n hn => ⟨_, _, _, _, hdigits n hn⟩

/-- However a character is written, it is read as its units. -/
theorem readUnits_escape (c : Char) (rest : List Char) :
    readUnits (escape c ++ rest) = prepend (Utf16.encodeChar c) (readUnits rest) := by
  rw [escape.eq_def]
  split
  -- All characters but the seven that have short escapes.
  case h_8 hquote hbackslash _ _ _ _ _ =>
    by_cases hcontrol : c.toNat < 0x20
    · obtain ⟨a, b, x, y, hdigits, hunit⟩ := unit?_control c.toNat hcontrol
      have hbasic : c.toNat < 0x10000 := by omega
      rw [if_pos hcontrol, hdigits, Utf16.encodeChar, if_pos hbasic]
      simp only [List.cons_append, List.nil_append, readUnits, hunit, Option.bind_some]
    -- Neither the quotation mark nor the backslash, so nothing but the character itself is left.
    · rw [if_neg hcontrol, List.singleton_append, readUnits, if_neg hcontrol]
      · exact hquote
      · intros
        exact hbackslash ‹_›
      · intros
        exact hbackslash ‹_›
  all_goals rfl

theorem readUnits_flatMap_escape (cs rest : List Char) :
    readUnits (cs.flatMap escape ++ '"' :: rest) = some (cs.flatMap Utf16.encodeChar, rest) := by
  induction cs with
  | nil => rfl
  | cons c cs ih =>
    rw [List.flatMap_cons, List.append_assoc, readUnits_escape, ih]
    rfl

/-- A text is read up to its closing quotation mark. -/
theorem readText_quote (text : String) (rest : List Char) :
    readText (quote text ++ rest) = some (text, rest) := by
  have hquote : quote text ++ rest = '"' :: (text.toList.flatMap escape ++ '"' :: rest) := by
    simp only [quote, List.cons_append, List.append_assoc, List.nil_append]
  have hunits : Utf16.decode? (text.toList.flatMap Utf16.encodeChar) = some text :=
    Utf16.decode?_encode text
  simp only [hquote, readText, readUnits_flatMap_escape, Option.bind_eq_bind, Option.bind_some,
    hunits, Option.pure_def]

/-! ## Numbers -/

/-- No digit stands here, so a number in front of it is at its end. -/
def EndsNumber (rest : List Char) : Prop :=
  ∀ c ∈ rest.head?, c.isDigit = false

/-- Only zero has a zero in front. -/
theorem head?_toDigits_ne {n : Nat} (hn : n ≠ 0) : (Nat.toDigits 10 n).head? ≠ some '0' := by
  induction n using Nat.strongRecOn with
  | ind n ih =>
    rw [Nat.toDigits_eq_if (by decide)]
    by_cases hsmall : n < 10
    · have hdigit : ∀ d < 10, d ≠ 0 → d.digitChar ≠ '0' := by decide
      rw [if_pos hsmall, List.head?_cons, Ne, Option.some.injEq]
      exact hdigit n hsmall hn
    · rw [if_neg hsmall, List.head?_append_of_ne_nil _ Nat.toDigits_ne_nil]
      exact ih (n / 10) (by omega) (by omega)

theorem readNatural_toDigits (n : Nat) (hrest : EndsNumber rest) :
    readNatural (Nat.toDigits 10 n ++ rest) = some (n, rest) := by
  have hall : ∀ c ∈ Nat.toDigits 10 n, c.isDigit = true :=
    fun c hc => Nat.isDigit_of_mem_toDigits (by decide) (by decide) hc
  have hstop : rest.takeWhile Char.isDigit = [] ∧ rest.dropWhile Char.isDigit = rest := by
    rcases rest with _ | ⟨c, rest⟩
    · exact ⟨rfl, rfl⟩
    · have hc : c.isDigit = false := hrest c rfl
      simp [hc]
  have hdigits : ¬(Nat.toDigits 10 n = [] ∨
      ((Nat.toDigits 10 n).head? = some '0' ∧ Nat.toDigits 10 n ≠ ['0'])) := by
    rintro (hnil | ⟨hzero, hmore⟩)
    · exact Nat.toDigits_ne_nil hnil
    · by_cases hn : n = 0
      · rw [hn] at hmore
        exact hmore rfl
      · exact head?_toDigits_ne hn hzero
  rw [readNatural, List.takeWhile_append_of_pos hall, List.dropWhile_append_of_pos hall, hstop.1,
    hstop.2, List.append_nil]
  rw [if_neg hdigits, Nat.ofDigitChars_ten_toDigits]

theorem exists_cons_toDigits (n : Nat) :
    ∃ c cs, Nat.toDigits 10 n = c :: cs ∧ c.isDigit = true := by
  obtain ⟨c, cs, hdigits⟩ := List.exists_cons_of_ne_nil (@Nat.toDigits_ne_nil n 10)
  refine ⟨c, cs, hdigits, ?_⟩
  apply @Nat.isDigit_of_mem_toDigits 10 n c (by decide) (by decide)
  rw [hdigits]
  exact List.mem_cons_self

/-- A number begins with a sign or a digit. -/
theorem exists_cons_signedDecimal (value : Int) :
    ∃ c cs, (signedDecimal value).toList = c :: cs ∧ (c = '-' ∨ c.isDigit = true) := by
  rw [signedDecimal]
  by_cases hvalue : value < 0
  · rw [if_pos hvalue, String.toList_append]
    exact ⟨'-', _, rfl, .inl rfl⟩
  · rw [if_neg hvalue, decimal, String.toList_ofList]
    obtain ⟨c, cs, hdigits, hc⟩ := exists_cons_toDigits value.natAbs
    exact ⟨c, cs, hdigits, .inr hc⟩

theorem readInteger_signedDecimal (value : Int) (hrest : EndsNumber rest) :
    readInteger ((signedDecimal value).toList ++ rest) = some (value, rest) := by
  rw [signedDecimal]
  by_cases hvalue : value < 0
  · have hminus : (value.natAbs : Int) = -value := by omega
    have hsign : ("-" ++ decimal value.natAbs).toList ++ rest =
        '-' :: (Nat.toDigits 10 value.natAbs ++ rest) := by
      simp [decimal]
    rw [if_pos hvalue, hsign, readInteger, readNatural_toDigits _ hrest, Option.map_some, hminus,
      Int.neg_neg]
  · have hplain : (value.natAbs : Int) = value := by omega
    rw [if_neg hvalue, decimal, String.toList_ofList, readInteger, readNatural_toDigits _ hrest,
      Option.map_some, hplain]
    -- Digits have no sign in front.
    intro behind hsign
    obtain ⟨c, cs, hdigits, hc⟩ := exists_cons_toDigits value.natAbs
    rw [hdigits, List.cons_append, List.cons.injEq] at hsign
    rw [hsign.1] at hc
    cases hc

/-! ## Sequences -/

section

variable {α : Type} {readItem : List Char → Option (α × List Char)} {close : Char}
  {gap : List Char} {write : α → List Char}

/-- Items that are read whatever ends them are read one after the other. -/
theorem readItems_written (hclose : close ≠ ',') (hbehind : skipSpace behind = close :: rest)
    (hends : EndsNumber behind) {first : α} {items : List α}
    (hitems : ∀ item ∈ first :: items, ∀ rest, EndsNumber rest →
      readItem (gap ++ write item ++ rest) = some (item, rest))
    {most : Nat} (hmost : items.length < most) :
    readItems readItem close most
        (gap ++ write first ++ (items.flatMap (fun item => ',' :: (gap ++ write item)) ++ behind)) =
      some (first :: items, rest) := by
  induction items generalizing first most with
  | nil =>
    obtain ⟨most, rfl⟩ := Nat.exists_eq_succ_of_ne_zero (Nat.ne_of_gt hmost)
    have hread := hitems first List.mem_cons_self behind hends
    simp only [List.flatMap_nil, List.nil_append, readItems, hread, hbehind, Option.bind_eq_bind,
      Option.bind_some, if_pos, Option.pure_def]
  -- Behind the first item stands a comma, and behind this the sequence without that item.
  | cons second items ih =>
    rw [List.length_cons] at hmost
    obtain ⟨most, rfl⟩ := Nat.exists_eq_succ_of_ne_zero (Nat.ne_of_gt (Nat.zero_lt_of_lt hmost))
    rw [List.forall_mem_cons] at hitems
    obtain ⟨hfirst, hothers⟩ := hitems
    have hread := hfirst (',' :: (gap ++ write second ++
      (items.flatMap (fun item => ',' :: (gap ++ write item)) ++ behind))) (by
        rintro c ⟨⟩
        rfl)
    have hrest := ih hothers (Nat.lt_of_succ_lt_succ hmost)
    simp only [List.flatMap_cons, List.cons_append, List.append_assoc] at hread hrest ⊢
    have hcomma (cs : List Char) : skipSpace (',' :: cs) = ',' :: cs := skipSpace_cons rfl
    simp only [readItems, hread, Option.bind_eq_bind, Option.bind_some, hcomma, if_neg hclose.symm,
      if_pos, hrest, Option.pure_def]

/-- There are no more items than characters of them with their commas. -/
theorem length_le_length_flatMap_cons (items : List α) (write : α → List Char) :
    items.length ≤ (items.flatMap fun item => ',' :: write item).length := by
  induction items with
  | nil => exact Nat.le_refl 0
  | cons item items ih =>
    simp only [List.flatMap_cons, List.length_append, List.length_cons]
    omega

/-- Between the brackets each item stands on a line of its own. -/
theorem readSequence_written {first : α} {items : List α}
    (hspaceless : isSpace close = false) (hclose : close ≠ ',')
    (hfirst : ∃ c cs, write first = c :: cs ∧ isSpace c = false ∧ c ≠ close)
    (hitems : ∀ item ∈ first :: items, ∀ rest, EndsNumber rest →
      readItem (newLine (level + 1) ++ write item ++ rest) = some (item, rest)) :
    readSequence readItem close
        (newLine (level + 1) ++ write first ++
          (items.flatMap (fun item => ',' :: (newLine (level + 1) ++ write item)) ++
            (newLine level ++ close :: rest))) =
      some (first :: items, rest) := by
  obtain ⟨c, cs, hcs, hspace, hc⟩ := hfirst
  have hbehind : skipSpace (newLine level ++ close :: rest) = close :: rest := by
    rw [skipSpace_newLine, skipSpace_cons hspaceless]
  have hends : EndsNumber (newLine level ++ close :: rest) := by
    rintro _ ⟨⟩
    rfl
  have hcount := length_le_length_flatMap_cons items fun item => newLine (level + 1) ++ write item
  -- The first item does not look like the closing bracket, so the sequence is not empty.
  have hopen : (skipSpace (newLine (level + 1) ++ write first ++
      (items.flatMap (fun item => ',' :: (newLine (level + 1) ++ write item)) ++
        (newLine level ++ close :: rest)))).head? ≠ some close := by
    rw [List.append_assoc, skipSpace_newLine, hcs, List.cons_append, skipSpace_cons hspace,
      List.head?_cons, Ne, Option.some.injEq]
    exact hc
  rw [readSequence, if_neg hopen]
  apply readItems_written hclose hbehind hends hitems
  simp only [List.length_append, List.length_cons]
  omega

end

/-! ## Values -/

theorem layoutItems_eq (level : Nat) (items : List Json) :
    layoutItems level items =
      items.flatMap fun item => ',' :: (newLine level ++ layout level item) := by
  induction items with
  | nil => rfl
  | cons item items ih =>
    simp only [layoutItems, ih, List.flatMap_cons, List.cons_append, List.append_assoc]

/-- The layout of a member. -/
def layoutMember (level : Nat) (member : String × Json) : List Char :=
  quote member.1 ++ ':' :: ' ' :: layout level member.2

theorem layoutMembers_eq (level : Nat) (members : List (String × Json)) :
    layoutMembers level members =
      members.flatMap fun member => ',' :: (newLine level ++ layoutMember level member) := by
  induction members with
  | nil => rfl
  | cons member members ih =>
    obtain ⟨name, value⟩ := member
    simp only [layoutMembers, ih, layoutMember, List.flatMap_cons, List.cons_append,
      List.append_assoc]

theorem length_le_length_flatMap {α : Type} {items : List α} {item : α} (h : item ∈ items)
    (write : α → List Char) : (write item).length ≤ (items.flatMap write).length :=
  (List.infix_of_mem_flatten (List.mem_map_of_mem h)).length_le

/-- The items of an array have shorter layouts than the array. -/
theorem length_layout_item {items : List Json} {item : Json} (h : item ∈ items) (level : Nat) :
    (layout (level + 1) item).length < (layout level (array items)).length := by
  rcases items with _ | ⟨first, items⟩
  · exact absurd h List.not_mem_nil
  simp only [layout, layoutItems_eq, List.length_cons, List.length_append]
  rcases List.mem_cons.1 h with rfl | h
  · omega
  · have hle := length_le_length_flatMap h fun item =>
      ',' :: (newLine (level + 1) ++ layout (level + 1) item)
    simp only [List.length_cons, List.length_append] at hle
    omega

/-- So have the values in an object. -/
theorem length_layout_member {members : List (String × Json)} {member : String × Json}
    (h : member ∈ members) (level : Nat) :
    (layout (level + 1) member.2).length < (layout level (object members)).length := by
  rcases members with _ | ⟨⟨name, value⟩, members⟩
  · exact absurd h List.not_mem_nil
  simp only [layout, layoutMembers_eq, layoutMember, List.length_cons, List.length_append]
  rcases List.mem_cons.1 h with rfl | h
  · dsimp only
    omega
  · have hle := length_le_length_flatMap h fun member =>
      ',' :: (newLine (level + 1) ++ layoutMember (level + 1) member)
    simp only [layoutMember, List.length_cons, List.length_append] at hle
    omega

theorem isSpace_eq_false (h : c = '-' ∨ c.isDigit = true) : isSpace c = false := by
  rw [Bool.eq_false_iff, isSpace]
  simp only [Bool.or_eq_true, decide_eq_true_eq, ne_eq]
  rintro (((rfl | rfl) | rfl) | rfl)
  all_goals simp at h

/-- A value begins with neither white space nor a closing bracket. -/
theorem exists_cons_layout (level : Nat) (value : Json) :
    ∃ c cs, layout level value = c :: cs ∧ isSpace c = false ∧ c ≠ ']' := by
  rcases value with (_ | _) | number | text | (_ | ⟨item, items⟩) | (_ | ⟨⟨name, member⟩, members⟩)
  case integer =>
    obtain ⟨c, cs, hnumber, hc⟩ := exists_cons_signedDecimal number
    exact ⟨c, cs, hnumber, isSpace_eq_false hc, by rintro rfl; simp at hc⟩
  all_goals exact ⟨_, _, rfl, rfl, by decide⟩

/-- White space in front of a value makes no difference. -/
theorem readValue_congr {depth : Nat} {other : List Char} (h : skipSpace cs = skipSpace other) :
    readValue depth cs = readValue depth other := by
  rcases depth with _ | depth
  · rfl
  · rw [readValue, readValue, h]

theorem readMember_layoutMember {depth : Nat} {member : String × Json}
    (hvalue : readValue depth (layout level member.2 ++ rest) = some (member.2, rest)) :
    readMember (readValue depth) (newLine level ++ layoutMember level member ++ rest) =
      some (member, rest) := by
  have hname : skipSpace (quote member.1 ++ (':' :: ' ' :: (layout level member.2 ++ rest))) =
      quote member.1 ++ (':' :: ' ' :: (layout level member.2 ++ rest)) :=
    skipSpace_cons rfl
  have hcolon : skipSpace (':' :: ' ' :: (layout level member.2 ++ rest)) =
      ':' :: ' ' :: (layout level member.2 ++ rest) :=
    skipSpace_cons rfl
  have hblank : readValue depth (' ' :: (layout level member.2 ++ rest)) =
      some (member.2, rest) := by
    rw [← hvalue]
    exact readValue_congr rfl
  simp only [readMember, layoutMember, List.append_assoc, List.cons_append, skipSpace_newLine,
    hname, readText_quote, hcolon, hblank, Option.bind_eq_bind, Option.bind_some, Option.pure_def]

theorem readValue_integer (depth : Nat) (number : Int) (hrest : EndsNumber rest) :
    readValue (depth + 1) (layout level (integer number) ++ rest) =
      some (integer number, rest) := by
  obtain ⟨c, cs, hnumber, hc⟩ := exists_cons_signedDecimal number
  have hread := readInteger_signedDecimal number hrest
  rw [hnumber, List.cons_append] at hread
  rw [layout, hnumber, List.cons_append, readValue, skipSpace_cons (isSpace_eq_false hc)]
  split
  case h_6 => rw [hread, Option.map_some]
  -- Nothing else begins with a sign or a digit.
  all_goals
    rename_i hcs
    rw [(List.cons.inj hcs).1] at hc
    simp at hc

theorem readValue_string (depth : Nat) (text : String) (rest : List Char) :
    readValue (depth + 1) (layout level (string text) ++ rest) = some (string text, rest) := by
  have hspace : skipSpace (quote text ++ rest) = quote text ++ rest := skipSpace_cons rfl
  have hread := readText_quote text rest
  rw [layout, readValue, hspace]
  exact congrArg (Option.map fun read => (string read.1, read.2)) hread

/-- An array is read if its items are. -/
theorem readValue_array {depth : Nat} {item : Json} {items : List Json}
    (h : ∀ other ∈ item :: items, ∀ rest, EndsNumber rest →
      readValue depth (layout (level + 1) other ++ rest) = some (other, rest)) :
    readValue (depth + 1) (layout level (array (item :: items)) ++ rest) =
      some (array (item :: items), rest) := by
  have hitems : ∀ other ∈ item :: items, ∀ rest, EndsNumber rest →
      readValue depth (newLine (level + 1) ++ layout (level + 1) other ++ rest) =
        some (other, rest) := by
    intro other hother rest hrest
    rw [List.append_assoc, ← h other hother rest hrest]
    exact readValue_congr (skipSpace_newLine _ _)
  have hlayout : layout level (array (item :: items)) ++ rest =
      '[' :: (newLine (level + 1) ++ layout (level + 1) item ++
        (items.flatMap (fun item => ',' :: (newLine (level + 1) ++ layout (level + 1) item)) ++
          (newLine level ++ ']' :: rest))) := by
    simp only [layout, layoutItems_eq, List.cons_append, List.append_assoc, List.nil_append]
  rw [hlayout, readValue, skipSpace_cons rfl]
  exact congrArg (Option.map fun read => (array read.1, read.2))
    (readSequence_written rfl (by decide) (exists_cons_layout (level + 1) item) hitems)

/-- An object is read if the values in it are. -/
theorem readValue_object {depth : Nat} {member : String × Json} {members : List (String × Json)}
    (h : ∀ other ∈ member :: members, ∀ rest, EndsNumber rest →
      readValue depth (layout (level + 1) other.2 ++ rest) = some (other.2, rest)) :
    readValue (depth + 1) (layout level (object (member :: members)) ++ rest) =
      some (object (member :: members), rest) := by
  have hmembers : ∀ other ∈ member :: members, ∀ rest, EndsNumber rest →
      readMember (readValue depth) (newLine (level + 1) ++ layoutMember (level + 1) other ++
        rest) = some (other, rest) :=
    fun other hother rest hrest => readMember_layoutMember (h other hother rest hrest)
  have hfirst : ∃ c cs, layoutMember (level + 1) member = c :: cs ∧
      isSpace c = false ∧ c ≠ '\x7d' := ⟨_, _, rfl, rfl, by decide⟩
  have hlayout : layout level (object (member :: members)) ++ rest =
      '\x7b' :: (newLine (level + 1) ++ layoutMember (level + 1) member ++
        (members.flatMap (fun member =>
            ',' :: (newLine (level + 1) ++ layoutMember (level + 1) member)) ++
          (newLine level ++ '\x7d' :: rest))) := by
    simp only [layout, layoutMembers_eq, layoutMember, List.cons_append, List.append_assoc,
      List.nil_append]
  rw [hlayout, readValue, skipSpace_cons rfl]
  exact congrArg (Option.map fun read => (object read.1, read.2))
    (readSequence_written rfl (by decide) hfirst hmembers)

/-- A value is read up to its end. The values in it have shorter layouts, so the depth that is left
for them is enough. -/
theorem readValue_layout {depth : Nat} {value : Json}
    (hdepth : (layout level value).length ≤ depth) (hrest : EndsNumber rest) :
    readValue depth (layout level value ++ rest) = some (value, rest) := by
  induction depth generalizing level value rest with
  | zero =>
    obtain ⟨c, cs, hlayout, -⟩ := exists_cons_layout level value
    rw [hlayout] at hdepth
    cases hdepth
  | succ depth ih =>
    have hbelow {level : Nat} {inner : Json}
        (hshorter : (layout level inner).length < (layout _ value).length) :
        ∀ rest, EndsNumber rest → readValue depth (layout level inner ++ rest) =
          some (inner, rest) :=
      fun rest hrest => ih (Nat.le_of_lt_succ (Nat.lt_of_lt_of_le hshorter hdepth)) hrest
    rcases value with
      (_ | _) | number | text | (_ | ⟨item, items⟩) | (_ | ⟨member, members⟩)
    case integer => exact readValue_integer depth number hrest
    case string => exact readValue_string depth text rest
    case array.cons =>
      exact readValue_array fun _ hother => hbelow (length_layout_item hother level)
    case object.cons =>
      exact readValue_object fun _ hother => hbelow (length_layout_member hother level)
    all_goals rfl

/-- **What is written is read back**, also with white space behind it. -/
theorem read?_pretty (value : Json) {tail : String} (htail : ∀ c ∈ tail.toList, isSpace c = true) :
    read? (value.pretty ++ tail) = some value := by
  have hends : EndsNumber tail.toList := by
    intro c hc
    by_contra hdigit
    rw [Bool.not_eq_false] at hdigit
    have hspace := htail c (List.mem_of_mem_head? hc)
    rw [isSpace_eq_false (.inr hdigit)] at hspace
    cases hspace
  have htext : (value.pretty ++ tail).toList = layout 0 value ++ tail.toList := by
    rw [String.toList_append, pretty, String.toList_ofList]
  have hdepth : (layout 0 value).length ≤ (value.pretty ++ tail).length + 1 := by
    rw [← String.length_toList, htext, List.length_append]
    omega
  have hrest : skipSpace tail.toList = [] := List.dropWhile_eq_nil_iff.2 htail
  rw [read?, htext, readValue_layout hdepth hends]
  exact if_pos hrest

-- Another layout, and other ways to escape characters.
example : (read? " \x7b\"a\\u0062\" :[ -20,\"\\ud83d\\uDE00\\/\" ]\x7d\r\n").map pretty =
    some "\x7b\n  \"ab\": [\n    -20,\n    \"😀/\"\n  ]\n\x7d" := by
  decide +kernel

end GpuDiscovery.Json

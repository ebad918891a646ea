import PageEdit.Html.NamedReferences

/-!
# Character references

What stands between `&` and the end of a character reference, and the characters it stands for. A name
goes on as long as some known name begins with it, and the longest known name at its start counts.

* `Reference.exists_mem_rows_of_longest?`: the name that is found is a known one.
-/

namespace PageEdit.Html.Reference

/-! ## Names -/

/-- Whether some known name begins with `seen`. -/
def begins (seen : List Char) : Bool :=
  match seen with
  | [] => true
  | c :: _ => (NamedReferences.rows c).any fun row => seen.isPrefixOf row.1.toList

/-- The characters of a row's code points. -/
def rowChars (row : NamedReferences.Row) : List Char :=
  if row.2.2 == 0 then [Char.ofNat row.2.1] else [Char.ofNat row.2.1, Char.ofNat row.2.2]

/-- Of two rows the one with the longer name. -/
def longer (best : Option NamedReferences.Row) (row : NamedReferences.Row) :
    Option NamedReferences.Row :=
  match best with
  | none => some row
  | some b => if b.1.length < row.1.length then some row else best

/-- The row of the longest known name at the start of `seen`. -/
def longest? (seen : List Char) : Option NamedReferences.Row :=
  match seen with
  | [] => none
  | c :: _ => ((NamedReferences.rows c).filter fun row => row.1.toList.isPrefixOf seen).foldl longer none

theorem foldl_longer_mem (rows : List NamedReferences.Row) (best : Option NamedReferences.Row)
    (row : NamedReferences.Row) (h : rows.foldl longer best = some row) :
    row ∈ rows ∨ best = some row := by
  induction rows generalizing best with
  | nil => exact .inr h
  | cons r rest ih =>
    rcases ih (longer best r) h with hm | hb
    · exact .inl (List.mem_cons_of_mem _ hm)
    · cases best with
      | none => simp only [longer, Option.some.injEq] at hb; simp [hb]
      | some b =>
        simp only [longer] at hb
        split at hb
        · simp only [Option.some.injEq] at hb; simp [hb]
        · exact .inr hb

theorem exists_mem_rows_of_longest? {seen : List Char} {row : NamedReferences.Row} (h : longest? seen = some row) :
    ∃ c, row ∈ NamedReferences.rows c := by
  cases seen with
  | nil => cases h
  | cons c rest =>
    rcases foldl_longer_mem _ _ _ h with hm | hn
    · exact ⟨c, (List.mem_filter.mp hm).1⟩
    · cases hn

/-- Whether a name without a semicolon may not count in an attribute, given what follows it. -/
def bindsOn : List Char → Bool
  | c :: _ => c == '=' || c.isAlphanum
  | [] => false

/-- What the text `seen` after `&` comes to, `seen` being too long for any name: the characters that
stand for it and the part that the name leaves. Without a name all is text. -/
def named (inAttribute : Bool) (seen : List Char) : List Char × List Char :=
  match longest? seen with
  | none => (['&'], seen)
  | some row =>
    let rest := seen.drop row.1.length
    if inAttribute && !row.1.endsWith ";" && bindsOn rest then (['&'], seen)
    else (rowChars row, rest)

/-! ## Numbers -/

/-- The code points for the numbers `0x80` to `0x9F`, which are read as Windows-1252. -/
def latinControls : List Nat :=
  [0x20AC, 0x81, 0x201A, 0x0192, 0x201E, 0x2026, 0x2020, 0x2021, 0x02C6, 0x2030, 0x0160, 0x2039,
   0x0152, 0x8D, 0x017D, 0x8F, 0x90, 0x2018, 0x2019, 0x201C, 0x201D, 0x2022, 0x2013, 0x2014, 0x02DC,
   0x2122, 0x0161, 0x203A, 0x0153, 0x9D, 0x017E, 0x0178]

/-- The character that a number stands for: U+FFFD if there is none. -/
def numbered (n : Nat) : Char :=
  if n == 0 || n > 0x10FFFF || (0xD800 ≤ n && n ≤ 0xDFFF) then '\uFFFD'
  else if 0x80 ≤ n && n ≤ 0x9F then Char.ofNat (latinControls.getD (n - 0x80) n)
  else Char.ofNat n

/-- The value of a digit in base ten or sixteen. -/
def digit? (base : Nat) (c : Char) : Option Nat :=
  if c.isDigit then some (c.toNat - 0x30)
  else if base == 16 && 'a' ≤ c && c ≤ 'f' then some (c.toNat - 0x61 + 10)
  else if base == 16 && 'A' ≤ c && c ≤ 'F' then some (c.toNat - 0x41 + 10)
  else none

end PageEdit.Html.Reference

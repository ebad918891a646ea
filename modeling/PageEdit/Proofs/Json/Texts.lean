import PageEdit.Json.Printer
import PageEdit.Json.Reader

/-!
# Reading texts that were written

A text is written between quotes, with an escape for each character that cannot stand there. Reading takes the
escapes back one by one, so it gives the text and what stood behind it.

* `readText_escaped`: a written text is read back.
* `parseObject_render_single`: so is an object with one text in it.
-/

namespace PageEdit.Json

/-! ## Characters -/

theorem hexDigit?_digitChar : ∀ n < 16, hexDigit? (Nat.digitChar n) = some n := by decide

/-- The four digits of a character below `0x20`. -/
theorem hex4?_control {n : Nat} (h : n < 0x20) :
    hex4? '0' '0' (Nat.digitChar (n / 16)) (Nat.digitChar (n % 16)) = some n := by
  have hhigh := hexDigit?_digitChar (n / 16) (by omega)
  have hlow := hexDigit?_digitChar (n % 16) (by omega)
  have hzero : hexDigit? '0' = some 0 := by decide
  simp only [hex4?, hzero, hhigh, hlow, Option.bind_eq_bind, Option.bind_some, Option.pure_def,
    Option.some.injEq]
  omega

/-! ## Texts -/

section

variable (out rest : List Char)

theorem readText_plain {c : Char} (hquote : c ≠ '"') (hslash : c ≠ '\\') (hlow : ¬ c.toNat < 0x20) :
    readText out (c :: rest) = readText (c :: out) rest := by
  rw [readText.eq_def]
  simp [hquote, hslash, hlow]

theorem readText_simple {e plain : Char} (h : simpleEscape e = some plain) :
    readText out ('\\' :: e :: rest) = readText (plain :: out) rest := by
  rw [readText.eq_def]
  simp [h]

theorem readText_control {n : Nat} (h : n < 0x20) :
    readText out ('\\' :: 'u' :: '0' :: '0' :: Nat.digitChar (n / 16) :: Nat.digitChar (n % 16) :: rest) =
      readText (Char.ofNat n :: out) rest := by
  have hu : simpleEscape 'u' = none := by decide
  have hrange : ¬ (0xDC00 ≤ n ∧ n ≤ 0xDFFF) := by omega
  have hlow : n < 0xD800 := by omega
  rw [readText.eq_def]
  simp [hu, hex4?_control h, hrange, hlow]

/-- How a character is written: with an escape of one letter, by its number, or as it is. -/
theorem escapeChar_cases (c : Char) :
    (∃ e, escapeChar c = ['\\', e] ∧ simpleEscape e = some c) ∨
    (c.toNat < 0x20 ∧ escapeChar c =
      ['\\', 'u', '0', '0', Nat.digitChar (c.toNat / 16), Nat.digitChar (c.toNat % 16)]) ∨
    (c ≠ '"' ∧ c ≠ '\\' ∧ ¬ c.toNat < 0x20 ∧ escapeChar c = [c]) := by
  unfold escapeChar
  iterate 7
    split
    · rename_i h
      obtain rfl := eq_of_beq h
      exact .inl ⟨_, rfl, rfl⟩
  rename_i hquote hslash _ _ _ _ _
  split
  · rename_i hlow
    exact .inr (.inl ⟨hlow, rfl⟩)
  · rename_i hlow
    exact .inr (.inr ⟨by simpa using hquote, by simpa using hslash, hlow, rfl⟩)

theorem readText_escapeChar (c : Char) :
    readText out (escapeChar c ++ rest) = readText (c :: out) rest := by
  obtain ⟨e, hc, he⟩ | ⟨hlow, hc⟩ | ⟨hquote, hslash, hlow, hc⟩ := escapeChar_cases c
  · rw [hc]
    exact readText_simple out rest he
  · rw [hc]
    exact (readText_control out rest hlow).trans (by rw [Char.ofNat_toNat])
  · rw [hc]
    exact readText_plain out rest hquote hslash hlow

theorem readText_escaped (s : List Char) :
    readText out (s.flatMap escapeChar ++ '"' :: rest) =
      .ok (String.ofList (out.reverse ++ s), rest) := by
  induction s generalizing out with
  | nil => rw [List.flatMap_nil, List.nil_append, readText_close, List.append_nil]
  | cons c s ih =>
    rw [List.flatMap_cons, List.append_assoc, readText_escapeChar, ih, List.reverse_cons,
      List.append_assoc, List.singleton_append]

end

theorem toList_renderText (s : String) :
    (renderText s).toList = '"' :: s.toList.flatMap escapeChar ++ ['"'] := by
  simp [renderText]

/-! ## Objects -/

/-- What is written of an object with one text in it. -/
theorem toList_render_single (key text : String) :
    (Value.object [(key, .text text)]).render.toList =
      '\x7b' :: '"' :: (key.toList.flatMap escapeChar ++ '"' :: ':' :: '"' ::
        (text.toList.flatMap escapeChar ++ ['"', '\x7d'])) := by
  simp [Value.render, renderMembers, joinWith, toList_renderText]

theorem readScalar_text (text : String) (rest : List Char) :
    readScalar '"' (text.toList.flatMap escapeChar ++ '"' :: rest) = .ok (.text text, rest) := by
  have hdigit : Char.isDigit '"' = false := by decide
  simp [readScalar, hdigit, readText_escaped, Except.map]

/-- A member is read, and then the object ends. -/
theorem readMembers_single (fuel depth : Nat) (key text : String) :
    readMembers (fuel + 3) depth true []
        ('"' :: (key.toList.flatMap escapeChar ++ '"' :: ':' :: '"' ::
          (text.toList.flatMap escapeChar ++ ['"', '\x7d']))) =
      .ok ([(key, .text text)], ['\x7d']) := by
  have hquote : isBlank '"' = false := by decide
  have hcolon : isBlank ':' = false := by decide
  have hend : isBlank '\x7d' = false := by decide
  simp [readMembers, nextKey, readColon, readValue, skipBlanks_cons_of_not, hquote, hcolon, hend,
    readText_escaped, readScalar_text, put, bind, Except.bind, pure, Except.pure]

/-- An object with one text in it is read back. -/
theorem parseObject_render_single (key text : String) :
    parseObject (Value.object [(key, .text text)]).render = .ok [(key, .text text)] := by
  have hopen : isBlank '\x7b' = false := by decide
  have hend : isBlank '\x7d' = false := by decide
  have hvalue : ∀ fuel, readValue (fuel + 4) nestingLimit
      (Value.object [(key, .text text)]).render.toList = .ok (.object [(key, .text text)], []) := by
    intro fuel
    rw [toList_render_single]
    simp [readValue, skipBlanks_cons_of_not, hopen, hend, nestingLimit, readMembers_single, endObject,
      bind, Except.bind, pure, Except.pure]
  rw [parseObject, parse, parseChars, enough, hvalue]
  rfl

end PageEdit.Json

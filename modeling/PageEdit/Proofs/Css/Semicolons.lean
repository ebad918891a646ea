import PageEdit.Proofs.Css.Lengths

/-!
# Semicolons that the lexer comes to

The lexer looks at a few characters behind those of a token, to see that the token ends, and a semicolon is none
that it waits for. So if it comes to the semicolon behind a text, it comes there whatever follows the semicolon,
and it cuts the text in the same way if nothing follows at all.

* `Halts`: a reader leaves the semicolon behind a text, and does the same at any other end of the text.
* `halts_next`: the lexer does so, whatever character a token begins with.
-/

namespace PageEdit.Css

open Lexer

variable {c : Char} {a s k : List Char}

/-! ## Semicolons behind a text -/

/-- Whether a text has ended: nothing follows, or a semicolon does. -/
def Ends (k : List Char) : Prop := k = [] ∨ ∃ rest, k = ';' :: rest

/-- Whether a reader that does not take all of a text and of a semicolon behind it leaves the semicolon, and does
the same at any other end of the text. -/
def Halts {α : Type} (f : List Char → α × List Char) (a : List Char) : Prop :=
  (f (a ++ [';'])).2 ≠ [] → ∃ out b, ∀ k, Ends k → f (a ++ k) = (out, b ++ k)

theorem ends_semicolon (rest : List Char) : Ends (';' :: rest) := .inr ⟨rest, rfl⟩

section

variable {α β : Type} {f : List Char → α × List Char} {g : List Char → β × List Char} {b : List Char}

theorem Halts.of_left (out : α) (b : List Char) (h : ∀ k, Ends k → f (a ++ k) = (out, b ++ k)) : Halts f a :=
  fun _ => ⟨out, b, h⟩

theorem Halts.of_nil (h : (f (a ++ [';'])).2 = []) : Halts f a := fun hne => absurd h hne

/-- A reader halts where another one does that it hands the rest of the text to. -/
theorem Halts.of_eq (h : Halts g b) (made : β → α)
    (heq : ∀ k, Ends k → f (a ++ k) = (made (g (b ++ k)).1, (g (b ++ k)).2)) : Halts f a := by
  intro hne
  rw [heq _ (ends_semicolon [])] at hne
  obtain ⟨out, left, hleft⟩ := h hne
  refine ⟨made out, left, fun k hk => ?_⟩
  rw [heq k hk, hleft k hk]

end

theorem startsNewline_append (hk : Ends k) (a : List Char) : startsNewline (a ++ k) = startsNewline a := by
  rcases hk with rfl | ⟨rest, rfl⟩
  · rw [List.append_nil]
  · cases a <;> rfl

theorem startsDigit_append (hk : Ends k) (a : List Char) : startsDigit (a ++ k) = startsDigit a := by
  rcases hk with rfl | ⟨rest, rfl⟩
  · rw [List.append_nil]
  · cases a <;> rfl

theorem startsIdent_append (hk : Ends k) (a : List Char) : startsIdent (a ++ k) = startsIdent a := by
  rcases hk with rfl | ⟨rest, rfl⟩
  · rw [List.append_nil]
  · match a with
    | [] => rfl
    | [c] =>
      by_cases hdash : c = '-'
      · subst hdash; rfl
      by_cases hslash : c = '\\'
      · subst hslash; rfl
      simp [startsIdent, hdash]
    | c :: d :: a =>
      by_cases hdash : c = '-'
      · subst hdash; rfl
      by_cases hslash : c = '\\'
      · subst hslash; rfl
      simp [startsIdent, hdash]

theorem startsNumber_append (hk : Ends k) (a : List Char) : startsNumber (a ++ k) = startsNumber a := by
  -- a sign may have a point behind it
  have hsigned : ∀ c, c = '+' ∨ c = '-' → ∀ s, startsNumber (c :: (s ++ k)) = startsNumber (c :: s) := by
    intro c hc s
    cases s with
    | nil => rcases hk with rfl | ⟨rest, rfl⟩ <;> rcases hc with rfl | rfl <;> rfl
    | cons d s =>
      by_cases hdot : d = '.'
      · subst hdot
        rcases hc with rfl | rfl <;> exact startsDigit_append hk s
      · rcases hc with rfl | rfl <;> simp [startsNumber, hdot, startsDigit]
  cases a with
  | nil => rcases hk with rfl | ⟨rest, rfl⟩ <;> rfl
  | cons c a =>
    by_cases hplus : c = '+'
    · exact hsigned c (.inl hplus) a
    by_cases hminus : c = '-'
    · exact hsigned c (.inr hminus) a
    by_cases hdot : c = '.'
    · subst hdot
      exact startsDigit_append hk a
    · simp [startsNumber, hplus, hminus, hdot, startsDigit]

/-! ## Readers -/

theorem feed_hex_semicolon (count value : Nat) :
    (Escape.hex count value).feed ';' = ([codePoint value], none) := by
  have hdigit : hexDigit? ';' = none := by decide
  simp [Escape.feed, hdigit, isBlank, isNewline]

theorem halts_readName (e : Escape) (a : List Char) : Halts (readName e) a := by
  induction a generalizing e with
  | nil =>
    have hstop : ∀ rest, readName .none (';' :: rest) = ([], ';' :: rest) := fun rest =>
      readName_stop rest (by decide) (by decide) (by decide)
    cases e with
    | none =>
      refine .of_left [] [] ?_
      rintro k (rfl | ⟨rest, rfl⟩)
      · rfl
      · exact hstop rest
    | begun => exact .of_nil rfl
    | hex count value =>
      refine .of_left [codePoint value] [] ?_
      rintro k (rfl | ⟨rest, rfl⟩)
      · rfl
      · rw [List.nil_append, readName, feed_hex_semicolon]
        rfl
    | ended =>
      refine .of_left [] [] ?_
      rintro k (rfl | ⟨rest, rfl⟩) <;> rfl
  | cons c a ih =>
    rcases hfeed : e.feed c with ⟨out, _ | e'⟩
    · by_cases hslash : (c == '\\' && !startsNewline a) = true
      · refine (ih .begun).of_eq (out ++ ·) fun k hk => ?_
        rw [List.cons_append, readName, hfeed]
        simp only [startsNewline_append hk, hslash, if_true]
      by_cases hname : (continuesName c || c == '\x00') = true
      · refine (ih .none).of_eq (fun n => out ++ (if c == '\x00' then '\uFFFD' else c) :: n) fun k hk => ?_
        rw [List.cons_append, readName, hfeed]
        simp only [startsNewline_append hk, if_neg hslash, if_pos hname]
      · refine .of_left out (c :: a) fun k hk => ?_
        rw [List.cons_append, readName, hfeed]
        simp only [startsNewline_append hk, if_neg hslash, if_neg hname]
    · refine (ih e').of_eq (out ++ ·) fun k _ => ?_
      rw [List.cons_append, readName, hfeed]

/-- A text between quotes, and whether it is sound, with what is left. -/
def quotedReading (quote : Char) (e : Escape) (s : List Char) : (List Char × Bool) × List Char :=
  (((readQuoted quote e s).1, (readQuoted quote e s).2.2), (readQuoted quote e s).2.1)

theorem halts_quotedReading {quote : Char} (hquote : quote ≠ ';') (e : Escape) (a : List Char) :
    Halts (quotedReading quote e) a := by
  induction a generalizing e with
  | nil =>
    refine .of_nil ?_
    have hdigit : hexDigit? ';' = none := by decide
    cases e with
    | hex count value => simp [quotedReading, readQuoted, feed_hex_semicolon, Ne.symm hquote, isNewline]
    | _ => simp [quotedReading, readQuoted, Escape.feed, hdigit, Ne.symm hquote, isNewline]
  | cons c a ih =>
    by_cases hline : (e == .begun && isNewline c) = true
    · refine (ih (if c == '\r' then .ended else .none)).of_eq id fun k _ => ?_
      rw [List.cons_append, quotedReading, readQuoted, if_pos hline]
      rfl
    rcases hfeed : e.feed c with ⟨out, _ | e'⟩
    · by_cases hend : (c == quote) = true
      · refine .of_left (out, true) a fun k _ => ?_
        rw [List.cons_append, quotedReading, readQuoted, if_neg hline, hfeed]
        simp only [if_pos hend]
      by_cases hnewline : isNewline c = true
      · refine .of_left (out, false) (c :: a) fun k _ => ?_
        rw [List.cons_append, quotedReading, readQuoted, if_neg hline, hfeed]
        simp only [if_neg hend, if_pos hnewline]
      by_cases hslash : (c == '\\') = true
      · refine (ih .begun).of_eq (fun p => (out ++ p.1, p.2)) fun k _ => ?_
        rw [List.cons_append, quotedReading, readQuoted, if_neg hline, hfeed]
        simp only [if_neg hend, if_neg hnewline, if_pos hslash]
        rfl
      · refine (ih .none).of_eq
          (fun p => (out ++ (if c == '\x00' then '\uFFFD' else c) :: p.1, p.2)) fun k _ => ?_
        rw [List.cons_append, quotedReading, readQuoted, if_neg hline, hfeed]
        simp only [if_neg hend, if_neg hnewline, if_neg hslash]
        rfl
    · refine (ih e').of_eq (fun p => (out ++ p.1, p.2)) fun k _ => ?_
      rw [List.cons_append, quotedReading, readQuoted, if_neg hline, hfeed]
      rfl

theorem halts_readBadUrl (escaped : Bool) (a : List Char) : Halts (readBadUrl escaped) a := by
  induction a generalizing escaped with
  | nil => exact .of_nil (by cases escaped <;> rfl)
  | cons c a ih =>
    by_cases hescaped : (escaped && (c == ')' || c == '\\')) = true
    · refine (ih false).of_eq (c :: ·) fun k _ => ?_
      rw [List.cons_append, readBadUrl, if_pos hescaped]
    by_cases hend : (c == ')') = true
    · refine .of_left [] a fun k _ => ?_
      rw [List.cons_append, readBadUrl, if_neg hescaped, if_pos hend]
    · refine (ih (c == '\\')).of_eq (c :: ·) fun k _ => ?_
      rw [List.cons_append, readBadUrl, if_neg hescaped, if_neg hend]

theorem halts_afterUrl (url a : List Char) : Halts (fun s => readingOf ((afterUrl s).map (url, ·))) a := by
  induction a with
  | nil => exact .of_nil rfl
  | cons c a ih =>
    by_cases hend : (c == ')') = true
    · refine .of_left (some url) a fun k _ => ?_
      rw [List.cons_append, afterUrl, if_pos hend]
      rfl
    by_cases hblank : isBlank c = true
    · refine ih.of_eq id fun k _ => ?_
      rw [List.cons_append, afterUrl, if_neg hend, if_pos hblank]
      rfl
    · refine .of_left none a fun k _ => ?_
      rw [List.cons_append, afterUrl, if_neg hend, if_neg hblank]
      rfl

theorem halts_readUrl (e : Escape) (a : List Char) : Halts (fun s => readingOf (readUrl e s)) a := by
  induction a generalizing e with
  | nil =>
    refine .of_nil ?_
    have hdigit : hexDigit? ';' = none := by decide
    cases e with
    | hex count value => simp [readUrl, feed_hex_semicolon, isBlank, isNewline, breaksUrl, readingOf, Except.map]
    | _ => simp [readUrl, Escape.feed, hdigit, isBlank, isNewline, breaksUrl, readingOf, Except.map]
  | cons c a ih =>
    rcases hfeed : e.feed c with ⟨out, _ | e'⟩
    · by_cases hend : (c == ')') = true
      · refine .of_left (some out) a fun k _ => ?_
        rw [List.cons_append, readUrl, hfeed]
        simp only [if_pos hend]
        rfl
      by_cases hblank : isBlank c = true
      · refine (halts_afterUrl out a).of_eq id fun k _ => ?_
        rw [List.cons_append, readUrl, hfeed]
        simp only [if_neg hend, if_pos hblank]
        rfl
      by_cases hbreaks : breaksUrl c = true
      · refine .of_left none a fun k _ => ?_
        rw [List.cons_append, readUrl, hfeed]
        simp only [if_neg hend, if_neg hblank, if_pos hbreaks]
        rfl
      by_cases hslash : (c == '\\') = true
      · by_cases hline : startsNewline a = true
        · refine .of_left none a fun k hk => ?_
          rw [List.cons_append, readUrl, hfeed]
          simp only [if_neg hend, if_neg hblank, if_neg hbreaks, if_pos hslash, startsNewline_append hk, if_pos hline]
          rfl
        · refine (ih .begun).of_eq (Option.map (out ++ ·)) fun k hk => ?_
          rw [List.cons_append, readUrl, hfeed, ← readingOf_map _ (out ++ ·)]
          simp only [if_neg hend, if_neg hblank, if_neg hbreaks, if_pos hslash, startsNewline_append hk, if_neg hline]
      · refine (ih .none).of_eq
          (Option.map (out ++ (if c == '\x00' then '\uFFFD' else c) :: ·)) fun k _ => ?_
        rw [List.cons_append, readUrl, hfeed, ← readingOf_map _ (out ++ (if c == '\x00' then '\uFFFD' else c) :: ·)]
        simp only [if_neg hend, if_neg hblank, if_neg hbreaks, if_neg hslash]
    · refine (ih e').of_eq (Option.map (out ++ ·)) fun k _ => ?_
      rw [List.cons_append, readUrl, hfeed, ← readingOf_map _ (out ++ ·)]

theorem halts_afterComment (a : List Char) : Halts (fun s => ((), afterComment s)) a := by
  induction a with
  | nil => exact .of_nil rfl
  | cons c a ih =>
    by_cases hend : c = '*' ∧ a.head? = some '/'
    · obtain ⟨rfl, hslash⟩ := hend
      obtain ⟨rest, rfl⟩ := List.head?_eq_some_iff.mp hslash
      exact .of_left () rest fun k _ => rfl
    · refine ih.of_eq id fun k hk => ?_
      have hopen : ∀ rest, c = '*' → a ++ k = '/' :: rest → False := by
        intro rest hstar heq
        have hhead : (a ++ k).head? = some '/' := by rw [heq, List.head?_cons]
        rw [List.head?_append] at hhead
        cases a with
        | nil => rcases hk with rfl | ⟨more, rfl⟩ <;> exact absurd hhead (by simp)
        | cons d a => exact hend ⟨hstar, hhead⟩
      rw [List.cons_append, afterComment]
      exact hopen

theorem dropWhile_append_ends {p : Char → Bool} (hp : p ';' = false) (hk : Ends k) (a : List Char) :
    (a ++ k).dropWhile p = a.dropWhile p ++ k := by
  have hend : k.dropWhile p = k := by
    rcases hk with rfl | ⟨rest, rfl⟩
    · rfl
    · rw [List.dropWhile_cons_of_neg (by rw [hp]; exact Bool.false_ne_true)]
  rw [List.dropWhile_append, hend]
  split
  · next h => rw [List.isEmpty_iff.mp h, List.nil_append]
  · rfl

theorem takeWhile_append_ends {p : Char → Bool} (hp : p ';' = false) (hk : Ends k) (a : List Char) :
    (a ++ k).takeWhile p = a.takeWhile p := by
  induction a with
  | nil =>
    rcases hk with rfl | ⟨rest, rfl⟩
    · rfl
    · exact List.takeWhile_cons_of_neg (by rw [hp]; exact Bool.false_ne_true)
  | cons c a ih => rw [List.cons_append, List.takeWhile_cons, List.takeWhile_cons, ih]

/-! ## Tokens -/

/-- Whether a string stands here, behind blanks. -/
def startsQuoted (s : List Char) : Prop :=
  (s.dropWhile isBlank).head? = some '"' ∨ (s.dropWhile isBlank).head? = some '\''

theorem urlToken_of_startsQuoted (h : startsQuoted s) (name : String) : urlToken name s = (.function name, s) := by
  unfold urlToken
  rcases h with h | h
  · obtain ⟨rest, hrest⟩ := List.head?_eq_some_iff.mp h
    dsimp only
    rw [hrest]
    rfl
  · obtain ⟨rest, hrest⟩ := List.head?_eq_some_iff.mp h
    dsimp only
    rw [hrest]
    rfl

/-- The token of an address, given what stands behind the bracket and what has been read of it. -/
def urlTokenOf (inner : List Char) : Option (List Char) × List Char → Token × List Char
  | (some url, left) => (.url (String.ofList url), left)
  | (none, left) =>
    (.badUrl (String.ofList (inner.take (inner.length - left.length) ++ (readBadUrl false left).1)),
      (readBadUrl false left).2)

theorem urlToken_of_not_startsQuoted (h : ¬ startsQuoted s) (name : String) :
    urlToken name s = urlTokenOf (s.dropWhile isBlank) (readingOf (readUrl .none (s.dropWhile isBlank))) := by
  unfold urlToken
  dsimp only
  split
  · next hrest => exact absurd (.inl (by rw [hrest]; rfl)) h
  · next hrest => exact absurd (.inr (by rw [hrest]; rfl)) h
  · cases readUrl .none (s.dropWhile isBlank) <;> rfl

theorem halts_urlTokenOf (a : List Char) :
    Halts (fun s => urlTokenOf s (readingOf (readUrl .none s))) a := by
  intro hne
  dsimp only at hne
  have hleft : (readingOf (readUrl .none (a ++ [';']))).2 ≠ [] := by
    intro hnil
    rcases hread : readingOf (readUrl .none (a ++ [';'])) with ⟨url?, left⟩
    rw [hread] at hnil hne
    obtain rfl : left = [] := hnil
    cases url? <;> exact hne rfl
  obtain ⟨out, b, hb⟩ := halts_readUrl .none a hleft
  cases out with
  | some url => exact ⟨.url (String.ofList url), b, fun k hk => congrArg (urlTokenOf _) (hb k hk)⟩
  | none =>
    have htoken : ∀ k, Ends k → urlTokenOf (a ++ k) (readingOf (readUrl .none (a ++ k))) =
        urlTokenOf (a ++ k) (none, b ++ k) := fun k hk => congrArg (urlTokenOf _) (hb k hk)
    have hne' : (readBadUrl false (b ++ [';'])).2 ≠ [] := by
      rwa [htoken _ (ends_semicolon [])] at hne
    obtain ⟨content, rest, hrest⟩ := halts_readBadUrl false b hne'
    refine ⟨.badUrl (String.ofList (a.take (a.length - b.length) ++ content)), rest, fun k hk => ?_⟩
    have hlen : (a ++ k).length - (b ++ k).length = a.length - b.length := by
      rw [List.length_append, List.length_append]
      omega
    dsimp only
    rw [htoken k hk, urlTokenOf, hrest k hk, hlen, List.take_append_of_le_length (Nat.sub_le _ _)]

theorem halts_urlToken (name : String) (a : List Char) : Halts (urlToken name) a := by
  have hinner : ∀ k, Ends k → (a ++ k).dropWhile isBlank = a.dropWhile isBlank ++ k := fun k hk =>
    dropWhile_append_ends (by decide) hk a
  have hquoted : ∀ k, Ends k → (startsQuoted (a ++ k) ↔ startsQuoted a) := by
    intro k hk
    rw [startsQuoted, startsQuoted, hinner k hk, List.head?_append]
    cases (a.dropWhile isBlank).head? with
    | none => rcases hk with rfl | ⟨rest, rfl⟩ <;> simp
    | some c => rfl
  by_cases hquote : startsQuoted a
  · exact .of_left (.function name) a fun k hk => urlToken_of_startsQuoted ((hquoted k hk).mpr hquote) name
  have hnot : ∀ k, Ends k → ¬ startsQuoted (a ++ k) := fun k hk => mt (hquoted k hk).mp hquote
  refine (halts_urlTokenOf (a.dropWhile isBlank)).of_eq id fun k hk => ?_
  rw [urlToken_of_not_startsQuoted (mt (hquoted k hk).mp hquote), hinner k hk]
  rfl

theorem identToken_of_open {n : String} {rest : List Char} (h : name s = (n, '(' :: rest)) :
    identToken s = if n.map Char.toLower == "url" then urlToken n rest else (.function n, rest) := by
  rw [identToken, h]
  rfl

theorem identToken_of_name {n : String} {rest : List Char} (h : name s = (n, rest)) (hopen : rest.head? ≠ some '(') :
    identToken s = (.ident n, rest) := by
  rw [identToken, h]
  split
  · next heq =>
    rw [(Prod.mk.inj heq).2] at hopen
    exact absurd rfl hopen
  · next heq => rw [(Prod.mk.inj heq).1, (Prod.mk.inj heq).2]

theorem halts_identToken (a : List Char) : Halts identToken a := by
  intro hne
  have hname : (name (a ++ [';'])).2 ≠ [] := by
    intro hnil
    have hlen := length_identToken_le (a ++ [';'])
    rw [hnil] at hlen
    exact hne (List.length_eq_zero_iff.mp (Nat.le_zero.mp hlen))
  obtain ⟨cs, b, hb⟩ := halts_readName .none a hname
  have hread : ∀ k, Ends k → name (a ++ k) = (String.ofList cs, b ++ k) := fun k hk => by
    rw [name, hb k hk]
  have hmark := ends_semicolon []
  by_cases hopen : b.head? = some '('
  · obtain ⟨rest, rfl⟩ := List.head?_eq_some_iff.mp hopen
    have htoken := fun k hk => identToken_of_open (hread k hk)
    by_cases hurl : ((String.ofList cs).map Char.toLower == "url") = true
    · rw [htoken _ hmark, if_pos hurl] at hne
      obtain ⟨out, left, hleft⟩ := halts_urlToken (String.ofList cs) rest hne
      refine ⟨out, left, fun k hk => ?_⟩
      rw [htoken k hk, if_pos hurl]
      exact hleft k hk
    · refine ⟨.function (String.ofList cs), rest, fun k hk => ?_⟩
      rw [htoken k hk, if_neg hurl]
      rfl
  · refine ⟨.ident (String.ofList cs), b, fun k hk => identToken_of_name (hread k hk) ?_⟩
    rw [List.head?_append]
    cases hhead : b.head? with
    | none => rcases hk with rfl | ⟨rest, rfl⟩ <;> simp
    | some c =>
      rw [hhead] at hopen
      exact hopen

/-! ## Numbers -/

/-- Whether a reader never takes a semicolon: it leaves the end of the text before the semicolon, and the
semicolon. -/
def Spares {α : Type} (f : List Char → α × List Char) : Prop :=
  ∀ a, ∃ out b, b <:+ a ∧ ∀ k, Ends k → f (a ++ k) = (out, b ++ k)

theorem spares_digits : Spares digits := fun a =>
  ⟨(digits a).1, (digits a).2, List.dropWhile_suffix _, fun k hk => by
    rw [digits, takeWhile_append_ends (by decide) hk, dropWhile_append_ends (by decide) hk, digits]⟩

theorem exists_sign_append (a : List Char) :
    ∃ signed factor b, b <:+ a ∧ ∀ k, Ends k → sign (a ++ k) = (signed, factor, b ++ k) := by
  cases a with
  | nil =>
    refine ⟨false, 1, [], List.suffix_rfl, ?_⟩
    rintro k (rfl | ⟨rest, rfl⟩) <;> rfl
  | cons c a =>
    by_cases hminus : c = '-'
    · subst hminus
      exact ⟨true, -1, a, List.suffix_cons _ _, fun k _ => rfl⟩
    by_cases hplus : c = '+'
    · subst hplus
      exact ⟨true, 1, a, List.suffix_cons _ _, fun k _ => rfl⟩
    · exact ⟨false, 1, c :: a, List.suffix_rfl, fun k _ => sign_of_ne hminus hplus⟩

theorem spares_fraction : Spares fraction := by
  intro a
  cases a with
  | nil =>
    refine ⟨none, [], List.suffix_rfl, ?_⟩
    rintro k (rfl | ⟨rest, rfl⟩) <;> rfl
  | cons c a =>
    by_cases hdot : c = '.'
    · subst hdot
      by_cases hdigit : startsDigit a = true
      · obtain ⟨ds, b, hsuffix, hb⟩ := spares_digits a
        refine ⟨some ds, b, hsuffix.trans (List.suffix_cons _ _), fun k hk => ?_⟩
        rw [List.cons_append, fraction, if_pos (by rwa [startsDigit_append hk]), hb k hk]
      · refine ⟨none, '.' :: a, List.suffix_rfl, fun k hk => ?_⟩
        rw [List.cons_append, fraction, if_neg (by rwa [startsDigit_append hk])]
    · refine ⟨none, c :: a, List.suffix_rfl, fun k _ => ?_⟩
      simp [fraction, hdot]

/-- The power that an exponent stands for, and what is left of the text, if there is an exponent. -/
theorem exponent?_append (a : List Char) : (∀ k, Ends k → exponent? (a ++ k) = none) ∨
    ∃ p b, b <:+ a ∧ ∀ k, Ends k → exponent? (a ++ k) = some (p, b ++ k) := by
  cases a with
  | nil =>
    refine .inl ?_
    rintro k (rfl | ⟨rest, rfl⟩) <;> rfl
  | cons c a =>
    by_cases hc : c = 'e' ∨ c = 'E'
    · obtain ⟨signed, factor, b, hb, hsign⟩ := exists_sign_append a
      obtain ⟨ds, left, hleft, hdigits⟩ := spares_digits b
      have hread : ∀ k, Ends k → exponent? (c :: (a ++ k)) =
          if startsDigit b then some (Float.pow 10 (factor * wholeValue ds), left ++ k) else none := by
        intro k hk
        rcases hc with rfl | rfl
        · rw [exponent?, hsign k hk]
          simp only [startsDigit_append hk, hdigits k hk]
        · rw [exponent?, hsign k hk]
          simp only [startsDigit_append hk, hdigits k hk]
      by_cases hdigit : startsDigit b = true
      · have hsuffix : left <:+ c :: a := (hleft.trans hb).trans (List.suffix_cons _ _)
        exact .inr ⟨_, left, hsuffix, fun k hk => (hread k hk).trans (if_pos hdigit)⟩
      · exact .inl fun k hk => (hread k hk).trans (if_neg hdigit)
    · refine .inl fun k _ => ?_
      rw [not_or] at hc
      simp [exponent?, hc.1, hc.2]

theorem halts_withUnit (signed : Bool) (value : Float) (int? : Option Int) (a : List Char) :
    Halts (withUnit signed value int?) a := by
  by_cases hpercent : a.head? = some '%'
  · obtain ⟨rest, rfl⟩ := List.head?_eq_some_iff.mp hpercent
    exact .of_left _ rest fun k _ => rfl
  have hread : ∀ k, Ends k → withUnit signed value int? (a ++ k) =
      if startsIdent a then
        (.dimension ⟨signed, value.toFloat32, int?⟩ (name (a ++ k)).1, (name (a ++ k)).2)
      else (.number ⟨signed, value.toFloat32, int?⟩, a ++ k) := by
    intro k hk
    rw [withUnit]
    · rw [startsIdent_append hk]
    · intro rest heq
      have hhead : (a ++ k).head? = some '%' := by rw [heq, List.head?_cons]
      rw [List.head?_append] at hhead
      cases a with
      | nil => rcases hk with rfl | ⟨more, rfl⟩ <;> exact absurd hhead (by simp)
      | cons c a => exact hpercent hhead
  by_cases hident : startsIdent a = true
  · refine (halts_readName .none a).of_eq
      (fun n => .dimension ⟨signed, value.toFloat32, int?⟩ (String.ofList n)) fun k hk => ?_
    rw [hread k hk, if_pos hident, name]
  · exact .of_left _ a fun k hk => (hread k hk).trans (if_neg hident)

/-- Before its unit, a number takes no semicolon. -/
theorem exists_numberToken_append (a : List Char) :
    ∃ signed value int? b, b <:+ a ∧ ∀ k, Ends k → numberToken (a ++ k) = withUnit signed value int? (b ++ k) := by
  obtain ⟨signed, factor, t, ht, hsign⟩ := exists_sign_append a
  obtain ⟨whole, u, hu, hwhole⟩ := spares_digits t
  obtain ⟨point, v, hv, hpoint⟩ := spares_fraction u
  have hsuffix : v <:+ a := (hv.trans hu).trans ht
  have hread := fun k hk => numberToken_eq (hsign k hk) (hwhole k hk) (hpoint k hk)
  rcases exponent?_append v with hnone | ⟨p, w, hw, hsome⟩
  · refine ⟨signed, valueOf factor whole point none, intOf factor whole point none, v, hsuffix, fun k hk => ?_⟩
    rw [hread k hk, hnone k hk]
    rfl
  · refine ⟨signed, valueOf factor whole point (some (p, [])), intOf factor whole point (some (p, [])), w,
      hw.trans hsuffix, fun k hk => ?_⟩
    rw [hread k hk, hsome k hk]
    rfl

theorem halts_numberToken (a : List Char) : Halts numberToken a := by
  obtain ⟨signed, value, int?, b, -, hread⟩ := exists_numberToken_append a
  exact (halts_withUnit signed value int? b).of_eq id hread

/-! ## The lexer -/

theorem halts_name (token : String → Option Token) (a : List Char) :
    Halts (fun s => (token (name s).1, (name s).2)) a :=
  (halts_readName .none a).of_eq (fun n => token (String.ofList n)) fun _ _ => rfl

/-- What a text begins with does not hang on what stands behind it. -/
theorem prefix_append_iff {p : List Char} (hp : ';' ∉ p) (hk : Ends k) (a : List Char) : p <+: a ++ k ↔ p <+: a := by
  induction p generalizing a with
  | nil => exact iff_of_true (List.nil_prefix) (List.nil_prefix)
  | cons c p ih =>
    obtain ⟨hc, hp⟩ := List.ne_and_not_mem_of_not_mem_cons hp
    cases a with
    | nil =>
      rcases hk with rfl | ⟨rest, rfl⟩
      · rfl
      · simp [List.cons_prefix_cons, Ne.symm hc]
    | cons d a => rw [List.cons_append, List.cons_prefix_cons, List.cons_prefix_cons, ih hp]

/-- The token of a hash. -/
def hashToken (s : List Char) : Option Token × List Char :=
  if startsIdent s then (some (.idHash (name s).1), (name s).2)
  else if s.head?.any (fun d => d.isDigit || d == '-') then (some (.hash (name s).1), (name s).2)
  else (some (.delim '#'), s)

/-- The token of a name or of a character by itself. -/
def plainToken (c : Char) (s : List Char) : Option Token × List Char :=
  if startsIdent (c :: s) then (some (identToken (c :: s)).1, (identToken (c :: s)).2) else (some (.delim c), s)

/-- The token of a character that begins neither a blank, a string, a hash nor a number, nor is one by itself. -/
def otherToken (c : Char) (s : List Char) : Option Token × List Char :=
  match c, s with
  | '/', '*' :: rest => (none, afterComment rest)
  | '-', '-' :: '>' :: rest => (some .closeComment, rest)
  | '<', '!' :: '-' :: '-' :: rest => (some .openComment, rest)
  | '@', s => if startsIdent s then (some (.atKeyword (name s).1), (name s).2) else (some (.delim '@'), s)
  | c, s => plainToken c s

theorem next_hash_eq (s : List Char) : next '#' s = hashToken s := by
  unfold hashToken
  by_cases hident : startsIdent s = true
  · simp [next, isBlank, isNewline, single?, hident]
  · cases s with
    | nil => rfl
    | cons d s =>
      by_cases hd : (d.isDigit || d == '-') = true
      · simp [next, isBlank, isNewline, single?, hident, hd]
      · simp [next, isBlank, isNewline, single?, hident, hd]

theorem otherToken_of_plain (hcomment : c = '/' → ¬ ['*'] <+: s) (hclose : c = '-' → ¬ ['-', '>'] <+: s)
    (hopen : c = '<' → ¬ ['!', '-', '-'] <+: s) (hat : c ≠ '@') : otherToken c s = plainToken c s := by
  unfold otherToken
  split
  · next rest => exact absurd ⟨rest, rfl⟩ (hcomment rfl)
  · next rest => exact absurd ⟨rest, rfl⟩ (hclose rfl)
  · next rest => exact absurd ⟨rest, rfl⟩ (hopen rfl)
  · exact absurd rfl hat
  · rfl

theorem next_eq_otherToken (hblank : ¬ isBlank c = true) (hsingle : single? c = none)
    (hquote : ¬ (c == '"' || c == '\'') = true) (hhash : ¬ (c == '#') = true)
    (hnumber : ¬ startsNumber (c :: s) = true) (hequals : (operator? c).isSome = true → ¬ ['='] <+: s) :
    next c s = otherToken c s := by
  unfold next
  simp only [if_neg hblank, hsingle, if_neg hquote, if_neg hhash, if_neg hnumber]
  split
  · next t rest hop => exact absurd ⟨rest, rfl⟩ (hequals (by rw [hop]; rfl))
  · split
    · rfl
    · rfl
    · rfl
    · rfl
    · next hat hcomment hclose hopen =>
      rw [otherToken_of_plain]
      · rfl
      · exact fun hc ⟨rest, h⟩ => hcomment rest hc h.symm
      · exact fun hc ⟨rest, h⟩ => hclose rest hc h.symm
      · exact fun hc ⟨rest, h⟩ => hopen rest hc h.symm
      · exact hat

theorem halts_hashToken (a : List Char) : Halts hashToken a := by
  by_cases hident : startsIdent a = true
  · refine (halts_name (fun n => some (.idHash n)) a).of_eq id fun k hk => ?_
    rw [hashToken, if_pos (by rwa [startsIdent_append hk])]
    rfl
  have hhead : ∀ k, Ends k → (a ++ k).head?.any (fun d => d.isDigit || d == '-') =
      a.head?.any fun d => d.isDigit || d == '-' := by
    intro k hk
    cases a with
    | nil => rcases hk with rfl | ⟨rest, rfl⟩ <;> rfl
    | cons d a => rfl
  by_cases hd : (a.head?.any fun d => d.isDigit || d == '-') = true
  · refine (halts_name (fun n => some (.hash n)) a).of_eq id fun k hk => ?_
    rw [hashToken, if_neg (by rwa [startsIdent_append hk]), if_pos (by rwa [hhead k hk])]
    rfl
  · refine .of_left (some (.delim '#')) a fun k hk => ?_
    rw [hashToken, if_neg (by rwa [startsIdent_append hk]), if_neg (by rwa [hhead k hk])]

theorem halts_plainToken (c : Char) (a : List Char) : Halts (plainToken c) a := by
  by_cases hident : startsIdent (c :: a) = true
  · refine (halts_identToken (c :: a)).of_eq some fun k hk => ?_
    have hstarts : startsIdent (c :: (a ++ k)) = true := (startsIdent_append hk (c :: a)).trans hident
    rw [plainToken, if_pos hstarts]
    rfl
  · refine .of_left (some (.delim c)) a fun k hk => ?_
    have hstarts : ¬ startsIdent (c :: (a ++ k)) = true := mt (startsIdent_append hk (c :: a)).symm.trans hident
    rw [plainToken, if_neg hstarts]

theorem halts_otherToken (c : Char) (a : List Char) : Halts (otherToken c) a := by
  by_cases hcomment : c = '/' ∧ ['*'] <+: a
  · obtain ⟨rfl, rest, rfl⟩ := hcomment
    exact (halts_afterComment rest).of_eq (fun _ => none) fun _ _ => rfl
  by_cases hclose : c = '-' ∧ ['-', '>'] <+: a
  · obtain ⟨rfl, rest, rfl⟩ := hclose
    exact .of_left (some .closeComment) rest fun _ _ => rfl
  by_cases hopen : c = '<' ∧ ['!', '-', '-'] <+: a
  · obtain ⟨rfl, rest, rfl⟩ := hopen
    exact .of_left (some .openComment) rest fun _ _ => rfl
  by_cases hat : c = '@'
  · subst hat
    by_cases hident : startsIdent a = true
    · refine (halts_name (fun n => some (.atKeyword n)) a).of_eq id fun k hk => ?_
      rw [otherToken, if_pos (by rwa [startsIdent_append hk])]
      rfl
    · refine .of_left (some (.delim '@')) a fun k hk => ?_
      rw [otherToken, if_neg (by rwa [startsIdent_append hk])]
  · refine (halts_plainToken c a).of_eq id fun k hk => ?_
    rw [otherToken_of_plain]
    · rfl
    · exact fun hc h => hcomment ⟨hc, (prefix_append_iff (by decide) hk a).mp h⟩
    · exact fun hc h => hclose ⟨hc, (prefix_append_iff (by decide) hk a).mp h⟩
    · exact fun hc h => hopen ⟨hc, (prefix_append_iff (by decide) hk a).mp h⟩
    · exact hat

/-- The lexer halts at a semicolon behind a text. -/
theorem halts_next (c : Char) (a : List Char) : Halts (next c) a := by
  by_cases hblank : isBlank c = true
  · refine .of_left (some (.blank (String.ofList (c :: a.takeWhile isBlank))))
      (a.dropWhile isBlank) fun k hk => ?_
    unfold next
    rw [if_pos hblank, dropWhile_append_ends (by decide) hk, List.takeWhile_cons_of_pos hblank,
      takeWhile_append_ends (by decide) hk]
  cases hsingle : single? c with
  | some t =>
    refine .of_left (some t) a fun k _ => ?_
    unfold next
    simp only [if_neg hblank, hsingle]
  | none =>
  by_cases hquote : (c == '"' || c == '\'') = true
  · have hne : c ≠ ';' := by
      rintro rfl
      cases hsingle
    refine (halts_quotedReading hne .none a).of_eq
      (fun p => some (if p.2 then .quoted (String.ofList p.1) else .badText (String.ofList p.1))) fun k _ => ?_
    unfold next
    simp only [if_neg hblank, hsingle, if_pos hquote]
    rfl
  by_cases hhash : (c == '#') = true
  · obtain rfl : c = '#' := by simpa using hhash
    exact (halts_hashToken a).of_eq id fun k _ => next_hash_eq (a ++ k)
  by_cases hnumber : startsNumber (c :: a) = true
  · refine (halts_numberToken (c :: a)).of_eq some fun k hk => ?_
    have hstarts : startsNumber (c :: (a ++ k)) = true := (startsNumber_append hk (c :: a)).trans hnumber
    unfold next
    simp only [if_neg hblank, hsingle, if_neg hquote, if_neg hhash, if_pos hstarts]
    rfl
  have hstarts : ∀ k, Ends k → ¬ startsNumber (c :: (a ++ k)) = true := fun k hk =>
    mt (startsNumber_append hk (c :: a)).symm.trans hnumber
  by_cases hequals : (operator? c).isSome = true ∧ ['='] <+: a
  · obtain ⟨hop, rest, rfl⟩ := hequals
    obtain ⟨t, ht⟩ := Option.isSome_iff_exists.mp hop
    refine .of_left (some t) rest fun k hk => ?_
    unfold next
    simp only [if_neg hblank, hsingle, if_neg hquote, if_neg hhash, if_neg (hstarts k hk), ht]
    rfl
  · refine (halts_otherToken c a).of_eq id fun k hk => ?_
    exact next_eq_otherToken hblank hsingle hquote hhash (hstarts k hk) fun hop h =>
      hequals ⟨hop, (prefix_append_iff (by decide) hk a).mp h⟩

end PageEdit.Css

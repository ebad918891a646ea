import PageEdit.Css.Lexer
import PageEdit.Outline.Basic
import PageEdit.Proofs.Css.Names

/-!
# The tokens of selectors that have been written

A selector is cut at its beginning, one token after the other, and the tokens of a text are those of its
beginning followed by those of what is left. So the tokens of what has been written are found part by part from
its end: what stands before a part only has to end where the part begins.

* `readQuoted_quoteChars`, `readQuoted_line`: a text between quotes, without and with a line break.
* `Lexes`: how many tokens the beginning of a text is cut into.
* `lexes_trimChars`: a label with classes, also when it has been trimmed.
-/

namespace PageEdit.Css

open Lexer

variable {c : Char} {cs s rest left : List Char} {ts : List Token}

/-! ## Texts between quotes -/

theorem readQuoted_quoteChars (h : ∀ c ∈ cs, isNewline c = false) (s : List Char) :
    readQuoted '\'' .none (quoteChars cs ++ s) =
      (cs.map readAs ++ (readQuoted '\'' .none s).1, (readQuoted '\'' .none s).2) := by
  induction cs with
  | nil => rfl
  | cons c cs ih =>
    have hn : isNewline c = false := h c List.mem_cons_self
    rw [quoteChars, List.append_assoc]
    have ih' := ih fun d hd => h d (List.mem_cons_of_mem _ hd)
    split
    · next hc =>
      rw [Bool.or_eq_true, beq_iff_eq, beq_iff_eq] at hc
      rcases hc with rfl | rfl
      · simp [readQuoted, Escape.feed, isNewline, hexDigit?, ih', readAs]
      · simp [readQuoted, Escape.feed, isNewline, hexDigit?, ih', readAs]
    · next hc =>
      rw [Bool.or_eq_true, beq_iff_eq, beq_iff_eq, not_or] at hc
      simp [readQuoted, Escape.feed, hn, hc.1, hc.2, ih', readAs]

theorem quoteChars_append (cs ds : List Char) : quoteChars (cs ++ ds) = quoteChars cs ++ quoteChars ds := by
  induction cs with
  | nil => rfl
  | cons c cs ih => rw [List.cons_append, quoteChars, quoteChars, ih, List.append_assoc]

theorem readQuoted_closed (h : ∀ c ∈ cs, isNewline c = false) (s : List Char) :
    readQuoted '\'' .none (quoteChars cs ++ '\'' :: s) = (cs.map readAs, s, true) := by
  rw [readQuoted_quoteChars h]
  simp [readQuoted, Escape.feed]

/-- A line break ends a text between quotes before its quote comes. -/
theorem readQuoted_line (h : ∀ c ∈ cs, isNewline c = false) (hn : isNewline c = true) (ds s : List Char) :
    readQuoted '\'' .none (quoteChars (cs ++ c :: ds) ++ s) =
      (cs.map readAs, c :: (quoteChars ds ++ s), false) := by
  have hc : (c == '\\' || c == '\'') = false := by
    rw [Bool.or_eq_false_iff, beq_eq_false_iff_ne, beq_eq_false_iff_ne]
    exact ⟨fun h' => by rw [h'] at hn; exact absurd hn (by decide),
      fun h' => by rw [h'] at hn; exact absurd hn (by decide)⟩
  have hbreak : readQuoted '\'' .none (c :: (quoteChars ds ++ s)) = ([], c :: (quoteChars ds ++ s), false) := by
    rw [Bool.or_eq_false_iff] at hc
    simp [readQuoted, Escape.feed, hn, hc.2]
  rw [quoteChars_append, List.append_assoc, readQuoted_quoteChars h, quoteChars, hc, if_neg Bool.false_ne_true,
    List.append_assoc, List.singleton_append, hbreak, List.append_nil]

/-! ## Tokens -/

/-- The tokens that the beginning of some characters is cut into, and the characters that are left. -/
def Lexes (s : List Char) (ts : List Token) (left : List Char) : Prop :=
  ∀ n, s.length ≤ n → ∃ m, left.length ≤ m ∧ tokensWithin n s = ts ++ tokensWithin m left

theorem Lexes.tokens_eq (h : Lexes s ts []) : tokens s = ts := by
  obtain ⟨m, -, heq⟩ := h s.length (Nat.le_refl _)
  have hnil : tokensWithin m [] = [] := by cases m <;> rfl
  rw [tokens, heq, hnil, List.append_nil]

theorem Lexes.exists_tokens (h : Lexes s ts left) : ∃ more, tokens s = ts ++ more :=
  let ⟨_, _, heq⟩ := h s.length (Nat.le_refl _)
  ⟨_, heq⟩

theorem lexes_refl (s : List Char) : Lexes s [] s := fun n hn => ⟨n, hn, rfl⟩

theorem Lexes.cons {t : Token} (hr : Lexes rest ts left) (h : next c s = (some t, rest))
    (hlen : rest.length ≤ s.length) : Lexes (c :: s) (t :: ts) left := by
  intro n hn
  cases n with
  | zero => cases hn
  | succ n =>
    obtain ⟨m, hm, heq⟩ := hr n (Nat.le_trans hlen (Nat.le_of_succ_le_succ hn))
    rw [tokensWithin, h]
    exact ⟨m, hm, congrArg (t :: ·) heq⟩

/-- The characters with which blanks, comments and tokens of other kinds begin, numbers aside. -/
def otherFirsts : List Char :=
  [' ', '\t', '\n', '\r', '\x0c', ':', ';', ',', '(', '[', '\x7b', ')', ']', '\x7d', '"', '\'', '#', '~', '|',
    '^', '$', '*', '/', '<', '@', '+', '-', '.', '\\']

theorem ne_of_startsName (h : startsName c = true) : ∀ d ∈ otherFirsts, c ≠ d := by
  have hnone : otherFirsts.all (!startsName ·) = true := by decide
  rintro d hd rfl
  have hc := List.all_eq_true.mp hnone c hd
  rw [h] at hc
  cases hc

theorem isDigit_of_startsName (h : startsName c = true) : c.isDigit = false := by
  have hdigits : digitChars.all (!startsName ·) = true := by decide
  cases hd : c.isDigit with
  | false => rfl
  | true =>
    have hc := List.all_eq_true.mp hdigits c (mem_digitChars hd)
    rw [h] at hc
    cases hc

/-- How a name begins: with a character of its own, or with a dash or a backslash that goes on as one. -/
theorem startsIdent_cases (h : startsIdent (c :: s) = true) :
    startsName c = true ∨ c = '\\' ∨
      c = '-' ∧ ∃ x t, s = x :: t ∧ (startsName x = true ∨ x = '-' ∨ x = '\\') := by
  unfold startsIdent at h
  split at h
  · next x t heq =>
    obtain ⟨rfl, rfl⟩ := List.cons.inj heq
    simp only [Bool.or_eq_true, beq_iff_eq, or_assoc] at h
    exact .inr (.inr ⟨rfl, x, t, rfl, h⟩)
  · next heq => exact .inr (.inl (List.cons.inj heq).1)
  · next heq => exact .inl ((List.cons.inj heq).1 ▸ h)
  · next heq => cases heq

theorem startsNumber_of_startsIdent (h : startsIdent (c :: s) = true) : startsNumber (c :: s) = false := by
  have hname : ∀ {x : Char} (t), startsName x = true ∨ x = '-' ∨ x = '\\' →
      x ≠ '.' ∧ startsDigit (x :: t) = false := by
    rintro x t (hx | rfl | rfl)
    · exact ⟨ne_of_startsName hx '.' (by decide), isDigit_of_startsName hx⟩
    · exact ⟨by decide, rfl⟩
    · exact ⟨by decide, rfl⟩
  rcases startsIdent_cases h with hc | rfl | ⟨rfl, x, t, rfl, hx⟩
  · have hne := ne_of_startsName hc
    simp only [otherFirsts, List.forall_mem_cons, List.not_mem_nil, false_imp_iff, implies_true, and_true] at hne
    unfold startsNumber
    split <;> simp_all
  · rfl
  · obtain ⟨hdot, hd⟩ := hname t hx
    rw [startsNumber]
    · exact hd
    · exact fun _ h' => hdot (List.cons.inj h').1

/-- What begins as a name is cut off as one, unless it is the end of a comment. -/
theorem next_of_startsIdent (h : startsIdent (c :: s) = true) (harrow : ∀ r, c :: s ≠ '-' :: '-' :: '>' :: r) :
    next c s = (some (identToken (c :: s)).1, (identToken (c :: s)).2) := by
  have hnumber := startsNumber_of_startsIdent h
  rcases startsIdent_cases h with hc | rfl | ⟨rfl, -⟩
  · have hne := ne_of_startsName hc
    simp only [otherFirsts, List.forall_mem_cons, List.not_mem_nil, false_imp_iff, implies_true, and_true] at hne
    unfold next
    simp [isBlank, isNewline, single?, hnumber, operator?, h, hne]
  · unfold next
    simp [isBlank, isNewline, single?, hnumber, operator?, h]
  · unfold next
    simp [isBlank, isNewline, single?, hnumber, operator?, h]
    split
    · next heq => exact absurd heq (by decide)
    · next r _ => exact absurd rfl (harrow r)
    · next heq => exact absurd heq (by decide)
    · next heq => exact absurd heq (by decide)
    · rfl

theorem next_of_spells (h : Spells (c :: s) cs rest) (hend : EndsName rest) :
    next c (s ++ rest) = (some (.ident (String.ofList cs)), rest) := by
  have harrow : ∀ r, c :: s ++ rest ≠ '-' :: '-' :: '>' :: r := by
    intro r heq
    have hreads := h.reads
    rw [heq, readName_nameChar (by decide), readName_nameChar (by decide),
      readName_stop r (by decide) (by decide) (by decide)] at hreads
    exact (hend.head '>' (by rw [← (Prod.mk.inj hreads).2]; rfl)).2 rfl
  have hname : name (c :: s ++ rest) = (String.ofList cs, rest) := by rw [name, h.reads]
  have htoken : identToken (c :: s ++ rest) = (.ident (String.ofList cs), rest) := by
    rw [identToken, hname]
    cases rest with
    | nil => rfl
    | cons x rest =>
      split
      · next heq =>
        rw [Prod.mk.injEq, List.cons.injEq] at heq
        exact absurd heq.2.1 (hend.head x rfl).1
      · next heq => rw [(Prod.mk.inj heq).1, (Prod.mk.inj heq).2]
  have hnext : next c (s ++ rest) = (some (identToken (c :: s ++ rest)).1, (identToken (c :: s ++ rest)).2) :=
    next_of_startsIdent h.starts harrow
  rwa [htoken] at hnext

theorem Lexes.ident (hr : Lexes rest ts left) (h : Spells s cs rest) (hend : EndsName rest) :
    Lexes (s ++ rest) (.ident (String.ofList cs) :: ts) left := by
  obtain ⟨c, t, rfl⟩ := List.exists_cons_of_ne_nil h.ne
  exact hr.cons (next_of_spells h hend) (by simp)

theorem Lexes.idHash (hr : Lexes rest ts left) (h : Spells s cs rest) :
    Lexes ('#' :: (s ++ rest)) (.idHash (String.ofList cs) :: ts) left := by
  refine hr.cons ?_ (by simp)
  simp [next, isBlank, isNewline, single?, h.starts, name, h.reads]

/-- A hash with no identifier after it is a token of its own, or takes along a name that is none. -/
theorem next_hash (h : startsIdent s = false) :
    next '#' s = (some (.delim '#'), s) ∨ next '#' s = (some (.hash (name s).1), (name s).2) := by
  cases s with
  | nil => exact .inl rfl
  | cons d s =>
    cases hd : d.isDigit || d == '-' with
    | false => exact .inl (by simp [next, isBlank, isNewline, single?, h, hd])
    | true => exact .inr (by simp [next, isBlank, isNewline, single?, h, hd])

theorem exists_lexes_hash (h : startsIdent s = false) :
    ∃ t rest, (t = .delim '#' ∨ ∃ n, t = .hash n) ∧ Lexes ('#' :: s) [t] rest := by
  rcases next_hash h with hnext | hnext
  · exact ⟨_, _, .inl rfl, (lexes_refl _).cons hnext (Nat.le_refl _)⟩
  · exact ⟨_, _, .inr ⟨_, rfl⟩, (lexes_refl _).cons hnext (length_readName_le .none s)⟩

theorem Lexes.dot (hr : Lexes rest ts left) (h : startsDigit rest = false) :
    Lexes ('.' :: rest) (.delim '.' :: ts) left := by
  refine hr.cons ?_ (Nat.le_refl _)
  simp [next, isBlank, isNewline, single?, startsNumber, h, operator?, startsIdent, startsName]

/-! ## Chains of classes -/

/-- Whether a text is read as the name that it is written as. -/
structure IsWritable (name : String) : Prop where
  ne : name.toList ≠ []
  line : ∀ c ∈ name.toList, isNewline c = false
  null : '\x00' ∉ name.toList

/-- Classes as they stand in a selector. -/
def classText (names : List String) : List Char := names.flatMap fun c => '.' :: identChars c.toList

def classTokens (names : List String) : List Token := names.flatMap fun c => [.delim '.', .ident c]

theorem IsWritable.spells {name : String} (h : IsWritable name) (hend : EndsName rest) :
    Spells (identChars name.toList) name.toList rest := by
  have hspells := spells_identChars h.ne h.line hend
  rwa [map_readAs h.null] at hspells

theorem IsWritable.spells_trimEnd {name : String} (h : IsWritable name)
    (hlast : ∀ c ∈ name.toList.getLast?, Text.isBlank c = false) :
    Spells (Text.trimEnd (identChars name.toList)) name.toList [] := by
  have hspells := Css.spells_trimEnd h.ne h.line hlast
  rwa [map_readAs h.null] at hspells

theorem endsName_dot (s : List Char) : EndsName ('.' :: s) :=
  ⟨readName_stop s (by decide) (by decide) (by decide), fun x hx => by
    obtain rfl : '.' = x := Option.some.inj hx
    decide⟩

theorem startsDigit_of_startsIdent (h : startsIdent s = true) : startsDigit s = false := by
  cases s with
  | nil => rfl
  | cons c s =>
    rcases startsIdent_cases h with hc | rfl | ⟨rfl, -⟩
    · exact isDigit_of_startsName hc
    · rfl
    · rfl

/-- One more class before some characters. -/
theorem Lexes.cls {name : String} (hr : Lexes rest ts left) (h : Spells s name.toList rest)
    (hend : EndsName rest) :
    Lexes ('.' :: (s ++ rest)) (.delim '.' :: .ident name :: ts) left := by
  have htokens := (hr.ident h hend).dot (startsDigit_of_startsIdent h.starts)
  rwa [String.ofList_toList] at htokens

theorem endsName_classText (hend : EndsName rest) (names : List String) :
    EndsName (classText names ++ rest) := by
  cases names with
  | nil => exact hend
  | cons => exact endsName_dot _

theorem Lexes.classes {names : List String} (hr : Lexes rest ts left) (hend : EndsName rest)
    (h : ∀ c ∈ names, IsWritable c) : Lexes (classText names ++ rest) (classTokens names ++ ts) left := by
  induction names with
  | nil => exact hr
  | cons c names ih =>
    have hends := endsName_classText hend names
    have htail := ih fun d hd => h d (List.mem_cons_of_mem _ hd)
    have heq : classText (c :: names) ++ rest = '.' :: (identChars c.toList ++ (classText names ++ rest)) := by
      simp [classText, List.append_assoc]
    rw [heq]
    exact htail.cls ((h c List.mem_cons_self).spells hends) hends

/-- Name characters are read as they are. -/
theorem spells_of_isNameChar (hne : cs ≠ []) (hstarts : startsIdent (cs ++ rest) = true)
    (hname : ∀ c ∈ cs, isNameChar c = true) (hend : EndsName rest) : Spells cs cs rest := by
  have hreads : readName .none (cs ++ rest) = (cs, rest) := by
    clear hstarts hne
    induction cs with
    | nil => exact hend.reads
    | cons c cs ih =>
      obtain ⟨hc, hname⟩ := List.forall_mem_cons.mp hname
      rw [List.cons_append, readName_nameChar hc, ih hname]
  exact ⟨hne, hstarts, hreads⟩

theorem spells_label {label : String} (hfirst : ∃ c, label.toList.head? = some c ∧ c.isAlpha = true)
    (hname : ∀ c ∈ label.toList, isNameChar c = true) (hend : EndsName rest) :
    Spells label.toList label.toList rest := by
  obtain ⟨c, hhead, halpha⟩ := hfirst
  obtain ⟨cs, hcs⟩ := List.head?_eq_some_iff.mp hhead
  have hletter : startsName c = true := by
    rw [startsName, halpha]
    rfl
  have hstarts : startsIdent (label.toList ++ rest) = true := by
    rw [hcs]
    exact startsIdent_of_ne hletter (ne_of_startsName hletter _ (by decide)) _
  exact spells_of_isNameChar (hcs ▸ List.cons_ne_nil c cs) hstarts hname hend

/-- What is left of a label with classes when it has been trimmed is cut into them. -/
theorem lexes_trimChars {label : String} {names : List String}
    (hfirst : ∃ c, label.toList.head? = some c ∧ c.isAlpha = true)
    (hlabel : ∀ c ∈ label.toList, isNameChar c = true) (hnames : ∀ c ∈ names, IsWritable c)
    (hlast : ∀ c ∈ (names.getLastD label).toList.getLast?, Text.isBlank c = false) :
    Lexes (Text.trimChars (label.toList ++ classText names)) (.ident label :: classTokens names) [] := by
  have hhead : ∀ s, ∀ c ∈ (label.toList ++ s).head?, Text.isBlank c = false := by
    intro s c hc
    obtain ⟨d, hd, halpha⟩ := hfirst
    rw [List.head?_append, hd] at hc
    exact Option.some.inj hc ▸ Text.isBlank_of_isAlpha halpha
  rcases List.eq_nil_or_concat names with rfl | ⟨init, last, rfl⟩
  · rw [classText, List.flatMap_nil, Text.trimChars_eq_self (hhead []) (by rwa [List.append_nil])]
    have htokens := (lexes_refl []).ident (spells_label hfirst hlabel endsName_nil) endsName_nil
    rwa [String.ofList_toList] at htokens
  · rw [List.concat_eq_append] at hnames hlast ⊢
    rw [List.getLastD_concat] at hlast
    have hspells := (hnames last (by simp)).spells_trimEnd hlast
    have htext : label.toList ++ classText (init ++ [last]) =
        label.toList ++ (classText init ++ ['.']) ++ identChars last.toList := by
      simp [classText]
    have htrim : Text.trimChars (label.toList ++ classText (init ++ [last])) =
        label.toList ++ (classText init ++ '.' :: Text.trimEnd (identChars last.toList)) := by
      rw [htext, Text.trimChars_append]
      · simp
      · rw [List.append_assoc]
        exact hhead _
      · intro c hc
        obtain rfl : '.' = c := by simpa [List.getLast?_append] using hc
        decide
    have hend := endsName_dot (Text.trimEnd (identChars last.toList))
    have hclass := (lexes_refl []).cls hspells endsName_nil
    rw [List.append_nil] at hclass
    have hclasses := hclass.classes hend fun c hc => hnames c (List.mem_append_left _ hc)
    have hends := endsName_classText hend init
    have htokens := hclasses.ident (spells_label hfirst hlabel hends) hends
    rw [String.ofList_toList] at htokens
    rw [htrim]
    simpa [classTokens] using htokens

/-! ## Tests for an attribute -/

/-- What stands before the value in a test for the attribute that marks sections. -/
theorem Lexes.sectionTest (hr : Lexes ('\'' :: rest) ts left) :
    Lexes ('[' :: (sectionAttr.toList ++ '=' :: '\'' :: rest))
      (.openSquare :: .ident sectionAttr :: .delim '=' :: ts) left := by
  have hend : EndsName ('=' :: '\'' :: rest) :=
    ⟨readName_stop _ (by decide) (by decide) (by decide), fun x hx => by
      obtain rfl : '=' = x := Option.some.inj hx
      decide⟩
  have hequal : Lexes ('=' :: '\'' :: rest) (.delim '=' :: ts) left := hr.cons rfl (Nat.le_refl _)
  have hspells : Spells sectionAttr.toList sectionAttr.toList ('=' :: '\'' :: rest) :=
    spells_label ⟨'d', by decide, by decide⟩ (List.all_eq_true.mp (by decide)) hend
  have hname := hequal.ident hspells hend
  rw [String.ofList_toList] at hname
  exact hname.cons rfl (Nat.le_refl _)

theorem lexes_quoted (h : ∀ c ∈ cs, isNewline c = false) :
    Lexes ('\'' :: (quoteChars cs ++ ['\'', ']']))
      [.quoted (String.ofList (cs.map readAs)), .closeSquare] [] := by
  have hclose : Lexes [']'] [.closeSquare] [] := (lexes_refl []).cons rfl (Nat.le_refl _)
  refine hclose.cons ?_ (by simp)
  simp [next, isBlank, isNewline, single?, readQuoted_closed h]

theorem lexes_badText (h : ∀ c ∈ cs, isNewline c = false) (hn : isNewline c = true) (ds s : List Char) :
    Lexes ('\'' :: (quoteChars (cs ++ c :: ds) ++ s)) [.badText (String.ofList (cs.map readAs))]
      (c :: (quoteChars ds ++ s)) := by
  refine (lexes_refl _).cons ?_ ?_
  · simp [next, isBlank, isNewline, single?, readQuoted_line h hn]
  · rw [quoteChars_append, quoteChars]
    split <;> simp only [List.length_append, List.length_cons, List.length_nil] <;> omega

end PageEdit.Css

import PageEdit.Css.Reader
import PageEdit.Proofs.Css.Tokens

/-!
# Reading the selectors that have been written

A section, an identifier, or a label with classes is one chain of tests for a single element. Its tokens open
at most one block and hold no comma, so there is one part with one chain in it, and each step of the reader
takes what one test was written as.

A selector is refused for how it begins: the reader goes from left to right, and neither blocks that are
still open nor later parts change the trees that are there already.

* `Selector.parse_id`, `Selector.parse_classes`, `Selector.parse_section`: what is read.
* `Tree.prefix_build`, `Tree.exists_block`: trees that stay as they are.
* `Selector.exists_error_of_section`, `Selector.parse_trimmed_id`: what is not read back.
-/

namespace PageEdit.Css

open Lexer

variable {c : Char} {cs s rest left : List Char} {ts : List Token}

/-! ## Trees -/

/-- Tokens that open, close and separate nothing are one part, each a tree of its own. -/
theorem splitCommas_leaves (h : ∀ t ∈ ts, t.closer? = none ∧ t ≠ .comma) :
    Reader.splitCommas (Tree.ofTokens ts) = [ts.map .leaf] := by
  have hbuild : ∀ (ts : List Token) (top : List Tree), (∀ t ∈ ts, t.closer? = none ∧ t ≠ .comma) →
      Tree.build [] top ts = top.reverse ++ ts.map .leaf := by
    intro ts
    induction ts with
    | nil => intro top _; simp [Tree.build, Tree.closeAll]
    | cons t ts ih =>
      intro top h
      rw [List.forall_mem_cons] at h
      have hpush := ih (.leaf t :: top) h.2
      simp only [Tree.build, h.1.1, Option.isSome_none, Bool.false_eq_true, if_false, Tree.push]
      rw [hpush, List.reverse_cons, List.append_assoc]
      rfl
  rw [Tree.ofTokens, hbuild ts [] h, List.reverse_nil, List.nil_append]
  induction ts with
  | nil => rfl
  | cons t ts ih =>
    rw [List.forall_mem_cons] at h
    rw [List.map_cons]
    unfold Reader.splitCommas
    rw [ih h.2]
    split
    · next heq => exact absurd (Tree.leaf.inj heq) h.1.2
    · next heq _ => rw [(List.cons.inj heq).1, (List.cons.inj heq).2]
    · next heq _ => cases heq

namespace Tree

theorem suffix_push (t : Tree) (frames : List Frame) (top : List Tree) : top <:+ (push t frames top).2 := by
  cases frames with
  | nil => exact List.suffix_cons t top
  | cons => exact List.suffix_refl top

theorem suffix_close (frames : List Frame) (top : List Tree) : top <:+ (close frames top).2 := by
  cases frames with
  | nil => exact List.suffix_refl top
  | cons => exact suffix_push _ _ _

theorem suffix_closeAll (last : Option Tree) (frames : List Frame) (top : List Tree) :
    top <:+ closeAll last frames top := by
  induction frames generalizing last with
  | nil => exact List.suffix_append _ top
  | cons frame frames ih => exact ih _

/-- What is in no block stays as it is. -/
theorem prefix_build (frames : List Frame) (top : List Tree) (ts : List Token) :
    top.reverse <+: build frames top ts := by
  induction ts generalizing frames top with
  | nil => exact List.reverse_prefix.mpr (suffix_closeAll none frames top)
  | cons t ts ih =>
    unfold build
    extract_lets closing
    split
    · exact (List.reverse_prefix.mpr (suffix_close frames top)).trans (ih _ _)
    · split
      · exact ih _ _
      · exact (List.reverse_prefix.mpr (suffix_push (.leaf t) frames top)).trans (ih _ _)

/-- Adding a tree to blocks keeps the outermost one, with what is in it. -/
theorem exists_push (t : Tree) (inner : List Frame) (opening : Token) (content top : List Tree) :
    ∃ inner' content', push t (inner ++ [(opening, content)]) top = (inner' ++ [(opening, content')], top) ∧
      content <:+ content' := by
  cases inner with
  | nil => exact ⟨[], t :: content, rfl, List.suffix_cons t content⟩
  | cons frame inner => exact ⟨(frame.1, t :: frame.2) :: inner, content, rfl, List.suffix_refl content⟩

theorem exists_closeAll (last : Option Tree) (inner : List Frame) (opening : Token) (content top : List Tree) :
    ∃ content', closeAll last (inner ++ [(opening, content)]) top = .block opening content' :: top ∧
      content.reverse <+: content' := by
  induction inner generalizing last with
  | nil => exact ⟨_, rfl, List.reverse_prefix.mpr (List.suffix_append _ content)⟩
  | cons frame inner ih => exact ih _

/-- An open block becomes the next tree, with what it has so far at its beginning. -/
theorem exists_block (inner : List Frame) (opening : Token) (content top : List Tree) (ts : List Token) :
    ∃ content' more,
      build (inner ++ [(opening, content)]) top ts = top.reverse ++ .block opening content' :: more ∧
      content.reverse <+: content' := by
  induction ts generalizing inner content top with
  | nil =>
    obtain ⟨content', h, hcontent⟩ := exists_closeAll none inner opening content top
    exact ⟨content', [], by rw [build, h, List.reverse_cons], hcontent⟩
  | cons t ts ih =>
    have hpush : ∀ (x : Tree) (inner : List Frame), ∃ content' more,
        build (push x (inner ++ [(opening, content)]) top).1 (push x (inner ++ [(opening, content)]) top).2 ts =
            top.reverse ++ .block opening content' :: more ∧
          content.reverse <+: content' := by
      intro x inner
      obtain ⟨inner', later, h, hlater⟩ := exists_push x inner opening content top
      obtain ⟨content', more, heq, hcontent⟩ := ih inner' later top
      exact ⟨content', more, by rw [h]; exact heq, (List.reverse_prefix.mpr hlater).trans hcontent⟩
    unfold build
    extract_lets closing
    split
    · cases inner with
      | nil =>
        obtain ⟨more, h⟩ := prefix_build [] (.block opening content.reverse :: top) ts
        rw [List.reverse_cons, List.append_assoc] at h
        exact ⟨content.reverse, more, h.symm, List.prefix_refl _⟩
      | cons frame inner => exact hpush _ inner
    · split
      · exact ih ((t, []) :: inner) content top
      · exact hpush (.leaf t) inner

end Tree

/-! ## Tests -/

namespace Reader

theorem readMore_classes (names : List String) (limits : Limits) (done : List Test) {fuel : Nat}
    (h : names.length < fuel) :
    readMore fuel limits done ((classTokens names).map .leaf) = .ok (done ++ names.map .cls, []) := by
  induction names generalizing fuel done with
  | nil =>
    cases fuel with
    | zero => cases h
    | succ fuel => simp [classTokens, readMore]
  | cons c names ih =>
    cases fuel with
    | zero => cases h
    | succ fuel =>
      have htail := ih (done ++ [.cls c]) (Nat.lt_of_succ_lt_succ h)
      rw [classTokens] at htail ⊢
      simp only [List.flatMap_cons, List.cons_append, List.nil_append, List.map_cons, readMore]
      rw [htail, List.append_assoc]
      rfl

theorem attrTest_equal {label : String} (value : String)
    (h : caselessAttrs.contains (label.map Char.toLower) = false) :
    attrTest [.leaf (.ident label), .leaf (.delim '='), .leaf (.quoted value)] =
      .ok ⟨label, false, some (.equal, value, .exact)⟩ := by
  have hname : attrTest [.leaf (.ident label), .leaf (.delim '='), .leaf (.quoted value)] =
      (caseRule (if caselessAttrs.contains (label.map Char.toLower) then .ignoredInHtml else .exact) []).bind
        fun r => (exhausted r.2).bind fun _ => .ok ⟨label, false, some (.equal, value, r.1)⟩ := rfl
  rw [hname, h]
  rfl

/-- The selector of some trees that are one chain of tests. -/
theorem readAll_of_readTests {fuel : Nat} {limits : Limits} {trees : List Tree} {tests : List Test}
    (hskip : skipBlanks trees = trees) (hne : tests ≠ []) (h : readTests fuel limits trees = .ok (tests, [])) :
    readAll (fuel + 3) limits false false [trees] = .ok [.tests tests] := by
  obtain ⟨t, tests, rfl⟩ := List.exists_cons_of_ne_nil hne
  have hnil : skipBlanks [] = [] := rfl
  have hchain : readChain (fuel + 1) limits none trees = .ok (.tests (t :: tests), []) := by
    simp [readChain, hskip, h, combinator?, hnil]
  have hselector : readSelector (fuel + 2) limits false trees = .ok (.tests (t :: tests), []) := by
    simp [readSelector, hskip, hchain]
  simp only [readAll, hselector, exhausted, hnil]
  rfl

end Reader

/-! ## Selectors -/

/-- The selector of a text whose tokens are one chain of tests. -/
theorem Selector.parse_of_readTests {text : String} {trees : List Tree} {tests : List Test}
    (htokens : Lexes text.toList ts []) (htrees : Reader.splitCommas (Tree.ofTokens ts) = [trees])
    (hskip : Reader.skipBlanks trees = trees) (hne : tests ≠ [])
    (h : ∀ fuel, ts.length + 2 < fuel → Reader.readTests fuel ⟨false, false, false⟩ trees = .ok (tests, [])) :
    Selector.parse text = .ok [.tests tests] := by
  have hread := Reader.readAll_of_readTests hskip hne (h (Reader.enough ts - 3) (by rw [Reader.enough]; omega))
  have hfuel : Reader.enough ts - 3 + 3 = Reader.enough ts := by rw [Reader.enough]; omega
  rw [Selector.parse, htokens.tokens_eq, htrees, ← hfuel]
  exact hread

/-- An identifier. -/
theorem Selector.parse_id {text : String} {s : List Char} (htext : text.toList = '#' :: s)
    (h : Spells s cs []) :
    Selector.parse text = .ok [.tests [.id (String.ofList cs)]] := by
  have htokens := (lexes_refl []).idHash h
  rw [List.append_nil, ← htext] at htokens
  refine parse_of_readTests htokens (splitCommas_leaves (by simp [Token.closer?])) rfl (by simp)
    fun fuel hfuel => ?_
  match fuel, hfuel with
  | fuel + 3, _ => simp [Reader.readTests, Reader.nameTests, Reader.qualifiedName, Reader.readMore]

/-- A label with classes. -/
theorem Selector.parse_classes {text label : String} {names : List String}
    (htokens : Lexes text.toList (.ident label :: classTokens names) []) :
    Selector.parse text = .ok [.tests (.label label :: names.map .cls)] := by
  have hlen : names.length ≤ (classTokens names).length := by
    simp only [classTokens, List.length_flatMap, List.length_cons, List.length_nil, List.map_const',
      List.sum_replicate_nat]
    omega
  refine parse_of_readTests htokens (splitCommas_leaves ?_) rfl (by simp) fun fuel hfuel => ?_
  · simp only [List.forall_mem_cons, classTokens, List.mem_flatMap]
    refine ⟨⟨rfl, by simp⟩, ?_⟩
    rintro t ⟨c, -, ht⟩
    simp only [List.mem_cons, List.not_mem_nil, or_false] at ht
    rcases ht with rfl | rfl <;> simp [Token.closer?]
  · rw [List.length_cons] at hfuel
    match fuel, hfuel with
    | fuel + 1, hfuel =>
      have hname : Reader.nameTests (.leaf (.ident label) :: (classTokens names).map .leaf) =
          .ok ([.label label], (classTokens names).map .leaf) := by
        cases names <;> rfl
      rw [List.map_cons, Reader.readTests, hname]
      exact Reader.readMore_classes names _ [.label label] (by omega)

theorem isCaseless_sectionAttr : Reader.caselessAttrs.contains (sectionAttr.map Char.toLower) = false := by
  decide +kernel

/-- A test for the value of an attribute. -/
theorem Selector.parse_section {text : String} (h : ∀ c ∈ cs, isNewline c = false)
    (htext : text.toList = '[' :: (sectionAttr.toList ++ '=' :: '\'' :: (quoteChars cs ++ ['\'', ']']))) :
    Selector.parse text =
      .ok [.tests [.attr ⟨sectionAttr, false, some (.equal, String.ofList (cs.map readAs), .exact)⟩]] := by
  have htokens := (lexes_quoted h).sectionTest
  rw [← htext] at htokens
  refine parse_of_readTests htokens (by rfl) rfl (by simp) fun fuel hfuel => ?_
  match fuel, hfuel with
  | fuel + 3, _ =>
    simp [Reader.readTests, Reader.nameTests, Reader.qualifiedName, Reader.readMore,
      Reader.attrTest_equal _ isCaseless_sectionAttr]

/-! ## Selectors that are refused -/

namespace Reader

theorem splitCommas_ne_nil (trees : List Tree) : splitCommas trees ≠ [] := by
  cases trees with
  | nil => exact List.cons_ne_nil _ _
  | cons t trees =>
    unfold splitCommas
    split <;> exact List.cons_ne_nil _ _

theorem skipBlanks_cons {t : Tree} (h : isBlank t = false) (trees : List Tree) :
    skipBlanks (t :: trees) = t :: trees :=
  List.dropWhile_cons_of_neg (by rw [h]; exact Bool.false_ne_true)

/-- Trees that begin with no name are read for what comes after one. -/
theorem readTests_nameless {fuel : Nat} {limits : Limits} {trees : List Tree}
    (h : nameTests trees = .ok ([], trees)) :
    readTests (fuel + 1) limits trees = readMore fuel limits [] trees := by
  rw [readTests, h]

section

variable {fuel : Nat} {limits : Limits} {t : Tree} {part rest : List Tree} (hblank : isBlank t = false)
  (hname : nameTests (t :: part) = .ok ([], t :: part))

include hblank hname

theorem readSelector_error {e : Fault × List Tree} (h : readMore fuel limits [] (t :: part) = .error e) :
    readSelector (fuel + 3) limits false (t :: part) = .error e := by
  simp only [readSelector, readChain, skipBlanks_cons hblank, readTests_nameless hname, h, Bool.false_eq_true,
    if_false]

theorem readSelector_empty (h : readMore fuel limits [] (t :: part) = .ok ([], rest)) :
    readSelector (fuel + 3) limits false (t :: part) = .error (.emptySelector, rest) := by
  simp only [readSelector, readChain, skipBlanks_cons hblank, readTests_nameless hname, h, Bool.false_eq_true,
    if_false, Option.isSome_none]

theorem readSelector_tests {test : Test} {tests : List Test}
    (h : readMore fuel limits [] (t :: part) = .ok (test :: tests, rest)) (hend : combinator? rest = none) :
    readSelector (fuel + 3) limits false (t :: part) = .ok (.tests (test :: tests), rest) := by
  simp [readSelector, readChain, skipBlanks_cons hblank, readTests_nameless hname, h, hend]

end

/-- The first part of a list of selectors begins as the list does. -/
theorem exists_splitCommas {pre : List Tree} (h : ∀ t ∈ pre, t ≠ .leaf .comma) (trees : List Tree) :
    ∃ part parts, splitCommas (pre ++ trees) = (pre ++ part) :: parts := by
  induction pre with
  | nil => exact List.exists_cons_of_ne_nil (splitCommas_ne_nil trees)
  | cons t pre ih =>
    rw [List.forall_mem_cons] at h
    obtain ⟨part, parts, heq⟩ := ih h.2
    refine ⟨part, parts, ?_⟩
    rw [List.cons_append]
    unfold splitCommas
    rw [heq]
    split
    · exact absurd rfl h.1
    · next heq =>
      rw [← (List.cons.inj heq).1, ← (List.cons.inj heq).2]
      rfl
    · next heq => cases heq

/-- Whether a part of a list is refused: it cannot be read, or something is left of it. -/
def Refuses (fuel : Nat) (limits : Limits) (part : List Tree) : Prop :=
  (∃ e, readSelector fuel limits false part = .error e) ∨
    ∃ s t rest, readSelector fuel limits false part = .ok (s, t :: rest) ∧ isBlank t = false

/-- A list is refused if its first part is. -/
theorem Refuses.exists_error {fuel : Nat} {limits : Limits} {part : List Tree} (h : Refuses fuel limits part)
    (parts : List (List Tree)) :
    ∃ fault, readAll (fuel + 1) limits false false (part :: parts) = .error fault := by
  rcases h with ⟨⟨fault, rest⟩, h⟩ | ⟨s, t, rest, h, hblank⟩
  · exact ⟨fault, by rw [readAll, h]; rfl⟩
  · refine ⟨.unexpected t.token, ?_⟩
    have hleft : exhausted (t :: rest) = .error (.unexpected t.token) := by
      rw [exhausted, skipBlanks, List.dropWhile_cons_of_neg (by rw [hblank]; exact Bool.false_ne_true)]
    rw [readAll, h]
    simp only [hleft]
    rfl

end Reader

/-- A text is refused for the trees that it begins with. -/
theorem Selector.exists_error_of_lexes {text : String} (htokens : Lexes text.toList ts left)
    (h : ∀ more, ∃ pre, pre <+: Tree.ofTokens (ts ++ more) ∧ (∀ t ∈ pre, t ≠ .leaf .comma) ∧
      ∀ fuel part, Reader.Refuses (fuel + 6) ⟨false, false, false⟩ (pre ++ part)) :
    ∃ fault, Selector.parse text = .error fault := by
  obtain ⟨more, htext⟩ := htokens.exists_tokens
  obtain ⟨pre, ⟨trees, htree⟩, hcomma, hrefuses⟩ := h more
  obtain ⟨part, parts, hparts⟩ := Reader.exists_splitCommas hcomma trees
  obtain ⟨fuel, hfuel⟩ : ∃ fuel, Reader.enough (ts ++ more) = fuel + 7 :=
    ⟨Reader.enough (ts ++ more) - 7, by rw [Reader.enough]; omega⟩
  rw [Selector.parse, htext, ← htree, hparts, hfuel]
  exact (hrefuses fuel part).exists_error parts

/-- A test for a value with a line break is refused. -/
theorem Selector.exists_error_of_section {text : String} (h : ∃ c ∈ cs, isNewline c = true)
    (htext : text.toList = '[' :: (sectionAttr.toList ++ '=' :: '\'' :: (quoteChars cs ++ ['\'', ']']))) :
    ∃ fault, Selector.parse text = .error fault := by
  obtain ⟨c, hfind⟩ := Option.isSome_iff_exists.mp (List.find?_isSome.mpr h)
  obtain ⟨hn, before, after, rfl, hbefore⟩ := List.find?_eq_some_iff_append.mp hfind
  have htokens := (lexes_badText (by simpa using hbefore) hn after ['\'', ']']).sectionTest
  rw [← htext] at htokens
  generalize String.ofList (before.map readAs) = value at htokens
  refine exists_error_of_lexes htokens fun more => ?_
  -- the block is open where the text breaks off, and what follows can only go into it
  obtain ⟨content', trees, htree, content, rfl⟩ := Tree.exists_block [] .openSquare
    [.leaf (.badText value), .leaf (.delim '='), .leaf (.ident sectionAttr)] [] more
  refine ⟨[_], ⟨trees, htree.symm⟩, by simp, fun fuel part => .inl ⟨(.badValue (.badText value), part), ?_⟩⟩
  have htest : ∀ (value : String) (content : List Tree), Reader.attrTest
      (.leaf (.ident sectionAttr) :: .leaf (.delim '=') :: .leaf (.badText value) :: content) =
        .error (.badValue (.badText value)) := fun _ _ => rfl
  refine Reader.readSelector_error rfl rfl ?_
  simp [Reader.readMore, htest]

/-- What begins no identifier after a hash is refused. -/
theorem Selector.exists_error_of_hash {text : String} {s : List Char} (htext : text.toList = '#' :: s)
    (h : startsIdent s = false) : ∃ fault, Selector.parse text = .error fault := by
  obtain ⟨t, rest, ht, htokens⟩ := exists_lexes_hash h
  rw [← htext] at htokens
  refine exists_error_of_lexes htokens fun more =>
    ⟨[.leaf t], ?_, ?_, fun fuel part => .inl ⟨(.emptySelector, .leaf t :: part), ?_⟩⟩
  · rcases ht with rfl | ⟨n, rfl⟩ <;> exact Tree.prefix_build [] [.leaf _] more
  · rcases ht with rfl | ⟨n, rfl⟩ <;> simp
  · rcases ht with rfl | ⟨n, rfl⟩ <;>
      exact Reader.readSelector_empty rfl rfl (by simp [Reader.readMore])

/-- What stops at a backslash before a line break is refused. -/
theorem Selector.exists_error_of_line {text : String} {s n after : List Char}
    (htext : text.toList = '#' :: (s ++ '\\' :: c :: after)) (h : Spells s n ('\\' :: c :: after))
    (hn : isNewline c = true) : ∃ fault, Selector.parse text = .error fault := by
  have hident : startsIdent ('\\' :: c :: after) = false := by
    rw [startsIdent, startsNewline, hn, Bool.not_true]
  have hslash : Lexes ('\\' :: c :: after) [.delim '\\'] (c :: after) := by
    refine (lexes_refl _).cons ?_ (Nat.le_refl _)
    simp [next, isBlank, isNewline, single?, startsNumber, startsDigit, operator?, hident]
  have htokens := hslash.idHash h
  rw [← htext] at htokens
  refine exists_error_of_lexes htokens fun more =>
    ⟨[.leaf (.idHash (String.ofList n)), .leaf (.delim '\\')], ?_, ?_,
      fun fuel part => .inr ⟨.tests [.id (String.ofList n)], .leaf (.delim '\\'), part, ?_, rfl⟩⟩
  · exact Tree.prefix_build [] [.leaf (.delim '\\'), .leaf (.idHash (String.ofList n))] more
  · simp
  · exact Reader.readSelector_tests rfl rfl (by simp [Reader.readMore]) rfl

/-- A name with a line break, or with a blank at its end, is refused after a hash or read as another one. -/
theorem Selector.parse_trimmed_id {text : String} (hne : cs ≠ []) (h0 : '\x00' ∉ cs)
    (htext : text.toList = '#' :: Text.trimEnd (identChars cs)) :
    (∃ fault, Selector.parse text = .error fault) ∨
      ∃ n, Selector.parse text = .ok [.tests [.id (String.ofList n)]] ∧
        (n = cs → (∀ c ∈ cs, isNewline c = false) ∧ ∀ c ∈ cs.getLast?, Text.isBlank c = false) := by
  cases hstarts : startsIdent (Text.trimEnd (identChars cs)) with
  | false => exact .inl (exists_error_of_hash htext hstarts)
  | true =>
    rcases reads_trimEnd_identChars hne h0 with ⟨before, n, c, after, heq, hc, hreads⟩ | ⟨n, hreads, hsame⟩
    · rw [heq] at hstarts hreads htext
      have hbefore : before ≠ [] := by
        rintro rfl
        rw [List.nil_append, startsIdent, startsNewline, hc] at hstarts
        cases hstarts
      exact .inl (exists_error_of_line htext ⟨hbefore, hstarts, hreads⟩ hc)
    · have hspells : Spells (Text.trimEnd (identChars cs)) n [] := by
        refine ⟨fun hnil => ?_, by rwa [List.append_nil], by rwa [List.append_nil]⟩
        rw [hnil] at hstarts
        cases hstarts
      exact .inr ⟨n, parse_id htext hspells, hsame⟩

end PageEdit.Css

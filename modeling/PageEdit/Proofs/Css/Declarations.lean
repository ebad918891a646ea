import PageEdit.Css.Tree
import PageEdit.Proofs.Css.Semicolons

/-!
# Declarations as CSS reads them

A style is a list of declarations with semicolons between them. CSS finds the semicolons among the tokens of the
style, and those in strings, addresses, comments and blocks are none. The capitals of a name count if two dashes
stand before it, and what is behind the colon is the value.

* `declarations`: what a style declares.
* `isWhole`: whether a text is one declaration at most, which a semicolon behind it ends.
* `declarations_append`: behind such a text and a semicolon, a style is read on its own.
-/

namespace PageEdit.Css

open Lexer

variable {a s k : List Char} {c : Char} {t : Token} {ts : List Token}

/-! ## Reading -/

/-- The tokens and blocks of a text. -/
def trees (s : List Char) : List Tree := Tree.ofTokens (tokens s)

/-- Whether a tree is a run of blanks. -/
def Tree.isBlank : Tree → Bool
  | .leaf (.blank _) => true
  | _ => false

/-- Whether a tree is a semicolon outside every block. -/
def Tree.isSemicolon : Tree → Bool
  | .leaf .semicolon => true
  | _ => false

/-- The name of a property. Capitals count behind two dashes only. -/
def propertyName (name : String) : String :=
  if ['-', '-'].isPrefixOf name.toList then name else Text.lowerAscii name

/-- The value that stands behind a colon, without the blanks at its ends. -/
def trimmedValue (ts : List Tree) : List Tree :=
  ((ts.dropWhile Tree.isBlank).reverse.dropWhile Tree.isBlank).reverse

/-- The declaration that a part of a style makes, if it is one. -/
def declaration? (ts : List Tree) : Option (String × List Tree) :=
  match ts.dropWhile Tree.isBlank with
  | .leaf (.ident name) :: rest =>
    match rest.dropWhile Tree.isBlank with
    | .leaf .colon :: value => some (propertyName name, trimmedValue value)
    | _ => none
  | _ => none

/-- The declarations of a style. -/
def declarations (s : List Char) : List (String × List Tree) :=
  ((trees s).splitOnP Tree.isSemicolon).filterMap declaration?

/-! ## Trees -/

namespace Tree

/-- Whether a token closes the innermost block. -/
def isClosing (frames : List Frame) (t : Token) : Bool :=
  match frames with
  | (opening, _) :: _ => opening.closer?.any (Token.closes · t)
  | [] => false

/-- The open blocks, and the trees that are in none of them, after one more token. -/
def feed (state : List Frame × List Tree) (t : Token) : List Frame × List Tree :=
  if isClosing state.1 t then close state.1 state.2
  else if t.closer?.isSome then ((t, []) :: state.1, state.2)
  else push (.leaf t) state.1 state.2

theorem build_cons (frames : List Frame) (top : List Tree) (t : Token) (ts : List Token) :
    build frames top (t :: ts) = build (feed (frames, top) t).1 (feed (frames, top) t).2 ts := by
  have hstep : build frames top (t :: ts) =
      if isClosing frames t then build (close frames top).1 (close frames top).2 ts
      else if t.closer?.isSome then build ((t, []) :: frames) top ts
      else build (push (.leaf t) frames top).1 (push (.leaf t) frames top).2 ts := rfl
  rw [hstep, feed]
  split
  · rfl
  · split
    · rfl
    · rfl

theorem build_append (frames : List Frame) (top : List Tree) (ts more : List Token) :
    build frames top (ts ++ more) = build (ts.foldl feed (frames, top)).1 (ts.foldl feed (frames, top)).2 more := by
  induction ts generalizing frames top with
  | nil => rfl
  | cons t ts ih => rw [List.cons_append, build_cons, ih, List.foldl_cons]

theorem push_append (t : Tree) (frames : List Frame) (top base : List Tree) :
    push t frames (top ++ base) = ((push t frames top).1, (push t frames top).2 ++ base) := by
  cases frames <;> rfl

theorem close_append (frames : List Frame) (top base : List Tree) :
    close frames (top ++ base) = ((close frames top).1, (close frames top).2 ++ base) := by
  cases frames with
  | nil => rfl
  | cons frame frames => exact push_append _ _ _ _

theorem closeAll_append (last : Option Tree) (frames : List Frame) (top base : List Tree) :
    closeAll last frames (top ++ base) = closeAll last frames top ++ base := by
  induction frames generalizing last with
  | nil => rw [closeAll, closeAll, List.append_assoc]
  | cons frame frames ih => exact ih _

/-- Trees that are complete stay where they are. -/
theorem feed_append (frames : List Frame) (top base : List Tree) (t : Token) :
    feed (frames, top ++ base) t = ((feed (frames, top) t).1, (feed (frames, top) t).2 ++ base) := by
  rw [feed, feed]
  split
  · exact close_append _ _ _
  · split
    · rfl
    · exact push_append _ _ _ _

theorem foldl_feed_append (ts : List Token) (frames : List Frame) (top base : List Tree) :
    ts.foldl feed (frames, top ++ base) =
      ((ts.foldl feed (frames, top)).1, (ts.foldl feed (frames, top)).2 ++ base) := by
  induction ts generalizing frames top with
  | nil => rfl
  | cons t ts ih => rw [List.foldl_cons, feed_append, ih, List.foldl_cons]

theorem build_base (frames : List Frame) (top base : List Tree) (ts : List Token) :
    build frames (top ++ base) ts = base.reverse ++ build frames top ts := by
  induction ts generalizing frames top with
  | nil => rw [build, build, closeAll_append, List.reverse_append]
  | cons t ts ih => rw [build_cons, feed_append, ih, build_cons]

theorem ofTokens_append {ts : List Token} {top : List Tree} (h : ts.foldl feed ([], []) = ([], top))
    (more : List Token) : ofTokens (ts ++ more) = top.reverse ++ ofTokens more := by
  have hbase := build_base [] [] top more
  rw [List.nil_append] at hbase
  rw [ofTokens, build_append, h, hbase, ofTokens]

end Tree

/-! ## Tokens -/

theorem Lexes.skip {rest left : List Char} (hr : Lexes rest ts left)
    (h : next c s = (none, rest)) : Lexes (c :: s) ts left := by
  intro n hn
  cases n with
  | zero => cases hn
  | succ n =>
    have hlen := length_next_le c s
    rw [h] at hlen
    obtain ⟨m, hm, heq⟩ := hr n (Nat.le_trans hlen (Nat.le_of_succ_le_succ hn))
    rw [tokensWithin, h]
    exact ⟨m, hm, heq⟩

theorem Lexes.tokens_append {left : List Char} (h : Lexes s ts left) :
    tokens s = ts ++ tokens left := by
  obtain ⟨m, hm, heq⟩ := h s.length (Nat.le_refl _)
  rw [tokens, heq, tokens, tokensWithin_eq_of_le hm (Nat.le_refl _)]

theorem trees_cons (hnext : next c s = (some t, a)) (hopens : t.closer? = none) :
    trees (c :: s) = .leaf t :: trees a := by
  have hlen := length_next_le c s
  rw [hnext] at hlen
  have hlexes : Lexes (c :: s) [t] a := (lexes_refl a).cons hnext hlen
  have hfeed : [t].foldl Tree.feed ([], []) = ([], [.leaf t]) := by simp [Tree.feed, Tree.isClosing, hopens, Tree.push]
  rw [trees, hlexes.tokens_append, Tree.ofTokens_append hfeed]
  rfl

/-! ## Whole parts -/

/-- The tokens before the last character of a text, if the lexer comes to that character. -/
def tokensBefore : Nat → List Char → Option (List Token)
  | 0, _ | _, [] => none
  | _ + 1, [_] => some []
  | n + 1, c :: cs => (tokensBefore n (next c cs).2).map ((next c cs).1.toList ++ ·)

theorem tokensBefore_cons (hs : s ≠ []) (n : Nat) :
    tokensBefore (n + 1) (c :: s) = (tokensBefore n (next c s).2).map ((next c s).1.toList ++ ·) := by
  cases s with
  | nil => exact absurd rfl hs
  | cons d s => rfl

/-- Whether CSS takes a text and a semicolon behind it for one part of a style: the semicolon is a token, it
stands in no block, and there is none before it. -/
def isWhole (a : List Char) : Bool :=
  (tokensBefore (a.length + 1) (a ++ [';'])).any fun ts =>
    (ts.foldl Tree.feed ([], [])).1.isEmpty && !(ts.foldl Tree.feed ([], [])).2.any Tree.isSemicolon

theorem lexes_of_tokensBefore {n : Nat} (h : tokensBefore n (a ++ [';']) = some ts) (hk : Ends k) :
    Lexes (a ++ k) ts k := by
  induction n generalizing a ts with
  | zero => cases h
  | succ n ih =>
    cases a with
    | nil =>
      obtain rfl : [] = ts := Option.some.inj h
      exact lexes_refl k
    | cons c a =>
      rw [List.cons_append, tokensBefore_cons (by simp)] at h
      obtain ⟨more, hmore, rfl⟩ := Option.map_eq_some_iff.mp h
      have hne : (next c (a ++ [';'])).2 ≠ [] := by
        intro hnil
        rw [hnil] at hmore
        cases n <;> cases hmore
      obtain ⟨t?, b, hb⟩ := halts_next c a hne
      rw [hb _ (ends_semicolon [])] at hmore ⊢
      have hrest := ih hmore
      cases t? with
      | none => exact hrest.skip (hb k hk)
      | some t =>
        have hlen := length_next_le c (a ++ k)
        rw [hb k hk] at hlen
        exact hrest.cons (hb k hk) hlen

/-- A whole text is cut into the same tokens wherever it ends, and they make the same trees. -/
theorem exists_of_isWhole (h : isWhole a = true) : ∃ ts, (∀ k, Ends k → tokens (a ++ k) = ts ++ tokens k) ∧
    (∀ more, Tree.ofTokens (ts ++ more) = trees a ++ Tree.ofTokens more) ∧
    ∀ tree ∈ trees a, tree.isSemicolon = false := by
  rw [isWhole, Option.any_eq_true] at h
  obtain ⟨ts, hts, hwhole⟩ := h
  rw [Bool.and_eq_true, List.isEmpty_iff, Bool.not_eq_true', List.any_eq_false] at hwhole
  obtain ⟨hclosed, hsemicolon⟩ := hwhole
  have htokens : ∀ k, Ends k → tokens (a ++ k) = ts ++ tokens k := fun k hk =>
    (lexes_of_tokensBefore hts hk).tokens_append
  have hfeed : ts.foldl Tree.feed ([], []) = ([], (ts.foldl Tree.feed ([], [])).2) := Prod.ext hclosed rfl
  have htrees : trees a = (ts.foldl Tree.feed ([], [])).2.reverse := by
    have hnil := htokens [] (.inl rfl)
    have hempty : Tree.ofTokens (tokens []) = [] := rfl
    rw [List.append_nil] at hnil
    rw [trees, hnil, Tree.ofTokens_append hfeed, hempty, List.append_nil]
  refine ⟨ts, htokens, fun more => ?_, fun tree htree => ?_⟩
  · rw [Tree.ofTokens_append hfeed, htrees]
  · rw [htrees, List.mem_reverse] at htree
    exact Bool.eq_false_iff.mpr (hsemicolon tree htree)

/-- A whole text makes one declaration at most. -/
theorem declarations_of_isWhole (h : isWhole a = true) : declarations a = (declaration? (trees a)).toList := by
  obtain ⟨ts, -, -, hsemicolon⟩ := exists_of_isWhole h
  rw [declarations, List.splitOnP_eq_singleton hsemicolon, List.filterMap_cons, List.filterMap_nil]
  cases declaration? (trees a) <;> rfl

/-- Behind a whole text and a semicolon, a style is read on its own. -/
theorem declarations_append (h : isWhole a = true) (s : List Char) :
    declarations (a ++ ';' :: s) = declarations a ++ declarations s := by
  obtain ⟨ts, htokens, htrees, -⟩ := exists_of_isWhole h
  have hmark : trees (';' :: s) = .leaf .semicolon :: trees s := trees_cons rfl rfl
  have hall : trees (a ++ ';' :: s) = trees a ++ .leaf .semicolon :: trees s := by
    rw [trees, htokens _ (ends_semicolon s), htrees, ← trees, hmark]
  rw [declarations, hall, List.splitOnP_append_cons _ _ rfl, List.filterMap_append, declarations, declarations]

theorem tokensBefore_eq_of_le {n m : Nat} (hn : s.length ≤ n) (hm : s.length ≤ m) :
    tokensBefore n s = tokensBefore m s := by
  induction n generalizing s m with
  | zero =>
    obtain rfl : s = [] := List.length_eq_zero_iff.mp (Nat.le_zero.mp hn)
    cases m <;> rfl
  | succ n ih =>
    match s, m with
    | [], m => cases m <;> rfl
    | [c], m + 1 => rfl
    | c :: d :: s, m + 1 =>
      have hlen := length_next_le c (d :: s)
      have hrest : tokensBefore n (next c (d :: s)).2 = tokensBefore m (next c (d :: s)).2 :=
        ih (Nat.le_trans hlen (Nat.le_of_succ_le_succ hn)) (Nat.le_trans hlen (Nat.le_of_succ_le_succ hm))
      rw [tokensBefore_cons (List.cons_ne_nil d s), hrest, tokensBefore_cons (List.cons_ne_nil d s)]

/-- Before a whole text, such a token leaves it whole. -/
theorem isWhole_cons (hnext : next c (s ++ [';']) = (some t, a ++ [';'])) (hopens : t.closer? = none)
    (hsemicolon : Tree.isSemicolon (.leaf t) = false) (h : isWhole a = true) : isWhole (c :: s) = true := by
  have hlen : a.length ≤ s.length := by simpa [hnext] using length_next_le c (s ++ [';'])
  rw [isWhole, Option.any_eq_true] at h ⊢
  obtain ⟨ts, hts, hwhole⟩ := h
  have hfuel : tokensBefore (c :: s).length (a ++ [';']) = some ts := by
    rw [← hts]
    exact tokensBefore_eq_of_le (by simpa using hlen) (by simp)
  have htokens : tokensBefore ((c :: s).length + 1) (c :: s ++ [';']) = some (t :: ts) := by
    rw [List.cons_append, tokensBefore_cons (by simp), hnext, hfuel]
    rfl
  have hfeed : (t :: ts).foldl Tree.feed ([], []) =
      ((ts.foldl Tree.feed ([], [])).1, (ts.foldl Tree.feed ([], [])).2 ++ [.leaf t]) := by
    have hfirst : Tree.feed ([], []) t = ([], [] ++ [.leaf t]) := by simp [Tree.feed, Tree.isClosing, hopens, Tree.push]
    rw [List.foldl_cons, hfirst, Tree.foldl_feed_append]
  refine ⟨t :: ts, htokens, ?_⟩
  rw [hfeed]
  simpa [hsemicolon] using hwhole

/-! ## Blanks -/

section

variable {lead : List Char}

theorem exists_next_blank (hc : Lexer.isBlank c = true) (hlead : ∀ d ∈ lead, Lexer.isBlank d = true)
    (hs : ∀ d ∈ s.head?, Lexer.isBlank d = false) : ∃ blanks, next c (lead ++ s) = (some (.blank blanks), s) := by
  have hleft : (lead ++ s).dropWhile Lexer.isBlank = s := by
    rw [List.dropWhile_append_of_pos hlead]
    cases s with
    | nil => rfl
    | cons d s => exact List.dropWhile_cons_of_neg (by rw [hs d rfl]; exact Bool.false_ne_true)
  refine ⟨String.ofList ((c :: (lead ++ s)).takeWhile Lexer.isBlank), ?_⟩
  unfold next
  rw [if_pos hc, hleft]

/-- Blanks make no tree, or one that is blank. -/
theorem trees_blanks_append (hlead : ∀ c ∈ lead, Lexer.isBlank c = true)
    (hs : ∀ c ∈ s.head?, Lexer.isBlank c = false) : trees (lead ++ s) = trees s ∨
      ∃ blanks, trees (lead ++ s) = .leaf (.blank blanks) :: trees s := by
  cases lead with
  | nil => exact .inl rfl
  | cons c lead =>
    obtain ⟨hc, hlead⟩ := List.forall_mem_cons.mp hlead
    obtain ⟨blanks, hnext⟩ := exists_next_blank hc hlead hs
    exact .inr ⟨blanks, trees_cons hnext rfl⟩

theorem trimmedValue_blanks_append (hlead : ∀ c ∈ lead, Lexer.isBlank c = true)
    (hs : ∀ c ∈ s.head?, Lexer.isBlank c = false) :
    trimmedValue (trees (lead ++ s)) = trimmedValue (trees s) := by
  rcases trees_blanks_append hlead hs with h | ⟨blanks, h⟩
  · rw [h]
  · rw [h]
    rfl

/-- Blanks before a style do not count. -/
theorem declarations_blanks_append (hlead : ∀ c ∈ lead, Lexer.isBlank c = true)
    (hs : ∀ c ∈ s.head?, Lexer.isBlank c = false) : declarations (lead ++ s) = declarations s := by
  rcases trees_blanks_append hlead hs with h | ⟨blanks, h⟩
  · rw [declarations, h, declarations]
  · have hblank : Tree.isSemicolon (.leaf (.blank blanks)) = false := rfl
    obtain ⟨part, parts, hparts⟩ := List.exists_cons_of_ne_nil (List.splitOnP_ne_nil Tree.isSemicolon (trees s))
    rw [declarations, h, List.splitOnP_cons_eq_if_modifyHead, hblank, if_neg Bool.false_ne_true, declarations,
      hparts, List.modifyHead_cons, List.filterMap_cons, List.filterMap_cons]
    rfl

/-- Blanks before a whole text leave it whole. -/
theorem isWhole_blanks_append (hlead : ∀ c ∈ lead, Lexer.isBlank c = true)
    (ha : ∀ c ∈ a.head?, Lexer.isBlank c = false) (h : isWhole a = true) : isWhole (lead ++ a) = true := by
  cases lead with
  | nil => exact h
  | cons c lead =>
    obtain ⟨hc, hlead⟩ := List.forall_mem_cons.mp hlead
    have hmark : ∀ d ∈ (a ++ [';']).head?, Lexer.isBlank d = false := by
      cases a with
      | nil => exact fun d hd => Option.some.inj hd ▸ rfl
      | cons d a => exact ha
    obtain ⟨blanks, hnext⟩ := exists_next_blank hc hlead hmark
    rw [← List.append_assoc] at hnext
    exact isWhole_cons hnext rfl rfl h

end

/-! ## Names of properties -/

/-- Characters that make a name, whatever follows them that ends a name. -/
structure IsPropertyName (name : List Char) : Prop where
  starts : ∀ s, startsIdent (name ++ s) = true
  chars : ∀ c ∈ name, isNameChar c = true

section

variable {name : List Char}

theorem IsPropertyName.exists_next (h : IsPropertyName name) : ∃ c cs, name = c :: cs ∧
    ∀ s, next c (cs ++ ':' :: s) = (some (.ident (String.ofList name)), ':' :: s) := by
  have hne : name ≠ [] := by
    rintro rfl
    exact absurd (h.starts []) (by decide)
  obtain ⟨c, cs, rfl⟩ := List.exists_cons_of_ne_nil hne
  refine ⟨c, cs, rfl, fun s => ?_⟩
  have hend : EndsName (':' :: s) :=
    ⟨readName_stop s (by decide) (by decide) (by decide), fun x hx => by
      obtain rfl : ':' = x := Option.some.inj hx
      decide⟩
  exact next_of_spells (spells_of_isNameChar hne (h.starts _) h.chars hend) hend

theorem next_colon (s : List Char) : next ':' s = (some .colon, s) := rfl

/-- What begins with a name and a colon declares the property of that name. -/
theorem declaration?_of_name (h : IsPropertyName name) (s : List Char) :
    declaration? (trees (name ++ ':' :: s)) = some (propertyName (String.ofList name), trimmedValue (trees s)) := by
  obtain ⟨c, cs, hname, hnext⟩ := h.exists_next
  have htrees : trees (name ++ ':' :: s) = .leaf (.ident (String.ofList name)) :: .leaf .colon :: trees s := by
    rw [hname, List.cons_append, trees_cons (hnext s) rfl, trees_cons (next_colon s) rfl, hname]
  rw [htrees]
  rfl

theorem isWhole_of_name (h : IsPropertyName name) (hs : isWhole s = true) : isWhole (name ++ ':' :: s) = true := by
  obtain ⟨c, cs, hname, hnext⟩ := h.exists_next
  have hcolon : isWhole (':' :: s) = true := isWhole_cons (next_colon _) rfl rfl hs
  have hstep : next c (cs ++ ':' :: s ++ [';']) = (some (.ident (String.ofList name)), ':' :: s ++ [';']) := by
    rw [List.append_assoc]
    exact hnext (s ++ [';'])
  rw [hname, List.cons_append]
  exact isWhole_cons hstep rfl rfl hcolon

end

end PageEdit.Css

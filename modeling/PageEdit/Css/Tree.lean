import PageEdit.Css.Lexer

/-!
# Tokens in blocks

A bracket, or a function, opens a block that ends at its own closing bracket or with the text. Closing
brackets that close nothing are ordinary tokens.
-/

namespace PageEdit.Css

/-- A token, or a block with the token that opens it. -/
inductive Tree where
  | leaf (t : Token)
  | block (opening : Token) (content : List Tree)
  deriving Inhabited

namespace Tree

/-- The token that a tree begins with. -/
def token : Tree → Token
  | .leaf t => t
  | .block opening _ => opening

/-- A block under construction: the token that opens it and what it has so far, latest first. -/
abbrev Frame := Token × List Tree

/-- Puts a tree into the innermost block, or at the end of those that are in none. -/
def push (t : Tree) : List Frame → List Tree → List Frame × List Tree
  | [], top => ([], t :: top)
  | (opening, content) :: frames, top => ((opening, t :: content) :: frames, top)

/-- Closes the innermost block. -/
def close : List Frame → List Tree → List Frame × List Tree
  | [], top => ([], top)
  | (opening, content) :: frames, top => push (.block opening content.reverse) frames top

/-- Closes all blocks, the innermost with one more tree in it. -/
def closeAll (last : Option Tree) : List Frame → List Tree → List Tree
  | [], top => last.toList ++ top
  | (opening, content) :: frames, top =>
    closeAll (some (.block opening (last.toList ++ content).reverse)) frames top

/-- The trees of some tokens inside the blocks that are open. -/
def build (frames : List Frame) (top : List Tree) : List Token → List Tree
  | [] => (closeAll none frames top).reverse
  | t :: rest =>
    let closing := match frames with
      | (opening, _) :: _ => opening.closer?.any (Token.closes · t)
      | [] => false
    if closing then
      let (frames, top) := close frames top
      build frames top rest
    else if t.closer?.isSome then build ((t, []) :: frames) top rest
    else
      let (frames, top) := push (.leaf t) frames top
      build frames top rest

/-- The trees of some tokens. -/
def ofTokens (tokens : List Token) : List Tree := build [] [] tokens

end Tree

end PageEdit.Css

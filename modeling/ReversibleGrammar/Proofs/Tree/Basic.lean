/-
# Trees

A tree says how a symbol comes to stand for words: by which of its rules, named
by its position among them, and what the elements of that rule stand for, a
word of its own or a tree of the symbol named there. A forest is what a
sequence of elements stands for. Read from left to right the words of a tree
are a sentence.

Two trees of one symbol are compared by the positions of their rules, and where
these agree by the first elements that stand for different trees. The height of a
tree is how many symbols are nested in it, which is what a parser has a budget for.

Key definitions: `Tree`, `Forest`, `Tree.words`, `Tree.height`, `Tree.Before`.
Key theorems: `Tree.Before.irrefl`.
-/
import ReversibleGrammar.Word

namespace ReversibleGrammar

mutual

/-- What a symbol stands for: one of its rules, and what the elements of it stand for. -/
inductive Tree where
  | node (position : Nat) (children : Forest)

/-- What a sequence of elements stands for. -/
inductive Forest where
  | nil
  /-- A terminal stands for a word. -/
  | word (head : Word) (rest : Forest)
  /-- A symbol stands for a tree. -/
  | tree (head : Tree) (rest : Forest)

end

mutual

/-- The words of a tree, from left to right. -/
def Tree.words : Tree → List Word
  | .node _ children => children.words

/-- The words of a forest, from left to right. -/
def Forest.words : Forest → List Word
  | .nil => []
  | .word head rest => head :: rest.words
  | .tree head rest => head.words ++ rest.words

end

mutual

/-- How many symbols are nested in a tree, its own counted. -/
def Tree.height : Tree → Nat
  | .node _ children => children.height + 1

/-- The height of the highest tree of a forest. -/
def Forest.height : Forest → Nat
  | .nil => 0
  | .word _ rest => rest.height
  | .tree head rest => max head.height rest.height

end

mutual

/-- The order of trees: by the position of the rule, then by the elements. -/
inductive Tree.Before : Tree → Tree → Prop
  | rule {i j : Nat} {f g : Forest} (less : i < j) : Tree.Before (.node i f) (.node j g)
  | children {i : Nat} {f g : Forest} (less : Forest.Before f g) :
    Tree.Before (.node i f) (.node i g)

/-- The order of forests: the first elements with different trees decide. -/
inductive Forest.Before : Forest → Forest → Prop
  | word {w : Word} {f g : Forest} (less : Forest.Before f g) :
    Forest.Before (.word w f) (.word w g)
  | head {t u : Tree} {f g : Forest} (less : Tree.Before t u) :
    Forest.Before (.tree t f) (.tree u g)
  | rest {t : Tree} {f g : Forest} (less : Forest.Before f g) :
    Forest.Before (.tree t f) (.tree t g)

end

mutual

theorem Tree.Before.irrefl : ∀ t : Tree, ¬ Tree.Before t t
  | .node _ _, .rule less => Nat.lt_irrefl _ less
  | .node _ f, .children less => Forest.Before.irrefl f less

theorem Forest.Before.irrefl : ∀ f : Forest, ¬ Forest.Before f f
  | .word _ f, .word less => Forest.Before.irrefl f less
  | .tree t _, .head less => Tree.Before.irrefl t less
  | .tree _ f, .rest less => Forest.Before.irrefl f less

end

end ReversibleGrammar

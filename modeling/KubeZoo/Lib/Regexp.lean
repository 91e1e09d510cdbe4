import Mathlib.Tactic
import Mathlib.Data.Char

/-! # Regular expressions -/

namespace Regexp

inductive Look
  | beginText
  | endText
  | beginLine
  | endLine
  | wordBoundary
  | noWordBoundary
deriving DecidableEq

inductive Re
  | fail
  | empty
  | char (negated : Bool) (ranges : List (Char × Char))
  | look (l : Look)
  | seq (a b : Re)
  | alt (a b : Re)
  | star (a : Re)

structure Place where
  before : Option Char
  after : List Char

/-- A character of `\w`. -/
def isWord (c : Char) : Bool := c.isAlphanum || c == '_'

def Look.holds (l : Look) (before after : Option Char) : Bool :=
  match l with
  | .beginText => before.isNone
  | .endText => after.isNone
  | .beginLine => before.isNone || before == some '\n'
  | .endLine => after.isNone || after == some '\n'
  | .wordBoundary => before.any isWord != after.any isWord
  | .noWordBoundary => before.any isWord == after.any isWord

def inRanges (ranges : List (Char × Char)) (c : Char) : Bool :=
  ranges.any fun r => decide (r.1 ≤ c) && decide (c ≤ r.2)

/-- The places up to `n` steps away. -/
def iterate (step : Place → List Place) : ℕ → Place → List Place
  | 0, p => [p]
  | n + 1, p => p :: (step p).flatMap (iterate step n)

def Re.run : Re → Place → List Place
  | .fail, _ => []
  | .empty, p => [p]
  | .char negated ranges, p =>
    match p.after with
    | [] => []
    | c :: rest => if inRanges ranges c != negated then [⟨some c, rest⟩] else []
  | .look l, p => if l.holds p.before p.after.head? then [p] else []
  | .seq a b, p => (a.run p).flatMap b.run
  | .alt a b, p => a.run p ++ b.run p
  | .star a, p => iterate a.run p.after.length p

def places (before : Option Char) : List Char → List Place
  | [] => [⟨before, []⟩]
  | c :: rest => ⟨before, c :: rest⟩ :: places (some c) rest

def Re.matchString (r : Re) (s : String) : Bool :=
  (places none s.toList).any fun p => !(r.run p).isEmpty

def literal : List Char → Re
  | [] => .empty
  | c :: rest => .seq (.char false [(c, c)]) (literal rest)

def beginsWith (text : String) : Re := .seq (.look .beginText) (literal text.toList)

end Regexp

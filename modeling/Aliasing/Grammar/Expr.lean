import Aliasing.Grammar.AliasSet
/-!
# Parser expressions

The matchers as data: an expression is put together from characters, fixed texts and the grammars of
this library by repetition, choice, sequence, separation, look-ahead and a few functions on values.
`matcher` gives each expression its meaning.
-/

namespace Aliasing.Grammar

inductive Value where
  | nothing
  | number (n : Nat)
  | char (c : Char)
  | text (s : String)
  | name (x : Name)
  | nodeId (n : NodeId)
  | nodeSet (ns : NodeSet)
  | nameSet (xs : NameSet)
  | record (r : Record)
  | list (vs : List Value)

namespace Value

/-- The number of entries of a list or set; other values have none. -/
def count : Value → Nat
  | list vs => vs.length
  | nodeSet ns => ns.size
  | nameSet xs => xs.size
  | _ => 0

end Value

/-- A function on values that an expression can apply. -/
inductive Shaping where
  /-- The list of the value alone. -/
  | wrap
  /-- Forgets the value. -/
  | forget
  /-- The number of entries. -/
  | count
deriving DecidableEq

def Shaping.apply : Shaping → Value → Value
  | wrap, v => .list [v]
  | forget, _ => .nothing
  | count, v => .number v.count

/-- A parser expression. -/
inductive Expr where
  | literal (expected : String)
  | digit
  | whiteSpace
  | wordChar
  | endOfText
  | name
  | nodeId
  | nodeSet
  | record
  | aliasSet
  | many (p : Expr)
  | many1 (p : Expr)
  | orElse (p q : Expr)
  /-- Both values, as a list of two. -/
  | pair (p q : Expr)
  | separated (item sep : Expr)
  | lookAhead (p : Expr)
  | shaped (f : Shaping) (p : Expr)
deriving DecidableEq

namespace Expr

def matcher : Expr → Matcher Value
  | literal expected => (fun _ => .text expected) <$> Grammar.literal expected
  | digit => (fun c => .number (c.toNat - '0'.toNat)) <$> Grammar.digit
  | whiteSpace => .char <$> whiteSpaceChar
  | wordChar => .char <$> Grammar.wordChar
  | endOfText => (fun _ => .nothing) <$> Grammar.endOfText
  | name => .name <$> Grammar.name
  | nodeId => .nodeId <$> Grammar.nodeId
  | nodeSet => .nodeSet <$> Grammar.nodeSet
  | record => .record <$> Grammar.record
  | aliasSet => .nameSet <$> Grammar.aliasSet
  | many p => .list <$> p.matcher.many
  | many1 p => .list <$> p.matcher.many1
  | orElse p q => p.matcher.orElse q.matcher
  | pair p q => (fun vw => .list [vw.1, vw.2]) <$> p.matcher.pair q.matcher
  | separated item sep => .list <$> item.matcher.separated sep.matcher
  | lookAhead p => p.matcher.lookAhead
  | shaped f p => f.apply <$> p.matcher

def run (p : Expr) (text : String) : Reply Value := p.matcher (.start text.toList)

end Expr

end Aliasing.Grammar

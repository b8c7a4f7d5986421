import ManifestLint.Pattern.Lower

/-! # Matching automata

A term becomes a nondeterministic automaton: an array of nodes, each reading a character of a set,
testing an assertion, branching, or accepting, with the index of the node that follows. The
automaton is built from the end of the pattern backwards, so that each part knows where it goes
next; a repetition without an upper bound loops back through a branch node.

Matching follows every path at once: the set of live nodes is closed under the steps that read no
character, then moves over the next character. A pattern matches a text if the accepting node is
live at some place, with a fresh start added at every place, since a match may begin anywhere.
-/

namespace ManifestLint.Pattern

/-- A node of an automaton; the numbers are the indices of the nodes that follow. -/
inductive Node
  | chars (s : CharSet) (next : Nat)
  | look (l : Look) (next : Nat)
  | split (first second : Nat)
  | accept
  | fail
deriving Repr, Inhabited

/-- An automaton and its start node. -/
structure Automaton where
  nodes : Array Node
  start : Nat
deriving Repr

/-- Building an automaton: the nodes made so far. -/
abbrev BuildM := StateM (Array Node)

/-- Adds a node and gives its index. -/
def addNode (n : Node) : BuildM Nat :=
  modifyGet fun a => (a.size, a.push n)

mutual

/-- Builds the nodes of a term that continue at `next`; gives the node where the term starts. -/
def build (next : Nat) : Term → BuildM Nat
  | .empty => pure next
  | .chars s => addNode (.chars s next)
  | .look l => addNode (.look l next)
  | .concat ts => buildSeq next ts
  | .alternation ts => buildAlt next ts
  | .capture t => build next t
  | .repetition t lo hi _ => do
    let mut entry := next
    match hi with
    | none =>
      let loop ← addNode (.split next next)
      let body ← build loop t
      modify fun a => a.set! loop (.split body next)
      entry := loop
    | some h =>
      for _ in [0:h - lo] do
        let body ← build entry t
        entry ← addNode (.split body next)
    for _ in [0:lo] do
      entry ← build entry t
    return entry

/-- Builds terms one after another. -/
def buildSeq (next : Nat) : List Term → BuildM Nat
  | [] => pure next
  | t :: ts => do
    let rest ← buildSeq next ts
    build rest t

/-- Builds a choice between terms. -/
def buildAlt (next : Nat) : List Term → BuildM Nat
  | [] => addNode .fail
  | [t] => build next t
  | t :: ts => do
    let a ← build next t
    let b ← buildAlt next ts
    addNode (.split a b)

end

/-- The automaton of a term. -/
def Automaton.ofTerm (t : Term) : Automaton :=
  let (start, nodes) := (build 0 t).run #[.accept]
  ⟨nodes, start⟩

/-- Whether a code point is an ASCII word character. -/
def isAsciiWord (n : Nat) : Bool :=
  (0x30 ≤ n && n ≤ 0x39) || (0x41 ≤ n && n ≤ 0x5A) || (0x61 ≤ n && n ≤ 0x7A) || n == 0x5F

/-- Whether a character is a word character, in Unicode or in ASCII. -/
def isWordChar (unicode : Bool) (c : Option Char) : Bool :=
  match c with
  | none => false
  | some c => if unicode then wordSet.contains c.toNat else isAsciiWord c.toNat

/-- Whether an assertion holds between the character before a place and the one after it. -/
def Look.holds (before after : Option Char) : Look → Bool
  | .start => before.isNone
  | .finish => after.isNone
  | .startLine false => before.isNone || before == some '\n'
  | .endLine false => after.isNone || after == some '\n'
  | .startLine true =>
    before.isNone || before == some '\n' || (before == some '\r' && after != some '\n')
  | .endLine true =>
    after.isNone || after == some '\r' || (after == some '\n' && before != some '\r')
  | .word u => isWordChar u before != isWordChar u after
  | .notWord u => isWordChar u before == isWordChar u after
  | .wordStart u => !isWordChar u before && isWordChar u after
  | .wordEnd u => isWordChar u before && !isWordChar u after
  | .wordStartHalf u => !isWordChar u before
  | .wordEndHalf u => !isWordChar u after

namespace Automaton

/-- Adds to a set of live nodes every node reachable from `from_` by steps that read nothing, at
a place between `before` and `after`. -/
def close (a : Automaton) (before after : Option Char) (live : Array Bool) (from_ : Nat) :
    Array Bool := Id.run do
  let mut live := live
  let mut stack := [from_]
  for _ in [0:2 * a.nodes.size + 2] do
    match stack with
    | [] => break
    | i :: rest =>
      stack := rest
      if live.getD i true then continue
      live := live.set! i true
      match a.nodes[i]? with
      | some (.split x y) => stack := x :: y :: stack
      | some (.look l next) => if l.holds before after then stack := next :: stack
      | _ => pure ()
  return live

/-- The live nodes after reading a character. -/
def advance (a : Automaton) (live : Array Bool) (c : Char) (before after : Option Char) :
    Array Bool := Id.run do
  let mut out := Array.replicate a.nodes.size false
  for i in [0:a.nodes.size] do
    if live.getD i false then
      if let some (.chars s next) := a.nodes[i]? then
        if s.contains c.toNat then out := a.close before after out next
  return out

/-- Whether the automaton accepts somewhere in a text. -/
def isMatch (a : Automaton) (text : String) : Bool := Id.run do
  let cs := text.toList.toArray
  let empty := Array.replicate a.nodes.size false
  let mut live := a.close none cs[0]? empty a.start
  for i in [0:cs.size] do
    if live.getD 0 false then return true
    let c := cs.getD i ' '
    let after := cs[i + 1]?
    live := a.advance live c (some c) after
    live := a.close (some c) after live a.start
  return live.getD 0 false

end Automaton

end ManifestLint.Pattern

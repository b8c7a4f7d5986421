import Std.Data.TreeMap
import ManifestLint.Pattern.Form

/-! # The memory of compiled automata

A regular expression compiles to two automata over bytes, one that reads forwards and records
where the groups that capture start and end, and one that reads backwards without them. Each is
refused when the memory it takes passes a limit, and a regular expression with an automaton
refused does not compile.

The memory of an automaton under construction is 32 bytes for each state, 8 more for each byte
range of a state that reads one of several ranges, and 4 more for each alternative of a state
that branches. Memory only grows, so an automaton passes the limit exactly when it passes it
once built; the count below stops as soon as it does.

The states are counted in the order the compiler adds them, because their numbers matter: a class
of characters beyond ASCII is compiled through tables of states already made, keyed by hashes of
the state numbers, and a hash that falls on a slot in use pushes the state there out. Forwards, a
class becomes a minimal automaton over its byte sequences, each new state looked up among those
made before with the same transitions. Backwards, each byte sequence becomes a chain of states from
a common end, a chain sharing the states of an earlier one that starts with the same byte ranges.
A class within ASCII is one state over its ranges. An alternation of literals only is compiled as
a tree of their bytes.
-/

namespace ManifestLint.Pattern

/-- The memory the automata of one regular expression may take, in bytes. -/
def sizeLimit : Nat := 10 * 1024 * 1024

/-- The bytes a state takes, whatever its kind. -/
def stateBytes : Nat := 32

/-- The bytes each byte range of a state over several ranges takes. -/
def rangeBytes : Nat := 8

/-- The bytes each alternative of a branching state takes. -/
def alternativeBytes : Nat := 4

/-- The running count of an automaton under construction: the limit, the states added, and the
memory their ranges and alternatives take. -/
structure Tally where
  limit : Nat
  states : Nat := 0
  extra : Nat := 0
deriving Repr

/-- The memory counted so far. -/
def Tally.memory (t : Tally) : Nat :=
  stateBytes * t.states + t.extra

/-- Counting states, stopped as soon as the memory passes the limit. -/
abbrev TallyM := StateT Tally (Except Unit)

/-- Counts `extra` bytes more, and stops if the memory passes the limit. -/
def spend (extra : Nat) (states : Nat) : TallyM Unit := do
  let t ← get
  let t := { t with states := t.states + states, extra := t.extra + extra }
  set t
  if t.memory > t.limit then throw ()

/-- Adds a state whose ranges or alternatives take `extra` bytes; gives its number. -/
def addState (extra : Nat) : TallyM Nat := do
  let n := (← get).states
  spend extra 1
  return n

/-- Adds an alternative to a branching state. -/
def addAlternative : TallyM Unit :=
  spend alternativeBytes 0

/-- Leads the end of a piece to what follows: one more alternative when the end branches. -/
def connect (endBranches : Bool) : TallyM Unit :=
  if endBranches then addAlternative else pure ()

/-! ## Hashing state transitions -/

/-- The prime of the 64-bit Fowler–Noll–Vo hash. -/
def fnvPrime : UInt64 := 1099511628211

/-- The offset basis of the 64-bit Fowler–Noll–Vo hash. -/
def fnvBasis : UInt64 := 14695981039346656037

/-- Mixes a number into a hash. -/
def fnvMix (h : UInt64) (x : Nat) : UInt64 :=
  (h ^^^ x.toUInt64) * fnvPrime

/-- A transition on a range of bytes to a state: the range's ends and the state. -/
abbrev Edge := Nat × Nat × Nat

/-- The slots of the table of states made forwards. -/
def forwardSlots : Nat := 10000

/-- The slots of the table of chains made backwards. -/
def backwardSlots : Nat := 1000

/-- The slot of the transitions of a state. -/
def edgesSlot (edges : Array Edge) : Nat :=
  (edges.foldl (fun h e => fnvMix (fnvMix (fnvMix h e.1) e.2.1) e.2.2) fnvBasis).toNat %
    forwardSlots

/-! ## Classes forwards -/

/-- A state of the minimal automaton not yet made: its transitions so far, and the range of the
transition still open. -/
structure OpenNode where
  edges : Array Edge := #[]
  last : Option (Nat × Nat) := none

/-- Closes the open transition of a node towards a state. -/
def OpenNode.close (n : OpenNode) (next : Nat) : OpenNode :=
  match n.last with
  | some (lo, hi) => { edges := n.edges.push (lo, hi, next), last := none }
  | none => n

/-- The minimal automaton of a class being built: the state every sequence ends in, the path of
open nodes from the start, and the states made, by slot. -/
structure Minimizer where
  target : Nat
  path : Array OpenNode
  made : Std.TreeMap Nat (Array Edge × Nat) := {}

namespace Minimizer

/-- The state with given transitions: the one in its slot if it has them, or a new one. -/
def make (m : Minimizer) (edges : Array Edge) : TallyM (Nat × Minimizer) := do
  let slot := edgesSlot edges
  match m.made[slot]? with
  | some (key, n) => if key == edges then return (n, m) else pure ()
  | none => pure ()
  let n ← addState (rangeBytes * edges.size)
  return (n, { m with made := m.made.insert slot (edges, n) })

/-- Makes the open nodes past the first `keep + 1`, the deepest first, each closed towards the one
made before it, and closes the last node kept towards the last made. -/
def makeFrom (m : Minimizer) (keep : Nat) : TallyM Minimizer := do
  let mut m := m
  let mut next := m.target
  for _ in [0:m.path.size] do
    if m.path.size ≤ keep + 1 then break
    let node := (m.path.back?.getD {}).close next
    m := { m with path := m.path.pop }
    let (n, m') ← m.make node.edges
    m := m'
    next := n
  return { m with path := m.path.modify (m.path.size - 1) (·.close next) }

/-- The number of leading ranges of a sequence that the open path already reads. -/
def sharedLength : List (Nat × Nat) → List OpenNode → Nat
  | r :: rs, n :: ns => if n.last == some r then sharedLength rs ns + 1 else 0
  | _, _ => 0

/-- Adds a byte sequence, after every sequence added before it. -/
def add (m : Minimizer) (seq : List (Nat × Nat)) : TallyM Minimizer := do
  let k := sharedLength seq m.path.toList
  let m ← m.makeFrom k
  match seq.drop k with
  | [] => return m
  | r :: rs =>
    let path := m.path.modify (m.path.size - 1) fun n => { n with last := some r }
    return { m with path := rs.foldl (fun p r => p.push { last := some r }) path }

end Minimizer

/-- Counts the states of a class beyond ASCII, forwards. -/
def forwardClass (s : CharSet) : TallyM Unit := do
  let target ← addState 0
  let mut m : Minimizer := { target, path := #[{}] }
  for r in s.ranges do
    for seq in utf8Sequences r.1 r.2 do
      m ← m.add seq
  m ← m.makeFrom 0
  let _ ← m.make ((m.path[0]?.map (·.edges)).getD #[])

/-! ## Classes backwards -/

/-- The chains made backwards: by slot, the state a chain continues to and the byte range read,
with the state that reads it. -/
abbrev ChainTable := Std.TreeMap Nat ((Nat × Nat × Nat) × Nat)

/-- The state that reads a range and goes on to `next`: one made before in its slot, or a new
one. -/
def chainState (table : ChainTable) (next lo hi : Nat) : TallyM (Nat × ChainTable) := do
  let slot := (fnvMix (fnvMix (fnvMix fnvBasis next) lo) hi).toNat % backwardSlots
  match table[slot]? with
  | some (key, n) => if key == (next, lo, hi) then return (n, table) else pure ()
  | none => pure ()
  let n ← addState 0
  return (n, table.insert slot ((next, lo, hi), n))

/-- Counts the states of a class beyond ASCII, backwards: a branch to one chain for each byte
sequence, built from the first byte, which is read last. -/
def backwardClass (s : CharSet) : TallyM Unit := do
  let _ ← addState 0
  let finish ← addState 0
  let mut table : ChainTable := {}
  for r in s.ranges do
    for seq in utf8Sequences r.1 r.2 do
      let mut next := finish
      for (lo, hi) in seq do
        let (n, t) ← chainState table next lo hi
        next := n
        table := t
      addAlternative

/-- Counts the states of a class; its end never branches. -/
def classPiece (backward : Bool) (s : CharSet) : TallyM Bool := do
  if s.ranges.all (·.2 ≤ 0x7F) then
    let _ ← addState 0
    let _ ← addState (rangeBytes * s.ranges.size)
  else if backward then backwardClass s
  else forwardClass s
  return false

/-! ## Alternations of literals -/

/-- A node of the tree of literals: its transitions, by byte, to other nodes, and where it was
marked as a match. Each mark closes a run of transitions; only the open run, after the last mark,
takes new ones, so that a literal given earlier keeps its priority. -/
structure TrieNode where
  edges : Array (Nat × Nat) := #[]
  marks : Array Nat := #[]

/-- Where the open run of transitions starts. -/
def TrieNode.openStart (n : TrieNode) : Nat :=
  n.marks.back?.getD 0

/-- The runs of transitions: the closed runs, then the open one. -/
def TrieNode.runs (n : TrieNode) : List (Array (Nat × Nat)) :=
  let bounds := (0 :: n.marks.toList).zip (n.marks.toList ++ [n.edges.size])
  bounds.map fun (a, b) => n.edges.extract a b

/-- A tree of literals, its root first. -/
structure Trie where
  nodes : Array TrieNode := #[{}]

namespace Trie

/-- The node after a byte from a node, added if its open run has no transition on the byte. -/
def step (t : Trie) (i b : Nat) : Trie × Nat :=
  let node := t.nodes[i]?.getD {}
  let start := node.openStart
  let run := node.edges.extract start node.edges.size
  match run.find? (·.1 == b) with
  | some (_, j) => (t, j)
  | none =>
    let j := t.nodes.size
    let at_ := start + (run.filter (·.1 < b)).size
    let edges := (node.edges.toList.take at_ ++ [(b, j)] ++ node.edges.toList.drop at_).toArray
    ({ nodes := (t.nodes.set! i { node with edges }).push {} }, j)

/-- Marks a node as a match, unless it has no transitions and is marked already. -/
def mark (t : Trie) (i : Nat) : Trie :=
  let node := t.nodes[i]?.getD {}
  if node.edges.isEmpty && !node.marks.isEmpty then t
  else { nodes := t.nodes.set! i { node with marks := node.marks.push node.edges.size } }

/-- Adds a literal. -/
def add (t : Trie) (bytes : List Nat) : Trie :=
  let (t, i) := bytes.foldl (fun (acc : Trie × Nat) b => acc.1.step acc.2 b) (t, 0)
  t.mark i

/-- Whether a node has no transitions. -/
def isLeaf (t : Trie) (i : Nat) : Bool :=
  ((t.nodes[i]?.map (·.edges.isEmpty)).getD true)

/-- Counts the states of node `i` and the nodes under it: for each run, the states of the nodes
it leads to that are not leaves and then one state for the run, and last a branch over the runs,
with one more alternative, to the match, before each run after the first. The depth is at most
the number of nodes, which is the fuel. -/
def nodeStates (t : Trie) : Nat → Nat → TallyM Unit
  | 0, _ => pure ()
  | fuel + 1, i => do
    let runs := ((t.nodes[i]?).getD {}).runs
    let mut alternatives := runs.length - 1
    for run in runs do
      for e in run do
        if !t.isLeaf e.2 then nodeStates t fuel e.2
      if run.size == 1 then
        let _ ← addState 0
        alternatives := alternatives + 1
      else if run.size > 1 then
        let _ ← addState (rangeBytes * run.size)
        alternatives := alternatives + 1
    let _ ← addState (alternativeBytes * alternatives)

end Trie

/-- Counts the states of an alternation of literals: a common end, then the tree of their bytes,
read backwards in the automaton that reads backwards. Its end never branches. -/
def literalsPiece (backward : Bool) (literals : List (List Nat)) : TallyM Bool := do
  let trie := literals.foldl (fun (t : Trie) bytes => t.add (if backward then bytes.reverse else bytes))
    {}
  let _ ← addState 0
  trie.nodeStates (trie.nodes.size + 1) 0
  return false

/-! ## Repetitions

Each takes the count of its body as an action, which adds at least one state each time. -/

/-- Counts `n` copies of a body one after another; no copy is a single empty state. -/
def exactly (body : TallyM Bool) (n : Nat) : TallyM Bool := do
  if n == 0 then
    let _ ← addState 0
    return false
  let mut last ← body
  for _ in [1:n] do
    let e ← body
    connect last
    last := e
  return last

/-- Counts an optional body: a branch to the body or past it, and a common end. -/
def zeroOrOne (body : TallyM Bool) : TallyM Bool := do
  let _ ← addState 0
  let e ← body
  let _ ← addState 0
  addAlternative
  addAlternative
  connect e
  return false

/-- Counts a body repeated at least `n` times; `nonEmpty` says the body never matches the empty
text, which lets a loop of no minimum be a single branch. -/
def atLeast (body : TallyM Bool) (nonEmpty : Bool) (n : Nat) : TallyM Bool := do
  if n == 0 then
    if nonEmpty then
      let _ ← addState 0
      let e ← body
      addAlternative
      connect e
      return true
    else
      let e ← body
      let _ ← addState 0
      connect e
      addAlternative
      let _ ← addState 0
      let _ ← addState 0
      addAlternative
      addAlternative
      addAlternative
      return false
  else if n == 1 then
    let e ← body
    let _ ← addState 0
    connect e
    addAlternative
    return true
  else
    let e ← exactly body (n - 1)
    let last ← body
    let _ ← addState 0
    connect e
    connect last
    addAlternative
    return true

/-- Counts a body repeated from `min` to `max` times: the required copies, a common end, and
for each optional copy a branch to it or to the end. -/
def bounded (body : TallyM Bool) (min max : Nat) : TallyM Bool := do
  let mut last ← exactly body min
  let _ ← addState 0
  for _ in [min:max] do
    let _ ← addState 0
    let e ← body
    connect last
    addAlternative
    addAlternative
    last := e
  connect last
  return false

/-- Counts a repetition of a body. -/
def repetitionPiece (body : TallyM Bool) (nonEmpty : Bool) (min : Nat) :
    Option Nat → TallyM Bool
  | some max =>
    if min == 0 && max == 1 then zeroOrOne body
    else if min == max then exactly body min
    else bounded body min max
  | none => atLeast body nonEmpty min

/-- The bytes of a branch that is a literal. -/
def literalBytes? : Form → Option (List Nat)
  | .literal bytes => some bytes
  | _ => none

/-- Finishes a sequence of pieces counted in order, given whether each end branches: each end but
the last leads to the next piece, and an empty sequence is one empty state. -/
def finishSequence : List Bool → TallyM Bool
  | [] => do
    let _ ← addState 0
    return false
  | ends => do
    for e in ends.dropLast do
      connect e
    return ends.getLastD false

/-! ## Forms -/

mutual

/-- Counts the states of a form; gives whether its end branches. -/
def piece (backward : Bool) : Form → TallyM Bool
  | .empty | .look _ => do
    let _ ← addState 0
    return false
  | .literal bytes => do
    for _ in bytes do
      let _ ← addState 0
    return false
  | .chars s => classPiece backward s
  | .repetition f min max _ =>
    repetitionPiece (piece backward f) (f.minLength.any (0 < ·)) min max
  | .capture f =>
    if backward then piece backward f
    else do
      let _ ← addState 0
      let e ← piece backward f
      let _ ← addState 0
      connect e
      return false
  | .concat items => do
    let ends ← if backward then piecesBackward backward items else piecesForward backward items
    finishSequence ends
  | .alternation [] => do
    let _ ← addState 0
    return false
  | .alternation [f] => piece backward f
  | .alternation (f :: g :: rest) =>
    let all := f :: g :: rest
    match all.mapM literalBytes? with
    | some literals => literalsPiece backward literals
    | none => do
      let e ← piece backward f
      let e' ← piece backward g
      let _ ← addState 0
      let _ ← addState 0
      addAlternative
      connect e
      addAlternative
      connect e'
      let ends ← piecesForward backward rest
      for e in ends do
        addAlternative
        connect e
      return false

/-- Counts forms in order; gives whether each end branches. -/
def piecesForward (backward : Bool) : List Form → TallyM (List Bool)
  | [] => pure []
  | f :: fs => do
    let e ← piece backward f
    let es ← piecesForward backward fs
    return e :: es

/-- Counts forms from the last to the first; gives whether each end branches, in the order
counted. -/
def piecesBackward (backward : Bool) : List Form → TallyM (List Bool)
  | [] => pure []
  | f :: fs => do
    let es ← piecesBackward backward fs
    let e ← piece backward f
    return es ++ [e]

end

/-- Counts a whole automaton: a loop over any byte in front, unless every match is anchored at
the start it reads from; the form, inside the group of the whole match when reading forwards; and
the match state. -/
def automaton (backward : Bool) (f : Form) : TallyM Unit := do
  let anchored := if backward then f.endsAnchored else f.startsAnchored
  let front ← if anchored then do
      let _ ← addState 0
      pure false
    else atLeast (do
      let _ ← addState 0
      let _ ← addState rangeBytes
      return false) true 0
  let e ← piece backward (if backward then f else .capture f)
  let _ ← addState 0
  connect e
  connect front

/-- Whether the automaton of a form, forwards or backwards, stays within a memory limit. -/
def fitsIn (limit : Nat) (backward : Bool) (f : Form) : Bool :=
  match (automaton backward f).run { limit } with
  | .ok _ => true
  | .error _ => false

/-- Whether both automata of a form stay within the size limit. -/
def Form.fitsSizeLimit (f : Form) : Bool :=
  fitsIn sizeLimit false f && fitsIn sizeLimit true f

theorem automaton_run_zero (backward : Bool) (f : Form) :
    (automaton backward f).run { limit := 0 } = .error () := by
  unfold automaton
  cases backward <;> simp only [Bool.false_eq_true, ↓reduceIte] <;> split <;> rfl

theorem fitsIn_zero (backward : Bool) (f : Form) : fitsIn 0 backward f = false := by
  simp [fitsIn, automaton_run_zero]

end ManifestLint.Pattern

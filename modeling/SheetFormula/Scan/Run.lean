import SheetFormula.Scan.Step

/-!
# Scanning a formula

A scan is a list of moves: one for every step over the text and two for its
end.  A lenient scan makes all of them and keeps what departs as unknown
tokens.  A strict scan stops at the first departure.
-/

namespace SheetFormula.Scan

/-- Whether a scan stops after a move. -/
def Move.stops (strict : Bool) (move : Move) : Bool :=
  strict && move.departure.isSome

/-- The moves over a text from a state on. -/
def reading (strict : Bool) (state : State) : List Char → List Move
  | [] => []
  | char :: tail =>
      let move := step state char tail
      if move.stops strict then [move]
      else move :: reading strict move.next (tail.drop move.extra)
termination_by text => text.length
decreasing_by simp only [List.length_drop, List.length_cons]; omega

/-- The state that some moves lead to. -/
def lastState (state : State) (moves : List Move) : State :=
  (moves.getLast?.map Move.next).getD state

/-- The moves at the end of a text. -/
def finishing (strict : Bool) (text : List Char) (state : State) : List Move :=
  let literal := closeLiteral text state
  if literal.stops strict then [literal]
  else [literal, closeGroups text literal.next]

/-- The moves over a whole text and its end. -/
def moves (strict : Bool) (text : List Char) : List Move :=
  let read := reading strict .initial text
  if read.any (Move.stops strict) then read
  else read ++ finishing strict text (lastState .initial read)

/-- The departures among some moves, in order. -/
def departures (moves : List Move) : List Departure :=
  moves.filterMap Move.departure

/-- The entries that a move leaves. -/
def Move.entries (strict : Bool) (move : Move) : List Entry :=
  if strict then move.emitted else move.emitted ++ move.recovered

/-- The entries that some moves leave. -/
def entries (strict : Bool) (moves : List Move) : List Entry :=
  moves.flatMap (Move.entries strict)

/-- The entries of a text with the departures that were passed over. -/
structure Lenient where
  entries : List Entry
  departures : List Departure
deriving DecidableEq, Repr

/-- Scan a text to its end, whatever departs. -/
def lenient (text : List Char) : Lenient :=
  let made := moves false text
  ⟨entries false made, departures made⟩

/-- Scan a text that has to be well formed. -/
def strict (text : List Char) : Except Departure (List Entry) :=
  let made := moves true text
  match departures made with
  | departure :: _ => .error departure
  | [] => .ok (entries true made)

/-- Scan a text in one of the two ways. -/
def scan (isStrict : Bool) (text : List Char) : Except Departure (List Entry) :=
  if isStrict then strict text else .ok (lenient text).entries

/-- The departures that a scan remarks on. -/
def remarks (isStrict : Bool) (text : List Char) : List Departure :=
  if isStrict then [] else (lenient text).departures

/-! ## Watching a scan -/

/-- The state after a move and the number of entries so far. -/
structure Snapshot where
  state : State
  entryCount : Nat
deriving DecidableEq, Repr

/--
What can be watched of a scan: a snapshot after every step and after the end,
the departure it stopped at, if any, and the entries it left.
-/
structure Trace where
  snapshots : List Snapshot
  stopped : Option Departure
  entries : List Entry
deriving DecidableEq, Repr

/-- Snapshots after each of some moves, with a number of entries before them. -/
def snapshots (strict : Bool) (count : Nat) : List Move → List Snapshot
  | [] => []
  | move :: rest =>
      let total := count + (move.entries strict).length
      ⟨move.next, total⟩ :: snapshots strict total rest

/-- Watch a scan.  The two moves at the end count as one step. -/
def trace (strict : Bool) (text : List Char) : Trace :=
  let read := reading strict .initial text
  let made := moves strict text
  let left := entries strict made
  let steps := snapshots strict 0 (read.filter fun move => !move.stops strict)
  match made.find? (Move.stops strict) with
  | some move => ⟨steps, move.departure, left⟩
  | none => ⟨steps ++ [⟨lastState .initial made, left.length⟩], none, left⟩

end SheetFormula.Scan

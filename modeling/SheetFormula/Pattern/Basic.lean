/-!
# Patterns

A pattern describes texts.  It is a tree of characters, classes, groups,
alternatives, repetitions, references to what a group matched, and conditions
on the place.  The flags under which a part was written are kept with it.
-/

namespace SheetFormula.Pattern

/-- Switches that change how a pattern is read or matched. -/
inductive Flag where
  | ignoreCase
  | locale
  | multiline
  | dotAll
  | verbose
  | ascii
  | template
  | unicode
deriving DecidableEq, Repr

/-- The flag that a letter stands for. -/
def Flag.ofChar? : Char → Option Flag
  | 'i' => some .ignoreCase
  | 'L' => some .locale
  | 'm' => some .multiline
  | 's' => some .dotAll
  | 'x' => some .verbose
  | 'a' => some .ascii
  | 't' => some .template
  | 'u' => some .unicode
  | _ => none

/-- Flags of which only one can be on. -/
def Flag.isAlphabet : Flag → Bool
  | .ascii | .locale | .unicode => true
  | _ => false

/-- The flags that are on. -/
abbrev Flags := List Flag

/-- Flags with some turned on and some turned off. -/
def Flags.change (flags added removed : Flags) : Flags :=
  let kept := if added.any Flag.isAlphabet then flags.filter (!·.isAlphabet) else flags
  (added ++ kept).filter fun flag => !removed.contains flag

/-- Classes of characters with a letter of their own. -/
inductive Category where
  | digit
  | space
  | word
deriving DecidableEq, Repr

/-- A member of a character class; characters are given by code points. -/
inductive ClassItem where
  | code (code : Nat)
  | range (first last : Nat)
  | category (negated : Bool) (category : Category)
deriving DecidableEq, Repr

/-- Conditions on a place in a text. -/
inductive Anchor where
  | lineStart
  | lineEnd
  | textStart
  | textEnd
  | boundary
  | notBoundary
deriving DecidableEq, Repr

/-- Which number of repetitions is tried first, and whether others are tried. -/
inductive Greed where
  | greedy
  | lazy
  | possessive
deriving DecidableEq, Repr

/-- A pattern. -/
inductive Node where
  | empty
  | any (flags : Flags)
  | set (flags : Flags) (negated : Bool) (items : List ClassItem)
  | sequence (first second : Node)
  | choice (first second : Node)
  | repetition (greed : Greed) (least : Nat) (most : Option Nat) (body : Node)
  | group (number : Option Nat) (body : Node)
  | atomic (body : Node)
  | reference (flags : Flags) (number : Nat)
  | condition (number : Nat) (met unmet : Node)
  | lookAhead (negated : Bool) (body : Node)
  | lookBehind (negated : Bool) (least most : Nat) (body : Node)
  | anchor (flags : Flags) (anchor : Anchor)
deriving Repr

namespace Node

/-- Items one after the other. -/
def ofItems : List Node → Node
  | [] => .empty
  | [item] => item
  | item :: rest => .sequence item (ofItems rest)

/-- Alternatives in the order in which they are tried. -/
def ofChoices : List Node → Node
  | [] => .empty
  | [branch] => branch
  | branch :: rest => .choice branch (ofChoices rest)

end Node

/-! ## Widths -/

/-- A number of repetitions that stands for no limit. -/
def unlimited : Nat := 4294967295

/-- Widths are counted up to this number. -/
def widthLimit : Nat := 18446744073709551616

/-- The least and the greatest number of characters that a pattern can match. -/
structure Width where
  least : Nat
  most : Nat
deriving DecidableEq, Repr

/-- Widths of patterns one after the other. -/
def Width.add (first second : Width) : Width :=
  ⟨min (first.least + second.least) widthLimit, min (first.most + second.most) widthLimit⟩

/-- Widths of alternatives. -/
def Width.either (first second : Width) : Width :=
  ⟨min first.least second.least, max first.most second.most⟩

/-- The width of a pattern, given the widths of the groups it refers to. -/
def Node.width (groups : Nat → Width) : Node → Width
  | .empty => ⟨0, 0⟩
  | .any _ | .set _ _ _ => ⟨1, 1⟩
  | .sequence first second => (first.width groups).add (second.width groups)
  | .choice first second => (first.width groups).either (second.width groups)
  | .repetition _ least most body =>
      let inner := body.width groups
      let upper :=
        match most with
        | some most => inner.most * most
        | none => if inner.most = 0 then 0 else widthLimit
      ⟨min (inner.least * least) widthLimit, min upper widthLimit⟩
  | .group _ body | .atomic body => body.width groups
  | .reference _ number => groups number
  | .condition _ met unmet => (met.width groups).either (unmet.width groups)
  | .lookAhead _ _ | .lookBehind _ _ _ _ | .anchor _ _ => ⟨0, 0⟩

/-- A pattern together with its groups. -/
structure Compiled where
  root : Node
  groupCount : Nat
  names : List (List Char × Nat)
deriving Repr

end SheetFormula.Pattern

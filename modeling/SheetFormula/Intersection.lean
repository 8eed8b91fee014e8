import SheetFormula.Token

/-!
# Intersections

A blank between two expressions that can be ranges is the intersection
operator; every other blank means nothing.  What counts are the nearest tokens
on both sides that are no blanks.
-/

namespace SheetFormula

/-- Whether a token can end an expression that is a range. -/
def Token.endsRange (token : Token) : Bool :=
  token.kind == .operand || (token.isStop && token.isGroup)

/-- Whether a token can start an expression that is a range. -/
def Token.startsRange (token : Token) : Bool :=
  token.kind == .operand || (token.isStart && token.isGroup)

/-- Whether a token is a blank. -/
def Token.isBlank (token : Token) : Bool :=
  token.kind == .blank

/-- The intersection operator that a blank becomes. -/
def Token.asIntersection (blank : Token) : Token :=
  ⟨.infixOp, blank.value, some .intersect⟩

namespace Intersection

/-- Resolve the blanks of a list whose last token before it, blanks apart, is known. -/
def resolveAfter (left : Option Token) : List Token → List Token
  | [] => []
  | token :: rest =>
      if token.isBlank then
        let right := rest.find? fun other => !other.isBlank
        if left.any Token.endsRange && right.any Token.startsRange then
          token.asIntersection :: resolveAfter left rest
        else
          resolveAfter left rest
      else
        token :: resolveAfter (some token) rest

/-- Turn blanks into intersections where they are, and drop the others. -/
def resolve (tokens : List Token) : List Token :=
  resolveAfter none tokens

@[simp]
theorem resolve_nil : resolve [] = [] := rfl

end Intersection

end SheetFormula

import MediaMarkup.Value.Json
import MediaMarkup.Value.Literal

/-!
Structured attribute values: named properties in order, as they stand in an object literal.
-/

namespace MediaMarkup

/-- The properties as they were given; a name may occur more than once. -/
structure Expression where
  properties : List (String × Value)
  deriving Repr

namespace Expression

def toEntries (expression : Expression) : Entries Value :=
  .ofList expression.properties

def renderProperty (property : String × Value) : List Char :=
  property.1.toList ++ ':' :: property.2.toJson

/-- The object literal: names as they are, values as JSON. -/
def render (expression : Expression) : String :=
  .ofList ('\x7b' :: Text.join [','] (expression.properties.map renderProperty) ++ ['\x7d'])

def same (a b : Expression) : Bool :=
  a.properties.length == b.properties.length &&
    (a.properties.zip b.properties).all (fun (p, q) => p.1 == q.1 && p.2.same q.2)

/-- The text that shows an expression in messages. -/
def display (expression : Expression) : String :=
  .ofList ("StructuredExpression(".toList ++ Value.pairsToLiteral expression.properties ++ [')'])

end Expression

end MediaMarkup

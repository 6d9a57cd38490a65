import MediaMarkup.Value.Json
import MediaMarkup.Text.Quoted

/-!
Structured data as it is shown in messages: quoted texts and capitalised words for the constants.
-/

namespace MediaMarkup.Value

def quotedName (name : String) : List Char :=
  Text.quoted name.toList

mutual

def toLiteral : Value → List Char
  | .null => "None".toList
  | .boolean b => (if b then "True" else "False").toList
  | .integer n => integerText n
  | .float x => x.text "inf".toList
  | .text s => quotedName s
  | .list items => '[' :: Text.join ", ".toList (itemsToLiteral items) ++ [']']
  | .object members => '\x7b' :: Text.join ", ".toList (membersToLiteral members) ++ ['\x7d']

def itemsToLiteral : List Value → List (List Char)
  | [] => []
  | item :: rest => toLiteral item :: itemsToLiteral rest

def membersToLiteral : List (String × Value) → List (List Char)
  | [] => []
  | (name, value) :: rest =>
    (quotedName name ++ ": ".toList ++ toLiteral value) :: membersToLiteral rest

end

/-- Named values as a list of pairs. -/
def pairsToLiteral (pairs : List (String × Value)) : List Char :=
  let shown := pairs.map fun (name, value) =>
    '(' :: quotedName name ++ ", ".toList ++ toLiteral value ++ [')']
  '[' :: Text.join ", ".toList shown ++ [']']

end MediaMarkup.Value

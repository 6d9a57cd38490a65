import MediaMarkup.Attribute.Expression

/-!
The attributes of an element in order.
-/

namespace MediaMarkup

inductive Attribute
  | text (value : String)
  /-- Written without a value, and read as an empty one. -/
  | bare
  | expression (value : Expression)
  deriving Repr

namespace Attribute

/-- Expressions have no text. -/
def text? : Attribute → Option String
  | .text value => some value
  | .bare => some ""
  | .expression _ => none

/-- The value as another element takes it over: an empty text is then written out. -/
def copied : Attribute → Attribute
  | .bare => .text ""
  | value => value

end Attribute

abbrev Attributes := Entries Attribute

namespace Attributes

def text? (name : String) (attributes : Attributes) : Option String :=
  (Entries.get? name attributes).bind Attribute.text?

def setText (name value : String) (attributes : Attributes) : Attributes :=
  Entries.put name (.text value) attributes

def copied (attributes : Attributes) : Attributes :=
  attributes.map fun entry => (entry.1, entry.2.copied)

/-! ## Texts after an edit -/

theorem text?_setText_self (name value : String) (attributes : Attributes) :
    (attributes.setText name value).text? name = some value := by
  rw [text?, setText, Entries.get?_put_self]
  rfl

theorem text?_setText_of_ne {name other : String} (h : other ≠ name) (value : String)
    (attributes : Attributes) : (attributes.setText name value).text? other =
      attributes.text? other := by
  rw [text?, setText, Entries.get?_put_of_ne h]
  rfl

/-- Writing the text that is there changes nothing, unless it is an empty one. -/
theorem setText_of_text? {name value : String} {attributes : Attributes}
    (h : attributes.text? name = some value) (nonempty : value ≠ "") :
    attributes.setText name value = attributes := by
  apply Entries.put_of_get?
  obtain ⟨old, present, text⟩ := Option.bind_eq_some_iff.mp h
  rw [present]
  cases old with
  | text _ => exact congrArg (some ∘ Attribute.text) (Option.some.inj text)
  | bare => exact absurd (Option.some.inj text).symm nonempty
  | expression _ => cases text

theorem text?_erase_self (name : String) (attributes : Attributes) :
    Attributes.text? name (Entries.erase name attributes) = none := by
  rw [text?, Entries.get?_erase_self]
  rfl

theorem text?_erase_of_ne {name other : String} (h : other ≠ name) (attributes : Attributes) :
    Attributes.text? other (Entries.erase name attributes) = attributes.text? other := by
  rw [text?, Entries.get?_erase_of_ne h]
  rfl

theorem text?_copied (name : String) (attributes : Attributes) :
    attributes.copied.text? name = attributes.text? name := by
  induction attributes with
  | nil => rfl
  | cons entry rest ih =>
    simp only [text?, copied] at ih ⊢
    by_cases h : entry.1 = name
    · cases value : entry.2 <;> simp [Entries.get?, h, value, Attribute.copied, Attribute.text?]
    · simp [Entries.get?, h, ih]

end Attributes

end MediaMarkup

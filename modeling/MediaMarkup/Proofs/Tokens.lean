import Mathlib
import MediaMarkup.Proofs.Escapes

/-!
What the readers of HTML leave to be read, and what they give. Every token takes at least a
character, so that the bound on their number never shows (`tokensIn_eq`); names come in lower case,
and no token holds what the source was freed of.
-/

namespace MediaMarkup.Html

/-! ## Letters -/

/-- A character of a name in a tag, once it is read. -/
def isTagChar (c : Char) : Bool :=
  !isSpace c && c ≠ '/' && c ≠ '>' && c.toLower = c && isNormal [c]

variable {tag : String} {cs rest : List Char}

/-- The tokens of a text in an element. -/
def tokensIn (tag : String) (cs : List Char) : List Token :=
  readTokens (cs.length + 1) tag cs

/-- A name of an element as it is read. -/
structure IsTagName (tag : String) : Prop where
  letter : tag.toList.head?.any Char.isAlpha = true
  chars : tag.toList.all isTagChar = true

/-- A name of an attribute as it is read. -/
structure IsAttributeName (name : String) : Prop where
  nonempty : name ≠ ""
  chars : name.toList.all isTagChar = true
  oneSign : '=' ∉ name.toList.tail

/-- An attribute as it is read: without a value it is empty, unless it is a switch. -/
structure IsAttribute (entry : String × Attribute) : Prop where
  name : IsAttributeName entry.1
  value : (∃ text, entry.2 = .text text) ∨ (entry.2 = .bare ∧ isSwitch entry.1 = false)

/-- Attributes as they are read. -/
structure AreAttributes (attributes : Attributes) : Prop where
  distinct : attributes.names.Nodup
  each : ∀ entry ∈ attributes, IsAttribute entry

theorem AreAttributes.add {attributes : Attributes} {name : String} {value : Attribute}
    (given : AreAttributes attributes) (new : IsAttribute (name, value)) :
    AreAttributes (if (attributes.get? name).isSome then attributes
      else attributes.put name value) := by
  split
  · exact given
  · rename_i absent
    rw [Entries.isSome_get?] at absent
    rw [Entries.put_of_notMem absent]
    refine ⟨?_, ?_⟩
    · rw [Entries.names, List.map_append, List.nodup_append]
      refine ⟨given.distinct, by simp, ?_⟩
      intro other mem _ same known
      rw [List.map_singleton, List.mem_singleton] at same
      subst same known
      exact absent mem
    · intro entry mem
      rcases List.mem_append.mp mem with mem | mem
      · exact given.each entry mem
      · exact List.mem_singleton.mp mem ▸ new

/-- Whether a comment ends right where it starts. -/
def endsAtOnce : List Char → Bool
  | '>' :: _ | '-' :: '>' :: _ => true
  | _ => false

/-- A comment as it is read: its text has no end in it. -/
structure IsComment (text : List Char) : Prop where
  goesOn : endsAtOnce text = false
  whole : readCommentEnd text = (text, [])
  normal : isNormal text = true

end MediaMarkup.Html

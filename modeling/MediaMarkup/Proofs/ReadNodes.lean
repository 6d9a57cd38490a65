import MediaMarkup.Proofs.Tokens

/-!
What documents look like that were read from HTML, whatever the source: every element stands where
its tag lets it stand, holds what its tag lets it hold, and has each of its attributes once
(`exists_readFragment`). The reader keeps this for all open elements at once (`Stacked`).
-/

namespace MediaMarkup.Html

/-! ## Plain texts -/

variable {tag cs : List Char}

/-- A head as it is read. -/
structure IsHead (head : Head) : Prop where
  name : IsTagName head.tag
  noFrame : head.tag ∉ Reading.frameTags
  attributes : AreAttributes head.attributes
  unmarked : head.mark = none

/-- An element holds what its tag lets it hold. -/
structure Holds (head : Head) (children : List Node) : Prop where
  void : isVoid head.tag = true → head.text = "" ∧ children = []
  childless : contentOf head.tag ≠ .markup → children = []
  whole : contentOf head.tag = .plain →
    readPlain head.tag.toList head.text.toList = (head.text.toList, [])

/-- A node as it is read in an element with the given tag. -/
inductive IsRead : String → Node → Prop
  | element {parent : String} {head : Head} {children : List Node} {tail : String}
    (isHead : IsHead head) (holds : Holds head children) (stays : head.tag ∉ ends parent)
    (inner : ∀ child ∈ children, IsRead head.tag child) :
    IsRead parent (.element head children tail)
  | comment {parent text tail : String} (isComment : IsComment text.toList) :
    IsRead parent (.comment text tail)

theorem IsRead.withTail {parent : String} {node : Node} (isRead : IsRead parent node)
    (tail : String) : IsRead parent (node.withTail tail) := by
  cases isRead with
  | element isHead holds stays inner => exact .element isHead holds stays inner
  | comment isComment => exact .comment isComment

/-! ## Open elements -/

/-- An open element holds what its tag lets it hold. -/
structure Opened.Sound (opened : Opened) : Prop where
  isHead : IsHead opened.head
  opens : isVoid opened.head.tag = false
  holds : Holds opened.head opened.children
  inner : ∀ child ∈ opened.children, IsRead opened.head.tag child

/-- Open elements, innermost first: each stands in the next one, the last one is around all. -/
inductive Stacked : List Opened → Prop
  | all {opened : Opened} (sound : opened.Sound)
    (container : opened.head = .new "div" [] opened.head.text) : Stacked [opened]
  | inside {opened parent : Opened} {outer : List Opened} (sound : opened.Sound)
    (stays : opened.head.tag ∉ ends parent.head.tag)
    (markup : contentOf parent.head.tag = .markup) (below : Stacked (parent :: outer)) :
    Stacked (opened :: parent :: outer)

namespace Stacked

variable {opened other : Opened} {outer : List Opened}

theorem sound (stacked : Stacked (opened :: outer)) : opened.Sound := by
  cases stacked with
  | all sound => exact sound
  | inside sound => exact sound

/-- What is read into the innermost element leaves the others. -/
theorem replace (stacked : Stacked (opened :: outer)) (sound : other.Sound)
    (same : other.head = { opened.head with text := other.head.text }) :
    Stacked (other :: outer) := by
  cases stacked with
  | all _ container =>
    refine .all sound ?_
    rw [same, container]
    rfl
  | inside _ stays markup below =>
    refine .inside sound ?_ markup below
    rw [same]
    exact stays

end Stacked

namespace Opened

variable {tag : String} {attributes : Attributes}

namespace Sound

variable {opened : Opened}

theorem holds_of_markup {head : Head} (markup : contentOf head.tag = .markup)
    (opens : isVoid head.tag = false) (children : List Node) : Holds head children :=
  ⟨fun void => absurd (opens.symm.trans void) Bool.false_ne_true,
    fun noMarkup => absurd markup noMarkup,
    fun plain => absurd (markup.symm.trans plain) (by decide)⟩

theorem addNode (sound : opened.Sound) (markup : contentOf opened.head.tag = .markup)
    {node : Node} (isRead : IsRead opened.head.tag node) : (opened.addNode node).Sound :=
  ⟨sound.isHead, sound.opens, holds_of_markup markup sound.opens _,
    List.forall_mem_cons.mpr ⟨isRead, sound.inner⟩⟩

theorem addText (sound : opened.Sound) (markup : contentOf opened.head.tag = .markup)
    (text : String) : (opened.addText text).Sound := by
  obtain ⟨head, children⟩ := opened
  cases children with
  | nil =>
    refine ⟨⟨sound.isHead.name, sound.isHead.noFrame, sound.isHead.attributes,
      sound.isHead.unmarked⟩, sound.opens, ?_, by simp [Opened.addText]⟩
    apply holds_of_markup
    · exact markup
    · exact sound.opens
  | cons last before =>
    obtain ⟨first, others⟩ := List.forall_mem_cons.mp sound.inner
    exact ⟨sound.isHead, sound.opens, holds_of_markup markup sound.opens _,
      List.forall_mem_cons.mpr ⟨first.withTail _, others⟩⟩

theorem node (sound : opened.Sound) {parent : String} (stays : opened.head.tag ∉ ends parent) :
    IsRead parent opened.node := by
  refine .element sound.isHead ⟨?_, ?_, sound.holds.whole⟩ stays fun child mem =>
    sound.inner child (List.mem_reverse.mp mem)
  · exact fun void => absurd (sound.opens.symm.trans void) Bool.false_ne_true
  · intro noMarkup
    rw [sound.holds.childless noMarkup, List.reverse_nil]

end Sound

/-- An element that ends is a child of the one around it. -/
theorem stacked_close {inner parent : Opened} {outer : List Opened}
    (stacked : Stacked (inner :: parent :: outer)) :
    Stacked (parent.addNode inner.node :: outer) := by
  cases stacked with
  | inside sound stays markup below =>
    exact below.replace (below.sound.addNode markup (sound.node stays)) rfl

theorem head_addText (text : String) (opened : Opened) :
    (opened.addText text).head =
      { opened.head with text := (opened.addText text).head.text } := by
  obtain ⟨head, children⟩ := opened
  cases children <;> rfl

end Opened

/-! ## Ending elements -/

namespace Reading

variable {reading : Reading}

/-- Adds a node to the innermost element. -/
def addNode (node : Node) (reading : Reading) : Reading :=
  { reading with inner := reading.inner.addNode node }

/-- Adds text to the innermost element, behind all that is there. -/
def addText (text : String) (reading : Reading) : Reading :=
  { reading with inner := reading.inner.addText text }

/-- The open elements stand in each other. -/
def InOrder (reading : Reading) : Prop :=
  Stacked (reading.inner :: reading.outer)

/-- The open elements stand in each other, and text is read for markup. -/
structure InMarkup (reading : Reading) : Prop where
  stacked : reading.InOrder
  markup : contentOf reading.inner.head.tag = .markup

theorem InMarkup.addNode (inMarkup : reading.InMarkup) {node : Node}
    (isRead : IsRead reading.inner.head.tag node) :
    (reading.addNode node).InMarkup :=
  ⟨inMarkup.stacked.replace (inMarkup.stacked.sound.addNode inMarkup.markup isRead) rfl,
    inMarkup.markup⟩

theorem InMarkup.addText (inMarkup : reading.InMarkup) (text : String) :
    (reading.addText text).InMarkup := by
  have head := Opened.head_addText text reading.inner
  refine ⟨inMarkup.stacked.replace (inMarkup.stacked.sound.addText inMarkup.markup text) head, ?_⟩
  show contentOf (reading.inner.addText text).head.tag = .markup
  rw [head]
  exact inMarkup.markup

/-- Whatever the innermost element holds, markup is read behind it. -/
theorem inMarkup_close (stacked : reading.InOrder) (around : reading.outer ≠ []) :
    reading.close.InMarkup := by
  obtain ⟨inner, outer, passed⟩ := reading
  cases stacked with
  | all => exact absurd rfl around
  | inside sound stays markup below =>
    exact ⟨Opened.stacked_close (.inside sound stays markup below), markup⟩

theorem InMarkup.close (inMarkup : reading.InMarkup) : reading.close.InMarkup := by
  by_cases around : reading.outer = []
  · rw [Reading.close, around]
    exact inMarkup
  · exact inMarkup_close inMarkup.stacked around

theorem InMarkup.closeTimes (inMarkup : reading.InMarkup) (times : Nat) :
    (closeTimes times reading).InMarkup := by
  induction times generalizing reading with
  | zero => exact inMarkup
  | succ times ih => exact ih inMarkup.close

end Reading

end MediaMarkup.Html

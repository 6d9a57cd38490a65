import Mathlib.Data.List.DropRight
import MediaMarkup.Proofs.Cut

/-!
What is written in an element, one by one: the characters of its text and of the tails in it, and
its children without their tails (`Node.items`). The block media among them part it into stretches
(`Item.stretches_block`). A stretch that is not blank stays without the spaces at its edges
(`Item.tidy`); trimming a text and the last tail is taking these spaces off
(`Item.ofText_trimStart`, `Item.flatMap_trimLastTail`).
-/

namespace MediaMarkup

/-! ## What is written in an element -/

/-- A character of a text, or a child without its tail. -/
inductive Item
  | char (c : Char)
  | child (node : Node)

namespace Item

def isSpace : Item → Bool
  | .char c => c = ' '
  | .child _ => false

def isBlank : Item → Bool
  | .char c => Text.isBlank c
  | .child _ => false

def isBlockMedia : Item → Bool
  | .char _ => false
  | .child node => node.isBlockMedia

def ofText (text : String) : List Item :=
  text.toList.map .char

/-- A child and the text behind it. -/
def ofChild (node : Node) : List Item :=
  .child node.withoutTail :: ofText node.tail

def ofContent (text : String) (children : List Node) : List Item :=
  ofText text ++ children.flatMap ofChild

/-- A stretch without the spaces at its edges. -/
def strip (stretch : List Item) : List Item :=
  (stretch.dropWhile isSpace).rdropWhile isSpace

/-- What stays of a stretch: nothing if it is blank. -/
def tidy (stretch : List Item) : List Item :=
  if stretch.all isBlank then [] else strip stretch

end Item

namespace Node

/-- What is written in an element, one by one. -/
def items : Node → List Item
  | .element head children _ => Item.ofContent head.text children
  | _ => []

/-- What is written before, between and behind the block media in an element. -/
def stretches (node : Node) : List (List Item) :=
  node.items.splitOnP Item.isBlockMedia

/-- The text before the first child. -/
def text (node : Node) : String :=
  (node.head?.map Head.text).getD ""

/-- The text at the end: behind the last child, or all of it without children. -/
def endText (node : Node) : String :=
  (node.children.getLast?.map tail).getD node.text

end Node

namespace Item

variable {text : String} {children front rest : List Node} {block : Node}

theorem all_isBlank_ofContent :
    (ofContent text children).all isBlank =
      (children.isEmpty && Text.isBlankText text.toList) := by
  rw [ofContent, List.all_append, ofText, List.all_map, Text.isBlankText]
  cases children with
  | nil => exact (Bool.and_true _).trans (Bool.true_and _).symm
  | cons child rest => exact Bool.and_false _

theorem noBlockMedia_ofText (text : String) : ∀ item ∈ ofText text, item.isBlockMedia = false := by
  intro item mem
  obtain ⟨c, -, rfl⟩ := List.mem_map.mp mem
  rfl

theorem noBlockMedia_ofContent (inline : children.any Node.isBlockMedia = false) :
    ∀ item ∈ ofContent text children, item.isBlockMedia = false := by
  intro item mem
  rcases List.mem_append.mp mem with inText | inChildren
  · exact noBlockMedia_ofText text item inText
  · obtain ⟨child, isChild, mem⟩ := List.mem_flatMap.mp inChildren
    rcases List.mem_cons.mp mem with rfl | inTail
    · rw [isBlockMedia, Node.withoutTail, Node.isBlockMedia_withTail]
      exact Bool.eq_false_iff.mpr (List.any_eq_false.mp inline child isChild)
    · exact noBlockMedia_ofText child.tail item inTail

/-- Without block media all is one stretch. -/
theorem stretches_inline (inline : children.any Node.isBlockMedia = false) :
    (ofContent text children).splitOnP isBlockMedia = [ofContent text children] :=
  List.splitOnP_eq_singleton (noBlockMedia_ofContent inline)

theorem isBlockMedia_child (isBlock : block.isBlockMedia = true) :
    isBlockMedia (.child block.withoutTail) = true := by
  rw [isBlockMedia, Node.withoutTail, Node.isBlockMedia_withTail, isBlock]

/-- A block medium ends a stretch, and its tail starts the next one. -/
theorem stretches_block (inline : front.any Node.isBlockMedia = false)
    (isBlock : block.isBlockMedia = true) :
    (ofContent text (front ++ block :: rest)).splitOnP isBlockMedia =
      ofContent text front :: (ofContent block.tail rest).splitOnP isBlockMedia := by
  have parted : ofContent text (front ++ block :: rest) =
      ofContent text front ++ .child block.withoutTail :: ofContent block.tail rest := by
    simp [ofContent, ofChild]
  rw [parted, List.splitOnP_append_cons _ _ (isBlockMedia_child isBlock), stretches_inline inline,
    List.singleton_append]

/-! ## Edges -/

theorem all_isBlank_dropWhile (stretch : List Item) :
    (stretch.dropWhile isSpace).all isBlank = stretch.all isBlank := by
  induction stretch with
  | nil => rfl
  | cons item rest ih =>
    rw [List.dropWhile_cons]
    split
    · rename_i space
      cases item with
      | char c =>
        have isBlank : Text.isBlank c = true := by
          rw [of_decide_eq_true space]
          decide
        rw [ih, List.all_cons, Item.isBlank, isBlank, Bool.true_and]
      | child => cases space
    · rfl

/-- Spaces are blank, so that what is blank without them was so before. -/
theorem all_isBlank_strip (stretch : List Item) :
    (strip stretch).all isBlank = stretch.all isBlank := by
  rw [strip, List.rdropWhile, List.all_reverse, all_isBlank_dropWhile, List.all_reverse,
    all_isBlank_dropWhile]

theorem head?_strip {stretch : List Item} {item : Item}
    (first : (strip stretch).head? = some item) : item.isSpace = false := by
  obtain ⟨behind, whole⟩ := List.rdropWhile_prefix isSpace (stretch.dropWhile isSpace)
  have visible := List.head?_dropWhile_not isSpace stretch
  rw [← whole, List.head?_append, ← strip, first, Option.some_or] at visible
  simpa using visible

theorem getLast?_strip {stretch : List Item} {item : Item}
    (last : (strip stretch).getLast? = some item) : item.isSpace = false := by
  have visible := List.head?_dropWhile_not isSpace (stretch.dropWhile isSpace).reverse
  rw [strip, List.rdropWhile, List.getLast?_reverse] at last
  rw [last] at visible
  exact visible

theorem ofText_trimStart (text : String) :
    ofText (Paragraph.trimStart text) = (ofText text).dropWhile isSpace := by
  rw [ofText, ofText, Paragraph.trimStart, String.toList_ofList, List.dropWhile_map]
  rfl

theorem ofText_trimEnd (text : String) :
    ofText (Paragraph.trimEnd text) = (ofText text).rdropWhile isSpace := by
  rw [ofText, ofText, Paragraph.trimEnd, String.toList_ofList, Text.dropRightWhile, List.rdropWhile,
    ← List.map_reverse, List.dropWhile_map, List.map_reverse]
  rfl

theorem dropWhile_append_children (items : List Item) (children : List Node) :
    (items ++ children.flatMap ofChild).dropWhile isSpace =
      items.dropWhile isSpace ++ children.flatMap ofChild := by
  have same : (children.flatMap ofChild).dropWhile isSpace = children.flatMap ofChild := by
    cases children <;> rfl
  rw [List.dropWhile_append, same]
  split
  · rename_i none
    rw [List.isEmpty_iff.mp none, List.nil_append]
  · rfl

/-- No child is dropped at the end. -/
theorem rdropWhile_append_child (front : List Item) (node : Node) (items : List Item) :
    (front ++ .child node :: items).rdropWhile isSpace =
      front ++ .child node :: items.rdropWhile isSpace := by
  have stops (items : List Item) :
      (items ++ .child node :: front.reverse).dropWhile isSpace =
        items.dropWhile isSpace ++ .child node :: front.reverse := by
    rw [List.dropWhile_append]
    split
    · rename_i none
      rw [List.isEmpty_iff.mp none]
      rfl
    · rfl
  simp [List.rdropWhile, stops]

theorem rdropWhile_append_children (front : List Item) (some : children ≠ []) :
    (front ++ children.flatMap ofChild).rdropWhile isSpace =
      front ++ (children.flatMap ofChild).rdropWhile isSpace := by
  obtain ⟨child, rest, rfl⟩ := List.exists_cons_of_ne_nil some
  have first := rdropWhile_append_child [] child.withoutTail
  simp only [List.nil_append] at first
  rw [List.flatMap_cons, ofChild, List.cons_append, rdropWhile_append_child, first]

theorem flatMap_trimLastTail (nodes : List Node) :
    (Paragraph.trimLastTail nodes).flatMap ofChild =
      (nodes.flatMap ofChild).rdropWhile isSpace := by
  fun_induction Paragraph.trimLastTail nodes with
  | case1 => rfl
  | case2 node =>
    have last := rdropWhile_append_child [] node.withoutTail (ofText node.tail)
    rw [List.nil_append, List.nil_append] at last
    rw [List.flatMap_singleton, List.flatMap_singleton, ofChild, ofChild, last, Node.tail_withTail,
      ofText_trimEnd, Node.withoutTail, Node.withTail_withTail, Node.withoutTail]
  | case3 node rest some ih =>
    rw [List.flatMap_cons, ih, List.flatMap_cons, rdropWhile_append_children _ some]

theorem getLast?_ofText {text : String} {c : Char} (last : text.toList.getLast? = some c) :
    (ofText text).getLast? = some (.char c) := by
  rw [ofText, List.getLast?_map, last, Option.map_some]

theorem mem_strip {stretch : List Item} {item : Item} (mem : item ∈ strip stretch) :
    item ∈ stretch :=
  (List.dropWhile_suffix _).subset ((List.rdropWhile_prefix _ _).subset mem)

theorem noBlockMedia_tidy (inline : children.any Node.isBlockMedia = false) :
    ∀ item ∈ tidy (ofContent text children), item.isBlockMedia = false := by
  intro item mem
  rw [tidy] at mem
  split at mem
  · cases mem
  · exact noBlockMedia_ofContent inline item (mem_strip mem)

end Item

/-! ## The text of an element and what is written in it -/

namespace Node

theorem head?_items {node : Node} {c : Char} (first : node.text.toList.head? = some c) :
    node.items.head? = some (.char c) := by
  cases node with
  | element head children tail =>
    have here : head.text.toList.head? = some c := first
    rw [items, Item.ofContent, Item.ofText, List.head?_append, List.head?_map, here]
    rfl
  | comment => cases first
  | instruction => cases first

theorem getLast?_items {node : Node} {c : Char} (last : node.endText.toList.getLast? = some c) :
    node.items.getLast? = some (.char c) := by
  cases node with
  | element head children tail =>
    rw [items, Item.ofContent]
    rcases List.eq_nil_or_concat' children with rfl | ⟨front, child, rfl⟩
    · rw [List.flatMap_nil, List.append_nil]
      exact Item.getLast?_ofText last
    · have behind : child.tail.toList.getLast? = some c := by
        simpa [endText, Node.children] using last
      rw [List.flatMap_append, List.flatMap_singleton, Item.ofChild, ← List.append_assoc,
        List.append_cons, List.getLast?_append, Item.getLast?_ofText behind, Option.some_or]
  | comment => cases last
  | instruction => cases last

theorem notBlank_of_items {node : Node} (written : node.items.all Item.isBlank = false) :
    node.children ≠ [] ∨ Text.isBlankText node.text.toList = false := by
  cases node with
  | element head children tail =>
    rw [items, Item.all_isBlank_ofContent, Bool.and_eq_false_iff,
      List.isEmpty_eq_false_iff] at written
    exact written
  | comment => cases written
  | instruction => cases written

end Node

end MediaMarkup

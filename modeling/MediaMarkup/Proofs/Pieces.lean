import Mathlib.Data.List.Chain
import MediaMarkup.Proofs.Stretches
import MediaMarkup.Proofs.Substance

/-!
The pieces of a paragraph. It is cut at its block media into stretches; each stretch that is not
blank stays in a paragraph of its own (`Paragraph.CutInto`). Main statements: the pieces are the
block media with these paragraphs between them (`splitsAtBlockMedia_split`), and the first paragraph
keeps the attributes unless the one that took them over is dropped as blank (`keepsAttributes_iff`).
-/

namespace MediaMarkup

/-- What a piece puts in the place of a paragraph: its content if it is one, else itself. -/
def Item.ofPiece (piece : Node) : List Item :=
  if piece.hasTag "p" then piece.items else [.child piece]

theorem Node.hasTag_element (tag : String) (head : Head) (children : List Node) (tail : String) :
    (element head children tail).hasTag tag = decide (head.tag = tag) :=
  decide_eq_decide.mpr Option.some_inj

/-! ## How a paragraph is cut -/

namespace Paragraph

variable {attributes : Attributes} {text : String} {children front rest pieces : List Node}
  {block : Node}

theorem isBlank_make :
    isBlank (make attributes text children) = (Item.ofContent text children).all Item.isBlank := by
  rw [Item.all_isBlank_ofContent]
  rfl

/-- The paragraph that stays of a text and children, if they are not blank. -/
def kept (attributes : Attributes) (text : String) (children : List Node) : List Node :=
  if isBlank (make attributes text children) then [] else [trim (make attributes text children)]

/-- A text and children are cut into pieces, of which the first may take over attributes. -/
inductive CutInto : Attributes → String → List Node → List Node → Prop
  | last {attributes : Attributes} {text : String} {children : List Node}
      (inline : children.any Node.isBlockMedia = false) :
      CutInto attributes text children (kept attributes text children)
  | block {attributes : Attributes} {text : String} {front rest pieces : List Node} {block : Node}
      (inline : front.any Node.isBlockMedia = false) (isBlock : block.isBlockMedia = true)
      (later : CutInto [] block.tail rest pieces) :
      CutInto attributes text (front ++ block :: rest)
        (kept attributes text front ++ block.withoutTail :: pieces)

theorem notParagraph_of_isBlockMedia (isBlock : block.isBlockMedia = true) :
    block.hasTag "p" = false := by
  cases block with
  | element head children tail =>
    by_contra isParagraph
    rw [Node.hasTag_element, Bool.not_eq_false, decide_eq_true_eq] at isParagraph
    rw [pieceTest_isBlockMedia.paragraph isParagraph] at isBlock
    cases isBlock
  | comment => rfl
  | instruction => rfl

theorem isBlank_of_notParagraph {piece : Node} (other : piece.hasTag "p" = false) :
    isBlank piece = false := by
  cases piece with
  | element head children tail =>
    rw [Node.hasTag_element, decide_eq_false_iff_not] at other
    simp [isBlank, other]
  | comment => rfl
  | instruction => rfl

theorem trim_of_notParagraph {piece : Node} (other : piece.hasTag "p" = false) :
    trim piece = piece := by
  cases piece with
  | element head children tail =>
    rw [Node.hasTag_element, decide_eq_false_iff_not] at other
    rw [trim, if_neg other]
  | comment => rfl
  | instruction => rfl

theorem notParagraph_lifted (isBlock : block.isBlockMedia = true) :
    block.withoutTail.hasTag "p" = false := by
  have same : block.withoutTail.hasTag "p" = block.hasTag "p" := by cases block <;> rfl
  rw [same, notParagraph_of_isBlockMedia isBlock]

/-- A node is cut at its block media, stretch by stretch. -/
theorem cutInto_cut (nodes : List Node) :
    ∀ (attributes : Attributes) (text : String) (gathered : List Node),
      gathered.any Node.isBlockMedia = false →
        CutInto attributes text (gathered ++ nodes)
          (((cut attributes text gathered nodes).filter fun piece => !isBlank piece).map trim) := by
  have first (piece : Node) (pieces : List Node) :
      ((piece :: pieces).filter fun piece => !isBlank piece).map trim =
        (if isBlank piece then [] else [trim piece]) ++
          (pieces.filter fun piece => !isBlank piece).map trim := by
    cases blank : isBlank piece <;> simp [blank]
  induction nodes with
  | nil =>
    intro attributes text gathered inline
    rw [cut, first, List.filter_nil, List.map_nil, List.append_nil, List.append_nil]
    exact .last inline
  | cons node rest ih =>
    intro attributes text gathered inline
    rw [cut]
    split
    · rename_i isBlock
      have other := notParagraph_lifted isBlock
      rw [first, List.filter_cons_of_pos (by simp [isBlank_of_notParagraph other]), List.map_cons,
        trim_of_notParagraph other]
      exact .block inline isBlock (ih [] node.tail [] rfl)
    · rename_i isInline
      rw [List.append_cons]
      exact ih attributes text (gathered ++ [node]) (by simp [inline, isInline])

theorem cutInto_split (head : Head) (children : List Node) (tail : String) :
    CutInto head.attributes.copied head.text children (split (.element head children tail)) :=
  cutInto_cut children _ _ [] rfl

/-! ## Paragraphs that stay -/

/-- Trimming changes the text and the last tail. -/
theorem trim_make : trim (make attributes text children) =
    make attributes (if children.isEmpty then trimEnd (trimStart text) else trimStart text)
      (trimLastTail children) := by
  cases children <;> rfl

theorem items_trim_make (attributes : Attributes) (text : String) (children : List Node) :
    (trim (make attributes text children)).items = Item.strip (Item.ofContent text children) := by
  rw [trim_make, make, Node.items, Item.strip, Item.ofContent, Item.ofContent,
    Item.dropWhile_append_children, ← Item.ofText_trimStart, Item.flatMap_trimLastTail]
  cases children with
  | nil =>
    have whole (text : String) : Item.ofText text ++ [].flatMap Item.ofChild = Item.ofText text :=
      List.append_nil _
    rw [whole, ← Item.ofText_trimEnd]
    exact whole _
  | cons child rest => exact (Item.rdropWhile_append_children _ (List.cons_ne_nil child rest)).symm

/-- A paragraph as it stays: without block media, not blank, and without spaces at its edges. -/
structure IsTidy (paragraph : Node) : Prop where
  inline : paragraph.children.any Node.isBlockMedia = false
  notBlank : paragraph.children ≠ [] ∨ Text.isBlankText paragraph.text.toList = false
  start : paragraph.text.toList.head? ≠ some ' '
  ending : paragraph.endText.toList.getLast? ≠ some ' '

theorem isTidy_trim_make (attributes : Attributes)
    (inline : children.any Node.isBlockMedia = false)
    (written : (Item.ofContent text children).all Item.isBlank = false) :
    IsTidy (trim (make attributes text children)) := by
  have items := items_trim_make attributes text children
  refine ⟨?_, ?_, ?_, ?_⟩
  · rw [trim_make]
    exact (any_isBlockMedia_trimLastTail children).trans inline
  · apply Node.notBlank_of_items
    rw [items, Item.all_isBlank_strip, written]
  · intro first
    have space := Item.head?_strip (items ▸ Node.head?_items first)
    cases space
  · intro last
    have space := Item.getLast?_strip (items ▸ Node.getLast?_items last)
    cases space

theorem kept_of_blank (attributes : Attributes)
    (blank : (Item.ofContent text children).all Item.isBlank = true) :
    kept attributes text children = [] := by
  rw [kept, isBlank_make, if_pos blank]

theorem kept_of_written (attributes : Attributes)
    (written : (Item.ofContent text children).all Item.isBlank = false) :
    kept attributes text children = [trim (make attributes text children)] := by
  rw [kept, isBlank_make, written, if_neg (by decide)]

theorem isParagraph_of_mem_kept {piece : Node} (mem : piece ∈ kept attributes text children) :
    piece.hasTag "p" = true := by
  rw [kept] at mem
  split at mem
  · cases mem
  · rw [List.mem_singleton] at mem
    rw [mem, trim_make]
    rfl

theorem isTidy_of_mem_kept {piece : Node} (inline : children.any Node.isBlockMedia = false)
    (mem : piece ∈ kept attributes text children) : IsTidy piece := by
  cases blank : (Item.ofContent text children).all Item.isBlank with
  | true =>
    rw [kept_of_blank attributes blank] at mem
    cases mem
  | false =>
    rw [kept_of_written attributes blank, List.mem_singleton] at mem
    exact mem ▸ isTidy_trim_make attributes inline blank

/-- A paragraph that stays has what stays of its stretch. -/
theorem flatMap_ofPiece_kept (attributes : Attributes) (text : String) (children : List Node) :
    (kept attributes text children).flatMap Item.ofPiece =
      Item.tidy (Item.ofContent text children) := by
  rw [Item.tidy]
  cases blank : (Item.ofContent text children).all Item.isBlank with
  | true => rw [kept_of_blank attributes blank, if_pos rfl, List.flatMap_nil]
  | false =>
    rw [kept_of_written attributes blank, if_neg (by decide), List.flatMap_singleton,
      ← items_trim_make attributes, Item.ofPiece, if_pos]
    rw [trim_make]
    rfl

/-! ## All pieces -/

namespace CutInto

theorem blockMedia (cut : CutInto attributes text children pieces) :
    pieces.filter (fun piece => !piece.hasTag "p") =
      (children.filter Node.isBlockMedia).map Node.withoutTail := by
  have noOther (attributes : Attributes) (text : String) (children : List Node) :
      (kept attributes text children).filter (fun piece => !piece.hasTag "p") = [] := by
    rw [List.filter_eq_nil_iff]
    intro piece mem
    rw [isParagraph_of_mem_kept mem]
    decide
  have noBlock {children : List Node} (inline : children.any Node.isBlockMedia = false) :
      children.filter Node.isBlockMedia = [] :=
    List.filter_eq_nil_iff.mpr (List.any_eq_false.mp inline)
  induction cut with
  | last inline => rw [noOther, noBlock inline, List.map_nil]
  | block inline isBlock later ih =>
    have other := notParagraph_lifted isBlock
    rw [List.filter_append, noOther, List.filter_append, noBlock inline, List.nil_append,
      List.nil_append, List.filter_cons_of_pos (by simp [other]), ih,
      List.filter_cons_of_pos isBlock, List.map_cons]

/-- No two paragraphs are neighbours. -/
theorem apart (cut : CutInto attributes text children pieces) :
    pieces.IsChain fun piece next => ¬(piece.hasTag "p" = true ∧ next.hasTag "p" = true) := by
  induction cut with
  | last inline =>
    rw [kept]
    split
    · exact .nil
    · exact .singleton _
  | @block attributes text front rest pieces block inline isBlock later ih =>
    have other : ¬block.withoutTail.hasTag "p" = true := by
      rw [notParagraph_lifted isBlock]
      decide
    have behind := List.isChain_cons.mpr ⟨fun next _ both => other both.1, ih⟩
    rw [kept]
    split
    · exact behind
    · exact List.isChain_cons_cons.mpr ⟨fun both => other both.2, behind⟩

theorem tidy (cut : CutInto attributes text children pieces) :
    ∀ piece ∈ pieces, piece.hasTag "p" = true → IsTidy piece := by
  induction cut with
  | last inline => exact fun piece mem _ => isTidy_of_mem_kept inline mem
  | block inline isBlock later ih =>
    intro piece mem isParagraph
    rcases List.mem_append.mp mem with mem | mem
    · exact isTidy_of_mem_kept inline mem
    · rcases List.mem_cons.mp mem with rfl | mem
      · rw [notParagraph_lifted isBlock] at isParagraph
        cases isParagraph
      · exact ih piece mem isParagraph

/-- Written one after the other, the pieces are what stays of the stretches. -/
theorem stretches (cut : CutInto attributes text children pieces) :
    (pieces.flatMap Item.ofPiece).splitOnP Item.isBlockMedia =
      ((Item.ofContent text children).splitOnP Item.isBlockMedia).map Item.tidy := by
  induction cut with
  | last inline =>
    rw [flatMap_ofPiece_kept, Item.stretches_inline inline,
      List.splitOnP_eq_singleton (Item.noBlockMedia_tidy inline), List.map_singleton]
  | block inline isBlock later ih =>
    have other := notParagraph_lifted isBlock
    rw [List.flatMap_append, flatMap_ofPiece_kept, List.flatMap_cons, Item.ofPiece, other,
      if_neg (by decide), List.singleton_append,
      List.splitOnP_append_cons _ _ (Item.isBlockMedia_child isBlock), ih,
      List.splitOnP_eq_singleton (Item.noBlockMedia_tidy inline),
      Item.stretches_block inline isBlock, List.map_cons, List.singleton_append]

end CutInto

end Paragraph

/-! ## Splitting -/

/-- What an element is split into: the block media among its children, and between, before and
behind them at most one paragraph each, which has what stays of the stretch there. -/
structure SplitsAtBlockMedia (element : Node) (pieces : List Node) : Prop where
  blockMedia : pieces.filter (fun piece => !piece.hasTag "p") =
    (element.children.filter Node.isBlockMedia).map Node.withoutTail
  apart : pieces.IsChain fun piece next => ¬(piece.hasTag "p" = true ∧ next.hasTag "p" = true)
  tidy : ∀ piece ∈ pieces, piece.hasTag "p" = true → Paragraph.IsTidy piece
  noTails : ∀ piece ∈ pieces, piece.tail = ""
  stretches : (pieces.flatMap Item.ofPiece).splitOnP Item.isBlockMedia =
    element.stretches.map Item.tidy

/-- **Splitting a paragraph.** Its block media are lifted out in their order, and all that is
written in it stays in paragraphs between them, but for blank stretches and the spaces at the edges
of the others. -/
theorem splitsAtBlockMedia_split (head : Head) (children : List Node) (tail : String) :
    SplitsAtBlockMedia (.element head children tail)
      (Paragraph.split (.element head children tail)) where
  blockMedia := (Paragraph.cutInto_split head children tail).blockMedia
  apart := (Paragraph.cutInto_split head children tail).apart
  tidy := (Paragraph.cutInto_split head children tail).tidy
  noTails := Paragraph.tail_of_mem_split rfl
  stretches := (Paragraph.cutInto_split head children tail).stretches

/-! ## Attributes -/

/-- The attributes of a paragraph. -/
def Paragraph.attributes? : Node → Option Attributes
  | .element head _ _ => if head.tag = "p" then some head.attributes else none
  | _ => none

/-- The first paragraph among pieces carries attributes, and no other one carries any. -/
def KeepsAttributes (attributes : Attributes) (pieces : List Node) : Prop :=
  match pieces.filterMap Paragraph.attributes? with
  | [] => True
  | first :: others => first = attributes ∧ ∀ other ∈ others, other = []

/-- Whether the first stretch is blank while a later one is not. -/
def Item.opensBlank : List (List Item) → Bool
  | [] => false
  | opening :: others => opening.all isBlank && others.any fun stretch => !stretch.all isBlank

namespace Paragraph

variable {attributes : Attributes} {text : String} {children pieces : List Node}

theorem filterMap_kept (attributes : Attributes) (text : String) (children : List Node) :
    (kept attributes text children).filterMap attributes? =
      if (Item.ofContent text children).all Item.isBlank then [] else [attributes] := by
  cases blank : (Item.ofContent text children).all Item.isBlank with
  | true => rw [kept_of_blank attributes blank, if_pos rfl, List.filterMap_nil]
  | false =>
    rw [kept_of_written attributes blank, if_neg (by decide), trim_make]
    rfl

theorem attributes?_of_notParagraph {piece : Node} (other : piece.hasTag "p" = false) :
    attributes? piece = none := by
  cases piece with
  | element head children tail =>
    rw [Node.hasTag_element, decide_eq_false_iff_not] at other
    rw [attributes?, if_neg other]
  | comment => rfl
  | instruction => rfl

theorem filterMap_block (attributes : Attributes) (text : String) (front pieces : List Node)
    {block : Node} (isBlock : block.isBlockMedia = true) :
    (kept attributes text front ++ block.withoutTail :: pieces).filterMap attributes? =
      (if (Item.ofContent text front).all Item.isBlank then [] else [attributes]) ++
        pieces.filterMap attributes? := by
  rw [List.filterMap_append, filterMap_kept, List.filterMap_cons_none]
  exact attributes?_of_notParagraph (notParagraph_lifted isBlock)

namespace CutInto

theorem noAttributes (cut : CutInto attributes text children pieces) (none : attributes = []) :
    ∀ other ∈ pieces.filterMap attributes?, other = [] := by
  have alone (attributes : Attributes) (none : attributes = []) (blank : Bool) :
      ∀ other ∈ if blank then [] else [attributes], other = [] := by
    subst none
    cases blank <;> simp
  induction cut with
  | last inline =>
    rw [filterMap_kept]
    exact alone _ none _
  | block inline isBlock later ih =>
    rw [filterMap_block _ _ _ _ isBlock]
    intro other mem
    rcases List.mem_append.mp mem with mem | mem
    · exact alone _ none _ other mem
    · exact ih rfl other mem

/-- No paragraph stays just where all stretches are blank. -/
theorem filterMap_eq_nil (cut : CutInto attributes text children pieces) :
    pieces.filterMap attributes? = [] ↔
      ((Item.ofContent text children).splitOnP Item.isBlockMedia).any
        (fun stretch => !stretch.all Item.isBlank) = false := by
  induction cut with
  | @last attributes text children inline =>
    rw [filterMap_kept, Item.stretches_inline inline, List.any_cons, List.any_nil]
    cases (Item.ofContent text children).all Item.isBlank <;> simp
  | @block attributes text front rest pieces block inline isBlock later ih =>
    rw [filterMap_block _ _ _ _ isBlock, Item.stretches_block inline isBlock, List.any_cons,
      Bool.or_eq_false_iff, ← ih]
    cases (Item.ofContent text front).all Item.isBlank <;> simp

theorem keeps_iff (cut : CutInto attributes text children pieces) :
    KeepsAttributes attributes pieces ↔
      attributes = [] ∨
        Item.opensBlank ((Item.ofContent text children).splitOnP Item.isBlockMedia) = false := by
  cases cut with
  | last inline =>
    rw [KeepsAttributes, filterMap_kept, Item.stretches_inline inline]
    cases (Item.ofContent text children).all Item.isBlank <;> simp [Item.opensBlank]
  | @block _ _ front rest pieces block inline isBlock later =>
    rw [KeepsAttributes, filterMap_block _ _ _ _ isBlock, Item.stretches_block inline isBlock,
      Item.opensBlank]
    have bare := later.noAttributes rfl
    cases (Item.ofContent text front).all Item.isBlank with
    | false =>
      rw [if_neg (by decide), List.singleton_append]
      exact ⟨fun _ => .inr rfl, fun _ => ⟨rfl, bare⟩⟩
    | true =>
      -- The attributes went with the first stretch, so that the next paragraph has none.
      rw [Bool.true_and, ← later.filterMap_eq_nil, if_pos rfl, List.nil_append]
      cases found : pieces.filterMap attributes? with
      | nil => exact ⟨fun _ => .inr rfl, fun _ => trivial⟩
      | cons first others =>
        rw [found, List.forall_mem_cons] at bare
        constructor
        · rintro ⟨same, -⟩
          exact .inl (same.symm.trans bare.1)
        · rintro (none | none)
          · exact ⟨bare.1.trans none.symm, bare.2⟩
          · cases none

end CutInto

end Paragraph

/-- **When a split paragraph keeps its attributes.** The first paragraph among the pieces carries
them all and no other one any, unless what is written before the first block medium is blank, so
that the paragraph that took them over is dropped, and something else stays in a paragraph. -/
theorem keepsAttributes_iff (head : Head) (children : List Node) (tail : String) :
    KeepsAttributes head.attributes.copied (Paragraph.split (.element head children tail)) ↔
      head.attributes = [] ∨
        Item.opensBlank (Node.element head children tail).stretches = false := by
  have none : head.attributes.copied = [] ↔ head.attributes = [] := List.map_eq_nil_iff
  rw [(Paragraph.cutInto_split head children tail).keeps_iff, none]
  rfl

/-- A paragraph with a class that starts with a figure. -/
def figureFirst : Node :=
  .element (.new "p" [("class", .text "x")] "") [.element (.new "figure" [] "") [] "text"] ""

/-- Its class is lost with the paragraph before the figure. -/
theorem not_keepsAttributes_figureFirst :
    figureFirst.needsUnravelling = true ∧
      ¬KeepsAttributes [("class", .text "x")] (Paragraph.split figureFirst) := by
  refine ⟨by decide, fun keeps => ?_⟩
  have first : (Paragraph.split figureFirst).filterMap Paragraph.attributes? = [[]] := by rfl
  rw [KeepsAttributes, first] at keeps
  cases keeps.1

end MediaMarkup

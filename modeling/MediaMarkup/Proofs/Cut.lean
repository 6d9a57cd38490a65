import MediaMarkup.Proofs.Paragraphs

/-!
Which paragraphs unravelling leaves to be cut. A paragraph has to be cut if block media stand among
its children (`Search.uncut`), and its pieces have none among theirs. But pieces are not looked
into, and block media can come up to a paragraph that was passed already: `Search.leftover` finds
these cases before anything is unravelled. Main statement: they are the only ones in which one call
is not enough (`unravelledAtOnce_iff`); where paragraphs do not nest there are none
(`unravel_unravel`).
-/

namespace MediaMarkup

/-- The search for a paragraph that has to be cut. -/
def Search.uncut : Search := fun head children =>
  if head.tag = "p" ∧ children.any Node.isBlockMedia = true then some true else none

namespace Node

variable {head : Head} {children nodes : List Node} {tail : String}

theorem isBlockMedia_withTail (tail : String) (node : Node) :
    (node.withTail tail).isBlockMedia = node.isBlockMedia := by
  cases node <;> rfl

theorem needsUnravelling_element :
    (Node.element head children tail).needsUnravelling =
      (decide (head.tag = "p") && children.any isBlockMedia) := by
  simp [needsUnravelling, hasTag, tag?, head?, Node.children]

theorem finds_uncut_of_paragraph (isParagraph : head.tag = "p") :
    (Node.element head children tail).finds .uncut =
      (children.any isBlockMedia || findsAny .uncut children) := by
  rw [finds_element, Search.uncut]
  cases h : children.any isBlockMedia <;> simp [isParagraph]

theorem finds_uncut_of_other (other : head.tag ≠ "p") :
    (Node.element head children tail).finds .uncut = findsAny .uncut children :=
  finds_of_none (if_neg fun both => other both.1)

/-- Without paragraphs none has to be cut. -/
theorem findsAny_uncut_of_none (none : findsAny (.tagged "p") nodes = false) :
    findsAny .uncut nodes = false :=
  findsAny_eq_false_of_tagged (fun _ _ other => if_neg fun both => other both.1) none

/-- Where no paragraph has to be cut, unravelling changes nothing. -/
theorem unravelAll_of_cut (cut : findsAny .uncut nodes = false) : unravelAll nodes = nodes := by
  induction nodes using Node.inductionOnAll with
  | nil => rw [unravelAll]
  | element head children tail rest inner ih =>
    rw [findsAny_cons, Bool.or_eq_false_iff] at cut
    obtain ⟨first, later⟩ := cut
    have whole : (Node.element head children tail).needsUnravelling = false ∧
        findsAny .uncut children = false := by
      rw [needsUnravelling_element]
      by_cases isParagraph : head.tag = "p"
      · rw [finds_uncut_of_paragraph isParagraph, Bool.or_eq_false_iff] at first
        exact ⟨by rw [first.1, Bool.and_false], first.2⟩
      · rw [finds_uncut_of_other isParagraph] at first
        exact ⟨by simp [isParagraph], first⟩
    rw [unravelAll, if_neg (by simp [whole.1]), unravel, inner whole.2, ih later]
  | comment text tail rest ih =>
    rw [findsAny_cons, Bool.or_eq_false_iff] at cut
    rw [unravelAll_comment, ih cut.2]
  | instruction text tail rest ih =>
    rw [findsAny_cons, Bool.or_eq_false_iff] at cut
    rw [unravelAll_instruction, ih cut.2]

end Node

/-! ## Pieces -/

namespace Paragraph

variable {search : Search} {nodes pieces : List Node}

theorem findsAny_trimLastTail (nodes : List Node) :
    Node.findsAny search (trimLastTail nodes) = Node.findsAny search nodes := by
  fun_induction trimLastTail nodes with
  | case1 => rfl
  | case2 node => simp
  | case3 node rest _ ih => rw [Node.findsAny_cons, ih, Node.findsAny_cons]

theorem any_isBlockMedia_trimLastTail (nodes : List Node) :
    (trimLastTail nodes).any Node.isBlockMedia = nodes.any Node.isBlockMedia := by
  fun_induction trimLastTail nodes with
  | case1 => rfl
  | case2 node => simp [Node.isBlockMedia_withTail]
  | case3 node rest _ ih => rw [List.any_cons, ih, List.any_cons]

theorem finds_uncut_trim (piece : Node) : (trim piece).finds .uncut = piece.finds .uncut := by
  cases piece with
  | comment => rfl
  | instruction => rfl
  | element head children tail =>
    rw [trim]
    split
    · rename_i isParagraph
      have same (text : String) :
          (Node.element { head with text } children tail).finds .uncut =
            (Node.element head children tail).finds .uncut := by
        rw [Node.finds_uncut_of_paragraph isParagraph, Node.finds_uncut_of_paragraph]
        exact isParagraph
      dsimp only
      split
      · exact same _
      · rw [← same (trimStart head.text), Node.finds_uncut_of_paragraph,
          Node.finds_uncut_of_paragraph, findsAny_trimLastTail, any_isBlockMedia_trimLastTail]
        · exact isParagraph
        · exact isParagraph
    · rfl

theorem findsAny_onLines (tail : String) (pieces : List Node) :
    Node.findsAny search (onLines tail pieces) = Node.findsAny search pieces := by
  fun_induction onLines tail pieces with
  | case1 => rfl
  | case2 piece => simp
  | case3 piece rest _ ih => simp [ih]

/-- Among the pieces of a paragraph only those are left to be cut that were so within its children.
-/
theorem findsAny_uncut_cut (nodes : List Node) :
    ∀ (attributes : Attributes) (text : String) (gathered : List Node),
      gathered.any Node.isBlockMedia = false →
        Node.findsAny .uncut (cut attributes text gathered nodes) =
          (Node.findsAny .uncut gathered || Node.findsAny .uncut nodes) := by
  have make_eq (attributes : Attributes) (text : String) (gathered : List Node) :
      (make attributes text gathered).finds .uncut =
        (gathered.any Node.isBlockMedia || Node.findsAny .uncut gathered) :=
    Node.finds_uncut_of_paragraph rfl
  induction nodes with
  | nil =>
    intro attributes text gathered noBlock
    rw [cut, Node.findsAny_cons, make_eq, noBlock, Bool.false_or]
  | cons node rest ih =>
    intro attributes text gathered noBlock
    rw [cut]
    split
    · rw [Node.findsAny_cons, Node.findsAny_cons, make_eq, noBlock, Node.withoutTail,
        Node.finds_withTail, ih [] node.tail [] rfl, Node.findsAny_nil, Node.findsAny_cons,
        Bool.false_or, Bool.false_or]
    · rename_i noBlock'
      rw [ih attributes text (gathered ++ [node]) (by simp [noBlock, noBlock']),
        Node.findsAny_append, Node.findsAny_cons, Node.findsAny_nil, Bool.or_false,
        Node.findsAny_cons, Bool.or_assoc]

theorem finds_uncut_of_isBlank {piece : Node} (blank : isBlank piece = true) :
    piece.finds .uncut = false := by
  obtain ⟨head, tail, rfl, isParagraph⟩ := isParagraph_of_isBlank blank
  rw [Node.finds_uncut_of_paragraph isParagraph, Node.findsAny_nil]
  rfl

theorem findsAny_uncut_filter_trim (pieces : List Node) :
    Node.findsAny .uncut ((pieces.filter fun piece => !isBlank piece).map trim) =
      Node.findsAny .uncut pieces := by
  induction pieces with
  | nil => rfl
  | cons piece rest ih =>
    rw [Node.findsAny_cons, ← ih]
    cases blank : isBlank piece with
    | true =>
      rw [List.filter_cons_of_neg (by simp [blank]), finds_uncut_of_isBlank blank, Bool.false_or]
    | false =>
      rw [List.filter_cons_of_pos (by simp [blank]), List.map_cons, Node.findsAny_cons,
        finds_uncut_trim]

theorem findsAny_uncut_split (head : Head) (children : List Node) (tail : String) :
    Node.findsAny .uncut (split (.element head children tail)) =
      Node.findsAny .uncut children := by
  rw [split, findsAny_uncut_filter_trim, cutNode, findsAny_uncut_cut children _ _ [] rfl,
    Node.findsAny_nil, Bool.false_or]

/-! ## Tests on pieces -/

/-- A test on nodes that no paragraph passes, and that does not look at tails. -/
structure PieceTest (test : Node → Bool) : Prop where
  withTail (tail : String) (node : Node) : test (node.withTail tail) = test node
  paragraph {head : Head} (isParagraph : head.tag = "p") (children : List Node) (tail : String) :
    test (.element head children tail) = false

namespace PieceTest

variable {test : Node → Bool}

theorem any_cut (tests : PieceTest test) (nodes : List Node) :
    ∀ (attributes : Attributes) (text : String) (gathered : List Node),
      (cut attributes text gathered nodes).any test =
        nodes.any fun node => node.isBlockMedia && test node := by
  have make_eq (attributes : Attributes) (text : String) (gathered : List Node) :
      test (make attributes text gathered) = false := tests.paragraph rfl _ _
  induction nodes with
  | nil =>
    intro attributes text gathered
    rw [cut, List.any_cons, make_eq]
    rfl
  | cons node rest ih =>
    intro attributes text gathered
    rw [cut, List.any_cons]
    split
    · rename_i block
      rw [List.any_cons, List.any_cons, make_eq, ih, Node.withoutTail, tests.withTail,
        Bool.false_or, block, Bool.true_and]
    · rename_i noBlock
      rw [ih, Bool.eq_false_iff.mpr noBlock, Bool.false_and, Bool.false_or]

theorem test_trim (tests : PieceTest test) (piece : Node) : test (trim piece) = test piece := by
  cases piece with
  | comment => rfl
  | instruction => rfl
  | element head children tail =>
    rw [trim]
    split
    · rename_i isParagraph
      rw [tests.paragraph isParagraph]
      dsimp only
      split
      · exact tests.paragraph (by exact isParagraph) _ _
      · exact tests.paragraph (by exact isParagraph) _ _
    · rfl

theorem any_filter_trim (tests : PieceTest test) (pieces : List Node) :
    ((pieces.filter fun piece => !isBlank piece).map trim).any test = pieces.any test := by
  induction pieces with
  | nil => rfl
  | cons piece rest ih =>
    rw [List.any_cons, ← ih]
    cases blank : isBlank piece with
    | true =>
      obtain ⟨head, tail, rfl, isParagraph⟩ := isParagraph_of_isBlank blank
      rw [List.filter_cons_of_neg (by simp [blank]), tests.paragraph isParagraph, Bool.false_or]
    | false =>
      rw [List.filter_cons_of_pos (by simp [blank]), List.map_cons, List.any_cons,
        tests.test_trim]

theorem any_onLines (tests : PieceTest test) (tail : String) (pieces : List Node) :
    (onLines tail pieces).any test = pieces.any test := by
  fun_induction onLines tail pieces with
  | case1 => rfl
  | case2 piece => simp [tests.withTail]
  | case3 piece rest _ ih => simp [tests.withTail, ih]

/-- Among the pieces of a paragraph those pass that are block media and passed among its
children. -/
theorem any_split (tests : PieceTest test) (head : Head) (children : List Node) (tail : String) :
    (split (.element head children tail)).any test =
      children.any fun child => child.isBlockMedia && test child := by
  rw [split, tests.any_filter_trim, cutNode, tests.any_cut]

theorem any_pieces (tests : PieceTest test) (head : Head) (children : List Node) (tail : String) :
    (onLines tail (split (.element head children tail))).any test =
      children.any fun child => child.isBlockMedia && test child := by
  rw [tests.any_onLines, tests.any_split]

end PieceTest

theorem pieceTest_isBlockMedia : PieceTest Node.isBlockMedia where
  withTail := Node.isBlockMedia_withTail
  paragraph isParagraph children tail := by
    simp [Node.isBlockMedia, Node.isBlock, Node.blockTags, Node.hasTag, Node.tag?, Node.head?,
      isParagraph]

theorem pieceTest_isBlock : PieceTest Node.isBlock where
  withTail tail node := by cases node <;> rfl
  paragraph isParagraph children tail := by simp [Node.isBlock, Node.blockTags, isParagraph]

theorem any_isBlockMedia_pieces (head : Head) (children : List Node) (tail : String) :
    (onLines tail (split (.element head children tail))).any Node.isBlockMedia =
      children.any Node.isBlockMedia := by
  simp only [pieceTest_isBlockMedia.any_pieces, Bool.and_self]

theorem any_isBlock_pieces (head : Head) (children : List Node) (tail : String) :
    (onLines tail (split (.element head children tail))).any Node.isBlock =
      children.any Node.isBlock := by
  have block (node : Node) : (node.isBlockMedia && node.isBlock) = node.isBlock := by
    rw [Node.isBlockMedia]
    cases node.isBlock
    · rw [Bool.and_false]
    · rfl
  simp only [pieceTest_isBlock.any_pieces, block]

/-- A paragraph that is cut leaves some pieces, its block media at least. -/
theorem split_ne_nil {node : Node} (needs : node.needsUnravelling = true) : split node ≠ [] := by
  obtain ⟨head, children, tail, rfl, -⟩ := Node.isParagraph_of_needsUnravelling needs
  rw [Node.needsUnravelling_element, Bool.and_eq_true] at needs
  have blocks := pieceTest_isBlockMedia.any_split head children tail
  simp only [Bool.and_self] at blocks
  intro none
  rw [none, needs.2] at blocks
  cases blocks

end Paragraph

/-! ## Block media that come up -/

namespace Node

/-- Whether unravelling a node brings block media to its level: the node is a paragraph that is cut,
or a link around one that has a figure or a player to give. -/
def surfaces (node : Node) : Bool :=
  node.needsUnravelling ||
    (node.hasTag "a" && node.children.any fun child =>
      child.needsUnravelling && child.children.any isBlock)

variable {head : Head} {children nodes : List Node} {tail : String}

theorem surfaces_element :
    (Node.element head children tail).surfaces =
      (decide (head.tag = "p") && children.any isBlockMedia ||
        decide (head.tag = "a") && children.any fun child =>
          child.needsUnravelling && child.children.any isBlock) := by
  rw [surfaces, needsUnravelling_element]
  simp [hasTag, tag?, head?, Node.children]

theorem isBlockMedia_element :
    (Node.element head children tail).isBlockMedia =
      (blockTags.contains head.tag || decide (head.tag = "a") && children.any isBlock) := by
  simp [isBlockMedia, isBlock, hasTag, tag?, head?, Node.children]

theorem any_or (first second : Node → Bool) (nodes : List Node) :
    (nodes.any fun node => first node || second node) = (nodes.any first || nodes.any second) := by
  induction nodes with
  | nil => rfl
  | cons node rest ih =>
    simp only [List.any_cons, ih]
    ac_rfl

theorem any_isBlock_unravelAll (nodes : List Node) :
    (unravelAll nodes).any isBlock =
      nodes.any fun node => node.isBlock || node.needsUnravelling && node.children.any isBlock := by
  induction nodes with
  | nil => rw [unravelAll]; rfl
  | cons node rest ih =>
    rw [unravelAll, List.any_cons]
    split
    · rename_i needs
      obtain ⟨head, children, tail, rfl, isParagraph⟩ := isParagraph_of_needsUnravelling needs
      rw [List.any_append, ih, Node.tail, Paragraph.any_isBlock_pieces, needs,
        Paragraph.pieceTest_isBlock.paragraph isParagraph, Bool.true_and, Bool.false_or,
        Node.children]
    · rename_i whole
      have same : node.unravel.isBlock = node.isBlock := by
        cases node with
        | element head children tail => rw [unravel]; rfl
        | comment => rfl
        | instruction => rfl
      rw [List.any_cons, ih, same, Bool.eq_false_iff.mpr whole, Bool.false_and, Bool.or_false]

theorem any_isBlockMedia_unravelAll (nodes : List Node) :
    (unravelAll nodes).any isBlockMedia =
      nodes.any fun node => node.isBlockMedia || node.surfaces := by
  induction nodes with
  | nil => rw [unravelAll]; rfl
  | cons node rest ih =>
    rw [unravelAll, List.any_cons]
    split
    · rename_i needs
      obtain ⟨head, children, tail, rfl, isParagraph⟩ := isParagraph_of_needsUnravelling needs
      rw [List.any_append, ih, Node.tail, Paragraph.any_isBlockMedia_pieces,
        Paragraph.pieceTest_isBlockMedia.paragraph isParagraph, surfaces, needs]
      rw [needsUnravelling_element, Bool.and_eq_true] at needs
      rw [needs.2, Bool.true_or, Bool.false_or, Bool.true_or, Bool.true_or]
    · rename_i whole
      have same : node.unravel.isBlockMedia = (node.isBlockMedia || node.surfaces) := by
        cases node with
        | element head children tail =>
          rw [needsUnravelling_element, Bool.not_eq_true] at whole
          rw [unravel, isBlockMedia_element, any_isBlock_unravelAll, any_or, surfaces_element,
            whole, isBlockMedia_element, Bool.false_or, Bool.or_assoc, ← Bool.and_or_distrib_left]
        | comment => rfl
        | instruction => rfl
      rw [List.any_cons, ih, same]

end Node

/-! ## What is left over -/

/-- The search for a paragraph that has to be cut when its document was unravelled: one inside a
paragraph that was cut, whose pieces are not looked into, or one that is not cut itself while block
media come up from its children. -/
def Search.leftover : Search := fun head children =>
  if head.tag = "p" then
    if children.any Node.isBlockMedia then some (Node.findsAny .uncut children)
    else if children.any Node.surfaces then some true
    else none
  else none

namespace Node

variable {head : Head} {children nodes : List Node} {tail : String}

theorem finds_leftover_of_cut (isParagraph : head.tag = "p")
    (cut : children.any isBlockMedia = true) :
    (Node.element head children tail).finds .leftover = findsAny .uncut children :=
  finds_of_some (by rw [Search.leftover, if_pos isParagraph, if_pos cut])

theorem finds_leftover_of_whole (isParagraph : head.tag = "p")
    (whole : children.any isBlockMedia = false) :
    (Node.element head children tail).finds .leftover =
      (children.any surfaces || findsAny .leftover children) := by
  rw [finds_element, Search.leftover, if_pos isParagraph, whole]
  cases children.any surfaces <;> rfl

theorem finds_leftover_of_other (other : head.tag ≠ "p") :
    (Node.element head children tail).finds .leftover = findsAny .leftover children :=
  finds_of_none (if_neg other)

/-- After unravelling, a paragraph has to be cut just where one is left over. -/
theorem findsAny_uncut_unravelAll (nodes : List Node) :
    findsAny .uncut (unravelAll nodes) = findsAny .leftover nodes := by
  induction nodes using Node.inductionOnAll with
  | nil => rw [unravelAll, findsAny_nil, findsAny_nil]
  | element head children tail rest inner ih =>
    rw [unravelAll, findsAny_cons, needsUnravelling_element]
    by_cases isParagraph : head.tag = "p"
    · cases cut : children.any isBlockMedia with
      | true =>
        rw [if_pos (by simp [isParagraph]), findsAny_append, Paragraph.findsAny_onLines,
          Paragraph.findsAny_uncut_split, ih, finds_leftover_of_cut isParagraph cut]
      | false =>
        have came : (unravelAll children).any isBlockMedia = children.any surfaces := by
          rw [any_isBlockMedia_unravelAll, any_or, cut, Bool.false_or]
        rw [if_neg (by simp), findsAny_cons, unravel, finds_uncut_of_paragraph isParagraph, came,
          inner, ih, finds_leftover_of_whole isParagraph cut]
    · rw [if_neg (by simp [isParagraph]), findsAny_cons, unravel, finds_uncut_of_other isParagraph,
        inner, ih, finds_leftover_of_other isParagraph]
  | comment text tail rest ih =>
    rw [unravelAll_comment, findsAny_cons, findsAny_cons, ih, finds_comment, finds_comment]
  | instruction text tail rest ih =>
    rw [unravelAll_instruction, findsAny_cons, findsAny_cons, ih, finds_instruction,
      finds_instruction]

/-! ## Paragraphs that do not nest -/

theorem findsAny_nesting_of_nests {tag : String}
    (flat : (Node.element head children tail).nests tag = false) :
    findsAny (.nesting tag) children = false := by
  by_cases same : head.tag = tag
  · rw [nests_of_tag same] at flat
    exact findsAny_nesting_eq_false flat
  · rw [nests_of_ne same] at flat
    exact flat

theorem containsTag_of_surfaces {node : Node} (surfaces : node.surfaces = true) :
    node.containsTag "p" = true := by
  have paragraph {node : Node} (needs : node.needsUnravelling = true) :
      node.containsTag "p" = true := by
    obtain ⟨head, children, tail, rfl, isParagraph⟩ := isParagraph_of_needsUnravelling needs
    rw [containsTag_element, decide_eq_true isParagraph, Bool.true_or]
  rw [Node.surfaces, Bool.or_eq_true] at surfaces
  rcases surfaces with needs | inLink
  · exact paragraph needs
  · cases node with
    | element head children tail =>
      simp only [Node.children, Bool.and_eq_true, List.any_eq_true] at inLink
      obtain ⟨-, child, mem, needs, -⟩ := inLink
      have below : findsAny (.tagged "p") children = true :=
        findsAny_eq_true.mpr ⟨child, mem, paragraph needs⟩
      rw [containsTag_element, below, Bool.or_true]
    | comment => simp [Node.children] at inLink
    | instruction => simp [Node.children] at inLink

/-- Where paragraphs do not nest, none is left over. -/
theorem findsAny_leftover_of_flat (flat : findsAny (.nesting "p") nodes = false) :
    findsAny .leftover nodes = false := by
  induction nodes using Node.inductionOnAll with
  | nil => exact findsAny_nil
  | element head children tail rest inner ih =>
    rw [findsAny_cons, Bool.or_eq_false_iff] at flat
    obtain ⟨first, later⟩ := flat
    have below := inner (findsAny_nesting_of_nests first)
    rw [findsAny_cons, ih later, Bool.or_false]
    by_cases isParagraph : head.tag = "p"
    · have alone : findsAny (.tagged "p") children = false := by
        have none : (Node.element head children tail).nests "p" = false := first
        rwa [nests_of_tag isParagraph] at none
      cases cut : children.any isBlockMedia with
      | true => rw [finds_leftover_of_cut isParagraph cut, findsAny_uncut_of_none alone]
      | false =>
        have quiet : children.any surfaces = false := by
          rw [List.any_eq_false]
          intro child mem surfaces
          have found := findsAny_eq_false.mp alone child mem
          rw [← containsTag, containsTag_of_surfaces surfaces] at found
          cases found
        rw [finds_leftover_of_whole isParagraph cut, quiet, below, Bool.or_false]
    · rw [finds_leftover_of_other isParagraph, below]
  | comment text tail rest ih =>
    rw [findsAny_cons, Bool.or_eq_false_iff] at flat
    rw [findsAny_cons, finds_comment, ih flat.2, Bool.or_false]
  | instruction text tail rest ih =>
    rw [findsAny_cons, Bool.or_eq_false_iff] at flat
    rw [findsAny_cons, finds_instruction, ih flat.2, Bool.or_false]

/-! ## Unravelling twice -/

/-- Where no paragraph is left over, the document is unravelled once and for all. -/
theorem unravel_of_leftover {tree : Node} (none : findsAny .leftover tree.children = false) :
    tree.unravel.unravel = tree.unravel := by
  cases tree with
  | element head children tail =>
    have cut : findsAny .uncut (unravelAll children) = false := by
      rw [findsAny_uncut_unravelAll]
      exact none
    rw [unravel, unravel, unravelAll_of_cut cut]
  | comment => simp only [unravel]
  | instruction => simp only [unravel]

/-- Where paragraphs do not nest, they are unravelled once and for all. -/
theorem unravel_unravel {tree : Node} (flat : tree.nests "p" = false) :
    tree.unravel.unravel = tree.unravel := by
  cases tree with
  | element head children tail =>
    exact unravel_of_leftover (findsAny_leftover_of_flat (findsAny_nesting_of_nests flat))
  | comment => simp only [unravel]
  | instruction => simp only [unravel]

theorem unravelIf_unravelIf {tree : Node} (settings : Settings) (flat : tree.nests "p" = false) :
    (tree.unravelIf settings).unravelIf settings = tree.unravelIf settings := by
  unfold unravelIf
  split
  · exact unravel_unravel flat
  · rfl

end Node

/-! ## One call -/

namespace Node

mutual

/-- The nodes below a node. -/
def descendants : Node → List Node
  | .element _ children _ => descendantsAll children
  | _ => []

/-- Nodes and all below them, in document order. -/
def descendantsAll : List Node → List Node
  | [] => []
  | node :: rest => node :: (descendants node ++ descendantsAll rest)

end

theorem any_needsUnravelling_descendantsAll (nodes : List Node) :
    (descendantsAll nodes).any needsUnravelling = findsAny .uncut nodes := by
  induction nodes using Node.inductionOnAll with
  | nil => rw [descendantsAll, findsAny_nil]; rfl
  | element head children tail rest inner ih =>
    rw [descendantsAll, descendants, List.any_cons, List.any_append, inner, ih, findsAny_cons,
      needsUnravelling_element, ← Bool.or_assoc]
    by_cases isParagraph : head.tag = "p"
    · rw [finds_uncut_of_paragraph isParagraph, decide_eq_true isParagraph, Bool.true_and]
    · rw [finds_uncut_of_other isParagraph, decide_eq_false isParagraph, Bool.false_and,
        Bool.false_or]
  | comment text tail rest ih =>
    simp [descendantsAll, descendants, ih, needsUnravelling, hasTag, tag?, head?]
  | instruction text tail rest ih =>
    simp [descendantsAll, descendants, ih, needsUnravelling, hasTag, tag?, head?]

end Node

/-- One call is enough: no paragraph below the root has to be cut after it, and another call changes
nothing. -/
structure UnravelledAtOnce (tree : Node) : Prop where
  cut : ∀ node ∈ tree.unravel.descendants, node.needsUnravelling = false
  stable : tree.unravel.unravel = tree.unravel

/-- **When one call is enough.** Unravelling a document is complete just where no paragraph is left
over in a paragraph that was cut, or by block media that came up from its children. -/
theorem unravelledAtOnce_iff (tree : Node) :
    UnravelledAtOnce tree ↔ Node.findsAny .leftover tree.children = false := by
  have left : tree.unravel.descendants.any Node.needsUnravelling =
      Node.findsAny .leftover tree.children := by
    cases tree with
    | element head children tail =>
      rw [Node.unravel, Node.descendants, Node.any_needsUnravelling_descendantsAll,
        Node.findsAny_uncut_unravelAll, Node.children]
    | comment => simp [Node.unravel, Node.descendants, Node.children]
    | instruction => simp [Node.unravel, Node.descendants, Node.children]
  constructor
  · intro once
    rw [← left, List.any_eq_false]
    intro node mem
    simp [once.cut node mem]
  · intro none
    refine ⟨?_, Node.unravel_of_leftover none⟩
    rw [← left, List.any_eq_false] at none
    intro node mem
    simpa using none node mem

/-- A paragraph in a figure in a paragraph, with a player in it. -/
def figureWithParagraph : Node :=
  .element (.new "div" [] "")
    [.element (.new "p" [] "")
      [.element (.new "figure" [] "")
        [.element (.new "p" [] "") [.element (.new "video" [] "") [] ""] ""] ""] ""] ""

/-- The figure is lifted, but the paragraph in it keeps its player until a second call. -/
theorem not_unravelledAtOnce_figureWithParagraph : ¬UnravelledAtOnce figureWithParagraph := by
  intro once
  have uncut : figureWithParagraph.unravel.descendants.any Node.needsUnravelling = true := by
    decide +kernel
  rw [List.any_eq_true] at uncut
  obtain ⟨node, mem, needs⟩ := uncut
  rw [once.cut node mem] at needs
  cases needs

end MediaMarkup

import MediaMarkup.Proofs.Cut
import MediaMarkup.Proofs.Reduction

/-!
Unravelling keeps the substance of a document: all of it but the paragraphs around its content and
the blanks in its texts. What a paragraph is cut into leaves the same as the paragraph, since a tail
that becomes a text stays where it is, and only blank stretches are dropped or written
(`reduceAll_split`, `reduceAll_onLines`).
-/

namespace MediaMarkup

/-! ## Texts without blanks -/

namespace Text

theorem filter_dropWhile {drop keep : Char → Bool} (apart : ∀ c, drop c = true → keep c = false)
    (cs : List Char) : (cs.dropWhile drop).filter keep = cs.filter keep := by
  induction cs with
  | nil => rfl
  | cons c cs ih =>
    rw [List.dropWhile_cons]
    split
    · rename_i dropped
      rw [ih, List.filter_cons_of_neg (by simp [apart c dropped])]
    · rfl

theorem filter_dropRightWhile {drop keep : Char → Bool}
    (apart : ∀ c, drop c = true → keep c = false) (cs : List Char) :
    (dropRightWhile drop cs).filter keep = cs.filter keep := by
  rw [dropRightWhile, List.filter_reverse, filter_dropWhile apart, List.filter_reverse,
    List.reverse_reverse]

/-- A text without its blanks. -/
def dense (text : String) : String :=
  .ofList (text.toList.filter fun c => !isBlank c)

theorem dense_of_isBlankText {text : String} (blank : isBlankText text.toList = true) :
    dense text = "" := by
  have none : text.toList.filter (fun c => !isBlank c) = [] := by
    rw [List.filter_eq_nil_iff]
    intro c mem
    simp [List.all_eq_true.mp blank c mem]
  rw [dense, none]

theorem space_not_kept (c : Char) (isSpace : decide (c = ' ') = true) : (!isBlank c) = false := by
  rw [of_decide_eq_true isSpace]
  decide

theorem dense_trimStart (text : String) : dense (Paragraph.trimStart text) = dense text := by
  rw [dense, Paragraph.trimStart, String.toList_ofList, filter_dropWhile space_not_kept, dense]

theorem dense_trimEnd (text : String) : dense (Paragraph.trimEnd text) = dense text := by
  rw [dense, Paragraph.trimEnd, String.toList_ofList, filter_dropRightWhile space_not_kept, dense]

end Text

/-! ## The substance of a document -/

/-- A paragraph leaves its content, every other element stays, and blanks are taken out of texts. -/
def Reduction.substance : Reduction where
  text := Text.dense
  element head content := if head.tag = "p" then content else content.asElement head
  text_empty := rfl

namespace Node

/-- A document without the paragraphs below its root and without blanks in its texts. -/
def substance (tree : Node) : Node :=
  tree.reduced .substance

theorem reduce_paragraph {head : Head} (isParagraph : head.tag = "p") (children : List Node)
    (tail : String) :
    reduce .substance (.element head children tail) =
      .ofText (Text.dense head.text) ++ reduceAll .substance children ++
        .ofText (Text.dense tail) := by
  rw [reduce_element]
  simp only [Reduction.substance, isParagraph, ↓reduceIte]

end Node

/-! ## Pieces of a paragraph -/

namespace Paragraph

theorem tail_of_mem_cut {nodes : List Node} :
    ∀ {attributes : Attributes} {text : String} {gathered : List Node},
      ∀ piece ∈ cut attributes text gathered nodes, piece.tail = "" := by
  induction nodes with
  | nil =>
    intro attributes text gathered piece mem
    rw [cut, List.mem_singleton] at mem
    rw [mem]
    rfl
  | cons node rest ih =>
    intro attributes text gathered piece mem
    rw [cut] at mem
    split at mem
    · simp only [List.mem_cons] at mem
      rcases mem with rfl | rfl | mem
      · rfl
      · exact Node.tail_withTail "" node
      · exact ih piece mem
    · exact ih piece mem

theorem tail_trim (piece : Node) : (trim piece).tail = piece.tail := by
  cases piece with
  | element head children tail =>
    rw [trim]
    split
    · dsimp only
      split <;> rw [Node.tail, Node.tail]
    · rfl
  | comment => rfl
  | instruction => rfl

theorem tail_of_mem_split {node : Node} (isElement : node.isElement = true) :
    ∀ piece ∈ split node, piece.tail = "" := by
  intro piece mem
  rw [split, List.mem_map] at mem
  obtain ⟨piece', mem, rfl⟩ := mem
  rw [tail_trim]
  cases node with
  | element head children tail => exact tail_of_mem_cut piece' (List.mem_of_mem_filter mem)
  | comment => cases isElement
  | instruction => cases isElement

/-- Cutting a paragraph leaves its text and its children where they were. -/
theorem reduceAll_cut (nodes : List Node) :
    ∀ (attributes : Attributes) (text : String) (gathered : List Node),
      Node.reduceAll .substance (cut attributes text gathered nodes) =
        .ofText (Text.dense text) ++ Node.reduceAll .substance (gathered ++ nodes) := by
  have make_eq (attributes : Attributes) (text : String) (gathered : List Node) :
      Node.reduce .substance (make attributes text gathered) =
        .ofText (Text.dense text) ++ Node.reduceAll .substance gathered := by
    have noTail : Text.dense "" = "" := Reduction.substance.text_empty
    rw [make, Node.reduce_paragraph rfl, noTail, Content.append_ofText_empty]
    rfl
  induction nodes with
  | nil =>
    intro attributes text gathered
    rw [cut, Node.reduceAll_singleton, make_eq, List.append_nil]
  | cons node rest ih =>
    intro attributes text gathered
    rw [cut]
    split
    · -- the tail of the block is now the text of the paragraph behind it
      have tail_eq : Text.dense node.tail = Reduction.substance.text node.tail := rfl
      rw [Node.reduceAll_cons, Node.reduceAll_cons, make_eq, ih, List.nil_append,
        Node.reduceAll_append, Node.reduceAll_cons, Node.reduce_eq_withoutTail node, tail_eq]
      simp only [Content.append_assoc]
    · rw [ih, List.append_assoc, List.singleton_append]

theorem reduce_isBlank {piece : Node} (blank : isBlank piece = true) (noTail : piece.tail = "") :
    Node.reduce .substance piece = .empty := by
  cases piece with
  | element head children tail =>
    simp only [isBlank, Bool.and_eq_true, decide_eq_true_eq, List.isEmpty_iff] at blank
    obtain ⟨⟨isParagraph, rfl⟩, blank⟩ := blank
    have tail_eq : tail = "" := noTail
    rw [Node.reduce_paragraph isParagraph, Text.dense_of_isBlankText blank, tail_eq,
      Node.reduceAll_nil]
    rfl
  | comment => cases blank
  | instruction => cases blank

theorem reduceAll_trimLastTail (nodes : List Node) :
    Node.reduceAll .substance (trimLastTail nodes) = Node.reduceAll .substance nodes := by
  fun_induction trimLastTail nodes with
  | case1 => rfl
  | case2 node =>
    have tail_eq : Reduction.substance.text (trimEnd node.tail) =
        Reduction.substance.text node.tail := Text.dense_trimEnd node.tail
    rw [Node.reduceAll_singleton, Node.reduceAll_singleton, Node.reduce_withTail, tail_eq,
      ← Node.reduce_eq_withoutTail]
  | case3 node rest _ ih => rw [Node.reduceAll_cons, ih, Node.reduceAll_cons]

theorem reduce_trim (piece : Node) :
    Node.reduce .substance (trim piece) = Node.reduce .substance piece := by
  cases piece with
  | comment => rfl
  | instruction => rfl
  | element head children tail =>
    rw [trim]
    split
    · rename_i isParagraph
      dsimp only
      rw [Node.reduce_paragraph isParagraph]
      split
      · rw [Node.reduce_paragraph (by exact isParagraph)]
        dsimp only
        rw [Text.dense_trimEnd, Text.dense_trimStart]
      · rw [Node.reduce_paragraph (by exact isParagraph)]
        dsimp only
        rw [Text.dense_trimStart, reduceAll_trimLastTail]
    · rfl

theorem reduceAll_filter_trim {pieces : List Node} (noTails : ∀ piece ∈ pieces, piece.tail = "") :
    Node.reduceAll .substance ((pieces.filter fun piece => !isBlank piece).map trim) =
      Node.reduceAll .substance pieces := by
  induction pieces with
  | nil => rfl
  | cons piece rest ih =>
    have later := ih fun piece mem => noTails piece (List.mem_cons_of_mem _ mem)
    rw [Node.reduceAll_cons]
    cases blank : isBlank piece with
    | true =>
      rw [List.filter_cons_of_neg (by simp [blank]), later,
        reduce_isBlank blank (noTails piece List.mem_cons_self), Content.empty_append]
    | false =>
      rw [List.filter_cons_of_pos (by simp [blank]), List.map_cons, Node.reduceAll_cons,
        reduce_trim, later]

/-- The pieces of a paragraph leave its text and its children. -/
theorem reduceAll_split (head : Head) (children : List Node) (tail : String) :
    Node.reduceAll .substance (split (.element head children tail)) =
      .ofText (Text.dense head.text) ++ Node.reduceAll .substance children := by
  rw [split, cutNode, reduceAll_filter_trim fun piece mem => tail_of_mem_cut piece mem,
    reduceAll_cut, List.nil_append]

/-- Line ends are blank, so that only the tail behind all pieces is added. -/
theorem reduceAll_onLines (tail : String) {pieces : List Node} (some : pieces ≠ [])
    (noTails : ∀ piece ∈ pieces, piece.tail = "") :
    Node.reduceAll .substance (onLines tail pieces) =
      Node.reduceAll .substance pieces ++ .ofText (Text.dense tail) := by
  have alone {piece : Node} (text : String) (noTail : piece.tail = "") :
      Node.reduce .substance (piece.withTail text) =
        Node.reduce .substance piece ++ .ofText (Text.dense text) := by
    rw [Node.reduce_withTail, Node.withoutTail, ← noTail, Node.withTail_tail]
    rfl
  induction pieces with
  | nil => exact absurd rfl some
  | cons piece rest ih =>
    cases rest with
    | nil =>
      rw [onLines, Node.reduceAll_singleton, Node.reduceAll_singleton,
        alone tail (noTails piece List.mem_cons_self)]
    | cons next rest =>
      have noBreak : Text.dense "\n" = "" := by decide
      have later := ih (List.cons_ne_nil next rest) fun piece mem =>
        noTails piece (List.mem_cons_of_mem _ mem)
      rw [onLines, Node.reduceAll_cons, later, Node.reduceAll_cons piece,
        alone "\n" (noTails piece List.mem_cons_self), noBreak, Content.append_ofText_empty,
        Content.append_assoc]
      exact List.cons_ne_nil next rest

/-- What takes the place of a paragraph that is unravelled leaves what the paragraph left. -/
theorem reduceAll_pieces {node : Node} (needs : node.needsUnravelling = true) :
    Node.reduceAll .substance (onLines node.tail (split node)) =
      Node.reduce .substance node := by
  have some := split_ne_nil needs
  obtain ⟨head, children, tail, rfl, isParagraph⟩ := Node.isParagraph_of_needsUnravelling needs
  rw [Node.tail, reduceAll_onLines tail some (tail_of_mem_split rfl), reduceAll_split,
    Node.reduce_paragraph isParagraph]

end Paragraph

/-! ## Whole documents -/

theorem Node.reduceAll_unravelAll (nodes : List Node) :
    reduceAll .substance (unravelAll nodes) = reduceAll .substance nodes := by
  induction nodes using Node.inductionOnAll with
  | nil => rw [unravelAll]
  | element head children tail rest inner ih =>
    rw [unravelAll, reduceAll_cons _ rest]
    split
    · rename_i needs
      rw [reduceAll_append, Paragraph.reduceAll_pieces needs, ih]
    · rw [reduceAll_cons, unravel, reduce_element, reduce_element, inner, ih]
  | comment text tail rest ih => rw [unravelAll_comment, reduceAll_cons, reduceAll_cons, ih]
  | instruction text tail rest ih =>
    rw [unravelAll_instruction, reduceAll_cons, reduceAll_cons, ih]

/-- **Unravelling keeps the substance.** Every element but the paragraphs, every comment and
processing instruction and all text that is not blank stay in their order and nesting. -/
theorem substance_unravel (tree : Node) : tree.unravel.substance = tree.substance := by
  cases tree with
  | element head children tail =>
    rw [Node.unravel]
    exact Node.reduced_congr head tail (Node.reduceAll_unravelAll children)
  | comment => rfl
  | instruction => rfl

end MediaMarkup

import MediaMarkup.Proofs.Figcaptions
import MediaMarkup.Proofs.Reduction

/-!
Documents that are the same but for the side of its children on which a figure has its only
figcaption (`Twins`). Unravelling keeps them so (`Twins.unravelAll`), and they cannot be told apart
by what is left of them without figcaptions, nor by the figcaptions of their figures.
-/

namespace MediaMarkup

/-- Nodes that are the same but for the side on which some figures have their only figcaption:
before their other children in the first list, behind them in the second. -/
inductive Twins : List Node → List Node → Prop
  | nil : Twins [] []
  | other {node : Node} {xs ys : List Node} (noElement : node.isElement = false)
    (rest : Twins xs ys) : Twins (node :: xs) (node :: ys)
  | element {head : Head} {children children' xs ys : List Node} (tail : String)
    (inner : Twins children children') (rest : Twins xs ys) :
    Twins (.element head children tail :: xs) (.element head children' tail :: ys)
  | captioned {head : Head} {children children' xs ys : List Node} (text tail : String)
    (isFigure : head.tag = "figure") (alone : hasFigcaption children = false)
    (inner : Twins children children') (rest : Twins xs ys) :
    Twins (.element head (figcaption text :: children) tail :: xs)
      (.element head (children' ++ [figcaption text]) tail :: ys)

namespace Twins

variable {x y : Node} {xs ys xs' ys' : List Node}

theorem refl (nodes : List Node) : Twins nodes nodes := by
  induction nodes using Node.inductionOnAll with
  | nil => exact .nil
  | element head children tail rest inner ih => exact .element tail inner ih
  | comment text tail rest ih => exact .other rfl ih
  | instruction text tail rest ih => exact .other rfl ih

theorem append (first : Twins xs ys) (second : Twins xs' ys') : Twins (xs ++ xs') (ys ++ ys') := by
  induction first with
  | nil => exact second
  | other noElement _ ih => exact .other noElement ih
  | element tail inner _ _ ih => exact .element tail inner ih
  | captioned text tail isFigure alone inner _ _ ih =>
    exact .captioned text tail isFigure alone inner ih

theorem cons (first : Twins [x] [y]) (rest : Twins xs ys) : Twins (x :: xs) (y :: ys) :=
  first.append rest

/-- Twins are twins one by one. -/
theorem forall₂ (twins : Twins xs ys) : List.Forall₂ (fun x y => Twins [x] [y]) xs ys := by
  induction twins with
  | nil => exact .nil
  | other noElement _ ih => exact .cons (.other noElement .nil) ih
  | element tail inner _ _ ih => exact .cons (.element tail inner .nil) ih
  | captioned text tail isFigure alone inner _ _ ih =>
    exact .cons (.captioned text tail isFigure alone inner .nil) ih

theorem of_forall₂ (related : List.Forall₂ (fun x y => Twins [x] [y]) xs ys) : Twins xs ys := by
  induction related with
  | nil => exact .nil
  | cons first _ ih => exact first.cons ih

/-! ## What twins share -/

/-- A test on the head of a node cannot tell twins apart. -/
theorem any_eq {test : Node → Bool}
    (byHead : ∀ node node' : Node, node.head? = node'.head? → test node = test node')
    (twins : Twins xs ys) : xs.any test = ys.any test := by
  induction twins with
  | nil => rfl
  | other _ _ ih => rw [List.any_cons, List.any_cons, ih]
  | element tail inner _ _ ih =>
    rw [List.any_cons, List.any_cons, ih]
    exact congrArg (· || _) (byHead _ _ rfl)
  | captioned text tail isFigure alone inner _ _ ih =>
    rw [List.any_cons, List.any_cons, ih]
    exact congrArg (· || _) (byHead _ _ rfl)

theorem hasFigcaption_eq (twins : Twins xs ys) : hasFigcaption xs = hasFigcaption ys :=
  twins.any_eq fun node node' same => by rw [Node.hasTag, Node.tag?, same, Node.hasTag, Node.tag?]

theorem any_isBlock (twins : Twins xs ys) : xs.any Node.isBlock = ys.any Node.isBlock := by
  refine twins.any_eq fun node node' same => ?_
  cases node <;> cases node' <;> simp_all [Node.head?, Node.isBlock]

theorem isBlockMedia_eq (twins : Twins [x] [y]) : x.isBlockMedia = y.isBlockMedia := by
  cases twins with
  | other => rfl
  | element tail inner =>
    rw [Node.isBlockMedia_element, Node.isBlockMedia_element, inner.any_isBlock]
  | captioned text tail isFigure =>
    rw [Node.isBlockMedia_element, Node.isBlockMedia_element, isFigure]
    rfl

theorem any_isBlockMedia (twins : Twins xs ys) :
    xs.any Node.isBlockMedia = ys.any Node.isBlockMedia := by
  have related := twins.forall₂
  induction related with
  | nil => rfl
  | cons first rest ih =>
    rw [List.any_cons, List.any_cons, first.isBlockMedia_eq, ih (of_forall₂ rest)]

theorem needsUnravelling_eq (twins : Twins [x] [y]) :
    x.needsUnravelling = y.needsUnravelling := by
  cases twins with
  | other => rfl
  | element tail inner =>
    rw [Node.needsUnravelling_element, Node.needsUnravelling_element, inner.any_isBlockMedia]
  | captioned text tail isFigure =>
    have noParagraph : ∀ children, (Node.element _ children tail).needsUnravelling = false :=
      fun children => by rw [Node.needsUnravelling_element, isFigure]; rfl
    rw [noParagraph, noParagraph]

theorem tail_eq (twins : Twins [x] [y]) : x.tail = y.tail := by
  cases twins <;> rfl

theorem withTail (twins : Twins [x] [y]) (tail : String) :
    Twins [x.withTail tail] [y.withTail tail] := by
  cases twins with
  | other => exact .refl _
  | element _ inner => exact .element tail inner .nil
  | captioned text _ isFigure alone inner => exact .captioned text tail isFigure alone inner .nil

/-! ## Cutting paragraphs -/

theorem make (twins : Twins xs ys) (attributes : Attributes) (text : String) :
    Twins [Paragraph.make attributes text xs] [Paragraph.make attributes text ys] :=
  .element "" twins .nil

theorem cut (twins : Twins xs ys) (attributes : Attributes) (text : String)
    (gathered : Twins xs' ys') :
    Twins (Paragraph.cut attributes text xs' xs) (Paragraph.cut attributes text ys' ys) := by
  have related := twins.forall₂
  clear twins
  induction related generalizing attributes text xs' ys' with
  | nil => exact gathered.make attributes text
  | @cons x y xs ys first rest ih =>
    rw [Paragraph.cut, Paragraph.cut, first.isBlockMedia_eq]
    split
    · refine (gathered.make attributes text).cons ((first.withTail "").cons ?_)
      rw [first.tail_eq]
      exact ih [] y.tail .nil
    · exact ih attributes text (gathered.append first)

theorem isEmpty_eq (twins : Twins xs ys) : xs.isEmpty = ys.isEmpty := by
  cases twins <;> rfl

theorem isBlank_eq (twins : Twins [x] [y]) : Paragraph.isBlank x = Paragraph.isBlank y := by
  cases twins with
  | other => rfl
  | element tail inner => rw [Paragraph.isBlank, Paragraph.isBlank, inner.isEmpty_eq]
  | captioned text tail isFigure => simp [Paragraph.isBlank, isFigure]

theorem trimLastTail (twins : Twins xs ys) :
    Twins (Paragraph.trimLastTail xs) (Paragraph.trimLastTail ys) := by
  have related := twins.forall₂
  clear twins
  induction related with
  | nil => exact .nil
  | @cons x y xs ys first rest ih =>
    cases rest with
    | nil =>
      rw [Paragraph.trimLastTail, Paragraph.trimLastTail, first.tail_eq]
      exact first.withTail _
    | cons => exact first.cons ih

theorem trim (twins : Twins [x] [y]) : Twins [Paragraph.trim x] [Paragraph.trim y] := by
  cases twins with
  | other => exact .refl _
  | element tail inner =>
    rw [Paragraph.trim, Paragraph.trim, inner.isEmpty_eq]
    split
    · dsimp only
      split
      · exact .element tail inner .nil
      · exact .element tail inner.trimLastTail .nil
    · exact .element tail inner .nil
  | captioned text tail isFigure alone inner =>
    simp only [Paragraph.trim, isFigure, String.reduceEq, ↓reduceIte]
    exact .captioned text tail isFigure alone inner .nil

theorem filter_trim (twins : Twins xs ys) :
    Twins ((xs.filter fun piece => !Paragraph.isBlank piece).map Paragraph.trim)
      ((ys.filter fun piece => !Paragraph.isBlank piece).map Paragraph.trim) := by
  have related := twins.forall₂
  clear twins
  induction related with
  | nil => exact .nil
  | @cons x y xs ys first rest ih =>
    rw [List.filter_cons, List.filter_cons, first.isBlank_eq]
    split
    · exact first.trim.cons ih
    · exact ih

/-- A paragraph that is cut has twins for pieces. -/
theorem pieces (twins : Twins [x] [y]) (needs : x.needsUnravelling = true) :
    Twins (Paragraph.split x) (Paragraph.split y) := by
  refine filter_trim ?_
  cases twins with
  | other => exact .refl _
  | element tail inner => exact inner.cut _ _ .nil
  | captioned text tail isFigure =>
    rw [Node.needsUnravelling_element, isFigure] at needs
    cases needs

theorem onLines (twins : Twins xs ys) (tail : String) :
    Twins (Paragraph.onLines tail xs) (Paragraph.onLines tail ys) := by
  have related := twins.forall₂
  clear twins
  induction related with
  | nil => exact .nil
  | @cons x y xs ys first rest ih =>
    cases rest with
    | nil => exact first.withTail tail
    | cons => exact (first.withTail "\n").cons ih

theorem captioned_unravel {head : Head} {children children' : List Node} (text tail : String)
    (isFigure : head.tag = "figure") (alone : hasFigcaption children = false)
    (inner : Twins (Node.unravelAll children) (Node.unravelAll children')) :
    Twins [(Node.element head (figcaption text :: children) tail).unravel]
      [(Node.element head (children' ++ [figcaption text]) tail).unravel] := by
  have alone' : hasFigcaption (Node.unravelAll children) = false := by
    rw [Node.hasFigcaption_eq_false, Node.figcaptions_unravelAll,
      Node.hasFigcaption_eq_false.mp alone, List.map_nil]
  have last : Node.unravelAll [] = [] := by rw [Node.unravelAll]
  rw [Node.unravel, Node.unravel, Node.unravelAll_append, Node.unravelAll_figcaption,
    Node.unravelAll_figcaption, last]
  exact .captioned text tail isFigure alone' inner .nil

/-- Unravelling keeps twins. -/
theorem unravelAll (twins : Twins xs ys) : Twins (Node.unravelAll xs) (Node.unravelAll ys) := by
  induction twins with
  | nil => exact .refl _
  | @other node xs ys noElement rest ih =>
    cases node with
    | element => simp [Node.isElement, Node.head?] at noElement
    | comment =>
      rw [Node.unravelAll_comment, Node.unravelAll_comment]
      exact .other rfl ih
    | instruction =>
      rw [Node.unravelAll_instruction, Node.unravelAll_instruction]
      exact .other rfl ih
  | @element head children children' xs ys tail inner rest innerIh ih =>
    have single : Twins [.element head children tail] [.element head children' tail] :=
      .element tail inner .nil
    rw [Node.unravelAll, Node.unravelAll, single.needsUnravelling_eq]
    split
    · rename_i needs
      exact ((single.pieces (single.needsUnravelling_eq.trans needs)).onLines tail).append ih
    · rw [Node.unravel, Node.unravel]
      exact .element tail innerIh ih
  | @captioned head children children' xs ys text tail isFigure alone inner rest innerIh ih =>
    have whole (children : List Node) :
        (Node.element head children tail).needsUnravelling = false := by
      rw [Node.needsUnravelling_element, isFigure]
      rfl
    rw [Node.unravelAll, Node.unravelAll, whole, whole]
    exact (captioned_unravel text tail isFigure alone innerIh).cons ih

theorem unravelIf (twins : Twins [x] [y]) (settings : Settings) :
    Twins [x.unravelIf settings] [y.unravelIf settings] := by
  unfold Node.unravelIf
  split
  · cases twins with
    | other noElement => exact .refl _
    | element tail inner =>
      rw [Node.unravel, Node.unravel]
      exact .element tail inner.unravelAll .nil
    | captioned text tail isFigure alone inner =>
      exact captioned_unravel text tail isFigure alone inner.unravelAll
  · exact twins

end Twins

end MediaMarkup

import MediaMarkup.Document.Paragraph
import MediaMarkup.Proofs.LevelRun
import MediaMarkup.Proofs.Media
import MediaMarkup.Proofs.Search

/-!
What unravelling keeps. A measure of nodes that does not look at paragraphs and tails
(`Paragraph.Blind`) is the same for the pieces of a paragraph as for its children. Hence links that
lie in one another are found before and after (`nests_unravel`), and the media elements stay in
their order (`media_unravelAll`).
-/

namespace MediaMarkup

namespace Paragraph

/-- A measure of lists of nodes in which a paragraph counts as its children, and a tail as
nothing. -/
structure Blind {α : Type} (join : α → α → α) (measure : List Node → α) : Prop where
  append (xs ys : List Node) : measure (xs ++ ys) = join (measure xs) (measure ys)
  withTail (tail : String) (node : Node) : measure [node.withTail tail] = measure [node]
  paragraph {head : Head} (isParagraph : head.tag = "p") (children : List Node) (tail : String) :
    measure [.element head children tail] = measure children

theorem isParagraph_of_isBlank {piece : Node} (blank : isBlank piece = true) :
    ∃ head tail, piece = .element head [] tail ∧ head.tag = "p" := by
  cases piece with
  | element head children tail =>
    simp only [isBlank, Bool.and_eq_true, decide_eq_true_eq, List.isEmpty_iff] at blank
    obtain ⟨⟨isParagraph, rfl⟩, -⟩ := blank
    exact ⟨head, tail, rfl, isParagraph⟩
  | comment => cases blank
  | instruction => cases blank

end Paragraph

theorem Node.isParagraph_of_needsUnravelling {node : Node} (needs : node.needsUnravelling = true) :
    ∃ head children tail, node = .element head children tail ∧ head.tag = "p" := by
  cases node with
  | element head children tail =>
    refine ⟨head, children, tail, rfl, ?_⟩
    simp only [needsUnravelling, Bool.and_eq_true, hasTag, decide_eq_true_eq] at needs
    exact Option.some.inj needs.1
  | comment => cases needs
  | instruction => cases needs

namespace Paragraph

namespace Blind

variable {α : Type} {join : α → α → α} {measure : List Node → α}

theorem cons (blind : Blind join measure) (node : Node) (rest : List Node) :
    measure (node :: rest) = join (measure [node]) (measure rest) :=
  blind.append [node] rest

theorem join_nil (blind : Blind join measure) (nodes : List Node) :
    join (measure []) (measure nodes) = measure nodes :=
  (blind.append [] nodes).symm

theorem trimLastTail (blind : Blind join measure) (nodes : List Node) :
    measure (Paragraph.trimLastTail nodes) = measure nodes := by
  induction nodes with
  | nil => rfl
  | cons node rest ih =>
    cases rest with
    | nil => exact blind.withTail _ node
    | cons next rest =>
      rw [Paragraph.trimLastTail, blind.cons, ih, ← blind.cons]
      exact List.cons_ne_nil next rest

theorem trim (blind : Blind join measure) (piece : Node) :
    measure [Paragraph.trim piece] = measure [piece] := by
  cases piece with
  | comment => rfl
  | instruction => rfl
  | element head children tail =>
    rw [Paragraph.trim]
    split
    · rename_i isParagraph
      rw [blind.paragraph isParagraph]
      dsimp only
      split
      · refine blind.paragraph ?_ children tail
        exact isParagraph
      · refine (blind.paragraph ?_ (Paragraph.trimLastTail children) tail).trans
          (blind.trimLastTail children)
        exact isParagraph
    · rfl

/-- Dropping blank pieces and trimming the others loses nothing. -/
theorem filter_trim (blind : Blind join measure) (pieces : List Node) :
    measure ((pieces.filter fun piece => !isBlank piece).map Paragraph.trim) = measure pieces := by
  induction pieces with
  | nil => rfl
  | cons piece rest ih =>
    rw [blind.cons piece rest]
    cases blank : isBlank piece with
    | true =>
      obtain ⟨head, tail, rfl, isParagraph⟩ := isParagraph_of_isBlank blank
      rw [List.filter_cons_of_neg (by simp [blank]), ih, blind.paragraph isParagraph,
        blind.join_nil]
    | false =>
      rw [List.filter_cons_of_pos (by simp [blank]), List.map_cons, blind.cons, ih, blind.trim]

theorem cut (blind : Blind join measure) (nodes : List Node) :
    ∀ (attributes : Attributes) (text : String) (gathered : List Node),
      measure (Paragraph.cut attributes text gathered nodes) = measure (gathered ++ nodes) := by
  induction nodes with
  | nil =>
    intro attributes text gathered
    rw [Paragraph.cut, make, blind.paragraph rfl, List.append_nil]
  | cons node rest ih =>
    intro attributes text gathered
    rw [Paragraph.cut]
    split
    · rw [blind.cons, make, blind.paragraph rfl, blind.cons, Node.withoutTail, blind.withTail, ih,
        List.nil_append, ← blind.cons, ← blind.append]
    · rw [ih, List.append_assoc, List.singleton_append]

/-- The pieces of a paragraph count as its children. -/
theorem split (blind : Blind join measure) (head : Head) (children : List Node) (tail : String) :
    measure (Paragraph.split (.element head children tail)) = measure children := by
  rw [Paragraph.split, blind.filter_trim, cutNode, blind.cut, List.nil_append]

theorem onLines (blind : Blind join measure) (tail : String) (pieces : List Node) :
    measure (Paragraph.onLines tail pieces) = measure pieces := by
  induction pieces with
  | nil => rfl
  | cons piece rest ih =>
    cases rest with
    | nil => exact blind.withTail tail piece
    | cons next rest =>
      rw [Paragraph.onLines, blind.cons, ih, blind.withTail, ← blind.cons]
      exact List.cons_ne_nil next rest

/-- What takes the place of a paragraph that is unravelled counts as the paragraph. -/
theorem pieces (blind : Blind join measure) {node : Node} (needs : node.needsUnravelling = true) :
    measure (Paragraph.onLines node.tail (Paragraph.split node)) = measure [node] := by
  obtain ⟨head, children, tail, rfl, isParagraph⟩ := Node.isParagraph_of_needsUnravelling needs
  rw [blind.onLines, blind.split, blind.paragraph isParagraph]

end Blind

end Paragraph

/-! ## Searches -/

/-- A search that passes over paragraphs is blind. -/
theorem Search.blind {search : Search}
    (passes : ∀ head children, head.tag = "p" → search head children = none) :
    Paragraph.Blind or (Node.findsAny search) where
  append xs ys := Node.findsAny_append xs ys
  withTail tail node := by simp
  paragraph isParagraph children tail := by
    rw [Node.findsAny_cons, Node.finds_of_none (passes _ _ isParagraph), Node.findsAny_nil,
      Bool.or_false]

namespace Node

theorem unravelAll_comment (text tail : String) (rest : List Node) :
    unravelAll (.comment text tail :: rest) = .comment text tail :: unravelAll rest := by
  simp only [unravelAll, unravel]
  rfl

theorem unravelAll_instruction (text tail : String) (rest : List Node) :
    unravelAll (.instruction text tail :: rest) = .instruction text tail :: unravelAll rest := by
  simp only [unravelAll, unravel]
  rfl

theorem unravelAll_append (xs ys : List Node) :
    unravelAll (xs ++ ys) = unravelAll xs ++ unravelAll ys := by
  induction xs with
  | nil => rw [unravelAll]; rfl
  | cons node xs ih =>
    rw [List.cons_append, unravelAll, unravelAll, ih]
    split
    · rw [List.append_assoc]
    · rfl

theorem unravelAll_figcaption (text : String) (rest : List Node) :
    unravelAll (figcaption text :: rest) = figcaption text :: unravelAll rest := by
  have whole : (figcaption text).needsUnravelling = false := rfl
  rw [unravelAll, whole, if_neg (by decide), figcaption, unravel, unravelAll]

/-- What a blind measure collects stays in its order, each member changed as it changes in an
element of its own. -/
theorem forall₂_unravelAll {α : Type} {measure : List Node → List α} {R : α → α → Prop}
    (blind : Paragraph.Blind (· ++ ·) measure) (refl : ∀ x, R x x)
    (element : ∀ head children tail,
      List.Forall₂ R (measure children) (measure (unravelAll children)) →
        List.Forall₂ R (measure [.element head children tail])
          (measure [.element head (unravelAll children) tail]))
    (nodes : List Node) : List.Forall₂ R (measure nodes) (measure (unravelAll nodes)) := by
  have same (nodes : List Node) : List.Forall₂ R (measure nodes) (measure nodes) :=
    List.forall₂_same.mpr fun x _ => refl x
  induction nodes using Node.inductionOnAll with
  | nil =>
    rw [unravelAll]
    exact same []
  | element head children tail rest inner ih =>
    rw [unravelAll, blind.cons]
    split
    · rename_i needs
      rw [blind.append, blind.pieces needs]
      exact List.rel_append (same _) ih
    · rw [blind.cons (unravel _), unravel]
      exact List.rel_append (element head children tail inner) ih
  | comment text tail rest ih =>
    rw [unravelAll_comment, blind.cons, blind.cons _ (unravelAll rest)]
    exact List.rel_append (same _) ih
  | instruction text tail rest ih =>
    rw [unravelAll_instruction, blind.cons, blind.cons _ (unravelAll rest)]
    exact List.rel_append (same _) ih

/-- Unravelling changes nothing for a search that passes over paragraphs, if no element looks
different to it with its children unravelled. -/
theorem findsAny_unravelAll {search : Search}
    (passes : ∀ head children, head.tag = "p" → search head children = none)
    (same : ∀ head children, search head (unravelAll children) = search head children)
    (nodes : List Node) : findsAny search (unravelAll nodes) = findsAny search nodes := by
  have blind := Search.blind passes
  induction nodes using Node.inductionOnAll with
  | nil => rw [unravelAll]
  | element head children tail rest inner ih =>
    rw [unravelAll, blind.cons _ rest]
    split
    · rename_i needs
      rw [blind.append, blind.pieces needs, ih]
    · rw [findsAny_cons, unravel, finds_element, same, inner, ih, findsAny_cons, findsAny_nil,
        Bool.or_false, finds_element]
  | comment text tail rest ih => rw [unravelAll_comment, findsAny_cons, findsAny_cons, ih]
  | instruction text tail rest ih => rw [unravelAll_instruction, findsAny_cons, findsAny_cons, ih]

variable {tag : String}

theorem findsAny_tagged_unravelAll (other : tag ≠ "p") (nodes : List Node) :
    findsAny (.tagged tag) (unravelAll nodes) = findsAny (.tagged tag) nodes := by
  have passes (head : Head) (children : List Node) (isParagraph : head.tag = "p") :
      Search.tagged tag head children = none :=
    if_neg fun same => other (same.symm.trans isParagraph)
  exact findsAny_unravelAll passes (fun _ _ => rfl) nodes

/-- Elements of a tag lie in one another as before when paragraphs are unravelled. -/
theorem nests_unravel (other : tag ≠ "p") (tree : Node) :
    tree.unravel.nests tag = tree.nests tag := by
  have passes (head : Head) (children : List Node) (isParagraph : head.tag = "p") :
      Search.nesting tag head children = none :=
    if_neg fun same => other (same.symm.trans isParagraph)
  have same (head : Head) (children : List Node) :
      Search.nesting tag head (unravelAll children) = Search.nesting tag head children := by
    rw [Search.nesting, Search.nesting, findsAny_tagged_unravelAll other]
  cases tree with
  | element head children tail =>
    rw [unravel, nests, nests, finds_element, finds_element, same,
      findsAny_unravelAll passes same]
  | comment => simp [unravel]
  | instruction => simp [unravel]

end Node

/-! ## Media elements -/

theorem blind_mediaAll : Paragraph.Blind (· ++ ·) Node.mediaAll where
  append := Node.mediaAll_append
  withTail tail node := by simp
  paragraph {head} isParagraph children tail := by
    have other : head.tag ∉ Media.tags := by
      rw [isParagraph]
      decide
    rw [Node.mediaAll_cons, Node.media_of_other other, Node.mediaAll_nil, List.append_nil]

/-- A media element before and after a document was unravelled: its head stays as it was. -/
def Unravelled (old new : Head × List Node) : Prop :=
  new.1 = old.1 ∧ (new.2 = old.2 ∨ new.2 = Node.unravelAll old.2)

theorem Unravelled.refl (all : List (Head × List Node)) : List.Forall₂ Unravelled all all :=
  List.forall₂_same.mpr fun _ _ => ⟨rfl, .inl rfl⟩

namespace Node

variable {tag : String}

/-- Unravelling keeps the media elements in their order. -/
theorem media_unravelAll (nodes : List Node) :
    List.Forall₂ Unravelled (mediaAll nodes) (mediaAll (unravelAll nodes)) := by
  refine forall₂_unravelAll blind_mediaAll (fun _ => ⟨rfl, .inl rfl⟩) ?_ nodes
  intro head children tail inner
  rw [mediaAll_cons, mediaAll_cons, mediaAll_nil, List.append_nil, List.append_nil]
  by_cases media : head.tag ∈ Media.tags
  · rw [media_of_media media, media_of_media media]
    exact .cons ⟨rfl, .inr rfl⟩ .nil
  · rw [media_of_other media, media_of_other media]
    exact inner

/-! ## Behind a pass -/

theorem nests_unravelIf (other : tag ≠ "p") (settings : Settings) (tree : Node) :
    (tree.unravelIf settings).nests tag = tree.nests tag := by
  unfold unravelIf
  split
  · exact nests_unravel other tree
  · rfl

theorem media_unravelIf (settings : Settings) (tree : Node) :
    List.Forall₂ Unravelled (mediaAll tree.children)
      (mediaAll (tree.unravelIf settings).children) := by
  unfold unravelIf
  split
  · cases tree with
    | element head children tail =>
      rw [unravel]
      exact media_unravelAll children
    | comment =>
      simp only [unravel]
      exact Unravelled.refl _
    | instruction =>
      simp only [unravel]
      exact Unravelled.refl _
  · exact Unravelled.refl _

end Node

end MediaMarkup

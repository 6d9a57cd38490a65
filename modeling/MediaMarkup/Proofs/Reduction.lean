import MediaMarkup.Proofs.Content

/-!
Reductions of a document: what is left of it when every text is cut down in the same way and every
element leaves something of its own choice in its parent's content. `Node.reduce` is the content
that a node leaves, with its tail, and `Node.reduced` a document with all below its root reduced.
-/

namespace MediaMarkup

structure Reduction where
  /-- What stays of a text. -/
  text : String → String
  /-- What an element leaves, given its own content. -/
  element : Head → Content → Content
  text_empty : text "" = ""

/-- An element that keeps its content. -/
def Content.asElement (head : Head) (content : Content) : Content :=
  ⟨"", [.element { head with text := content.text } content.nodes ""]⟩

theorem Content.append_ofText_empty (content : Content) : content ++ ofText "" = content :=
  append_empty content

namespace Node

mutual

def reduce (reduction : Reduction) : Node → Content
  | .element head children tail =>
    reduction.element head (.ofText (reduction.text head.text) ++ reduceAll reduction children) ++
      .ofText (reduction.text tail)
  | .comment text tail => ⟨"", [.comment text (reduction.text tail)]⟩
  | .instruction text tail => ⟨"", [.instruction text (reduction.text tail)]⟩

def reduceAll (reduction : Reduction) : List Node → Content
  | [] => .empty
  | node :: rest => reduce reduction node ++ reduceAll reduction rest

end

/-- A document with all below its root reduced. -/
def reduced (reduction : Reduction) : Node → Node
  | .element head children tail =>
    let content := Content.ofText (reduction.text head.text) ++ reduceAll reduction children
    .element { head with text := content.text } content.nodes tail
  | node => node

variable {reduction : Reduction}

theorem reduce_element (head : Head) (children : List Node) (tail : String) :
    reduce reduction (.element head children tail) =
      reduction.element head
          (.ofText (reduction.text head.text) ++ reduceAll reduction children) ++
        .ofText (reduction.text tail) := by
  rw [reduce]

theorem reduceAll_nil : reduceAll reduction [] = .empty := by
  rw [reduceAll]

theorem reduceAll_cons (node : Node) (rest : List Node) :
    reduceAll reduction (node :: rest) = reduce reduction node ++ reduceAll reduction rest := by
  rw [reduceAll]

theorem reduceAll_singleton (node : Node) : reduceAll reduction [node] = reduce reduction node := by
  rw [reduceAll_cons, reduceAll_nil, Content.append_empty]

theorem reduceAll_append (xs ys : List Node) :
    reduceAll reduction (xs ++ ys) = reduceAll reduction xs ++ reduceAll reduction ys := by
  induction xs with
  | nil => rw [List.nil_append, reduceAll_nil, Content.empty_append]
  | cons node xs ih =>
    rw [List.cons_append, reduceAll_cons, reduceAll_cons, ih, Content.append_assoc]

/-- The tail of a node stays behind what the node leaves. -/
theorem reduce_withTail (tail : String) (node : Node) :
    reduce reduction (node.withTail tail) =
      reduce reduction node.withoutTail ++ .ofText (reduction.text tail) := by
  cases node with
  | element head children _ =>
    simp only [withTail, withoutTail, reduce_element, reduction.text_empty,
      Content.append_ofText_empty]
  | comment text _ =>
    simp only [withTail, withoutTail, reduce, reduction.text_empty, Content.ofText,
      Content.mk_cons_append, Content.appendText, Node.tail, String.empty_append,
      List.append_nil]
  | instruction text _ =>
    simp only [withTail, withoutTail, reduce, reduction.text_empty, Content.ofText,
      Content.mk_cons_append, Content.appendText, Node.tail, String.empty_append,
      List.append_nil]

theorem reduce_eq_withoutTail (node : Node) :
    reduce reduction node =
      reduce reduction node.withoutTail ++ .ofText (reduction.text node.tail) := by
  rw [← reduce_withTail, withTail_tail]

/-- A document is reduced to the same if its children are. -/
theorem reduced_congr {children children' : List Node} (head : Head) (tail : String)
    (same : reduceAll reduction children = reduceAll reduction children') :
    reduced reduction (.element head children tail) =
      reduced reduction (.element head children' tail) := by
  simp only [reduced, same]

end Node

end MediaMarkup

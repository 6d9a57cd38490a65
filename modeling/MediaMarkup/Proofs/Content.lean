import MediaMarkup.Document.Node

/-!
Contents of elements. A text at the seam of two contents goes to the tail of the node before it, as
where an element is taken out and its children and texts stay; so contents are a monoid
(`Content.append_assoc`).
-/

namespace MediaMarkup

/-- The content of an element: the text before its first node, and its nodes with their tails. -/
structure Content where
  text : String
  nodes : List Node

namespace Content

def empty : Content := ⟨"", []⟩

def ofText (text : String) : Content := ⟨text, []⟩

/-- Nodes with a text put behind the last of them. -/
def appendText (text : String) : List Node → List Node
  | [] => []
  | [node] => [node.withTail (node.tail ++ text)]
  | node :: next :: rest => node :: appendText text (next :: rest)

/-- One content behind another: a text at the seam goes to the node before it. -/
def append (a b : Content) : Content :=
  match a.nodes with
  | [] => ⟨a.text ++ b.text, b.nodes⟩
  | node :: rest => ⟨a.text, appendText b.text (node :: rest) ++ b.nodes⟩

instance : Append Content := ⟨append⟩

theorem mk_nil_append (text text' : String) (nodes : List Node) :
    (⟨text, []⟩ : Content) ++ ⟨text', nodes⟩ = ⟨text ++ text', nodes⟩ := rfl

theorem mk_cons_append (text text' : String) (node : Node) (rest nodes : List Node) :
    (⟨text, node :: rest⟩ : Content) ++ ⟨text', nodes⟩ =
      ⟨text, appendText text' (node :: rest) ++ nodes⟩ := rfl

theorem appendText_empty (nodes : List Node) : appendText "" nodes = nodes := by
  induction nodes with
  | nil => rfl
  | cons node rest ih =>
    cases rest with
    | nil => simp [appendText]
    | cons next rest => rw [appendText, ih]

theorem appendText_append_cons (text : String) (nodes rest : List Node) (node : Node) :
    appendText text (nodes ++ node :: rest) = nodes ++ appendText text (node :: rest) := by
  induction nodes with
  | nil => rfl
  | cons first nodes ih =>
    cases nodes with
    | nil => rfl
    | cons next nodes => simp only [List.cons_append, appendText] at ih ⊢; rw [ih]

theorem appendText_appendText (first second : String) (nodes : List Node) :
    appendText second (appendText first nodes) = appendText (first ++ second) nodes := by
  induction nodes with
  | nil => rfl
  | cons node rest ih =>
    cases rest with
    | nil => simp [appendText, String.append_assoc]
    | cons next rest =>
      cases rest with
      | nil => simpa [appendText] using ih
      | cons third rest => simpa [appendText] using ih

theorem append_empty (a : Content) : a ++ empty = a := by
  obtain ⟨text, nodes⟩ := a
  cases nodes with
  | nil => simp [empty, mk_nil_append]
  | cons node rest => simp [empty, mk_cons_append, appendText_empty]

theorem empty_append (a : Content) : empty ++ a = a := by
  obtain ⟨text, nodes⟩ := a
  simp [empty, mk_nil_append]

theorem appendText_ne_nil (text : String) (node : Node) (rest : List Node) :
    appendText text (node :: rest) ≠ [] := by
  cases rest <;> simp [appendText]

theorem mk_append_of_ne_nil {nodes : List Node} (h : nodes ≠ []) (text text' : String)
    (nodes' : List Node) :
    (⟨text, nodes⟩ : Content) ++ ⟨text', nodes'⟩ = ⟨text, appendText text' nodes ++ nodes'⟩ := by
  cases nodes with
  | nil => exact absurd rfl h
  | cons node rest => rfl

theorem append_assoc (a b c : Content) : a ++ b ++ c = a ++ (b ++ c) := by
  obtain ⟨ta, na⟩ := a
  obtain ⟨tb, nb⟩ := b
  obtain ⟨tc, nc⟩ := c
  cases na with
  | nil =>
    cases nb with
    | nil => simp [mk_nil_append, String.append_assoc]
    | cons node rest => simp [mk_nil_append, mk_cons_append]
  | cons first na =>
    cases nb with
    | nil =>
      rw [mk_cons_append, mk_nil_append, mk_cons_append, List.append_nil,
        mk_append_of_ne_nil (appendText_ne_nil tb first na), appendText_appendText]
    | cons node rest =>
      rw [mk_cons_append, mk_cons_append, mk_cons_append,
        mk_append_of_ne_nil (by simp), appendText_append_cons, List.append_assoc]

end Content

end MediaMarkup

import MediaMarkup.Proofs.Asked
import MediaMarkup.Proofs.Level

/-!
Searching a document. A search says of an element that it is found, or that it is passed over with
all that is in it; where it says nothing, it goes on among the children. `Node.containsTag` and
`Node.nests` are the searches for an element of a tag, and for one in another of the same tag.
-/

namespace MediaMarkup

/-- What is made of an element, given its head and its children. -/
abbrev Search := Head → List Node → Option Bool

namespace Node

mutual

def finds (search : Search) : Node → Bool
  | .element head children _ => (search head children).getD (findsAny search children)
  | _ => false

def findsAny (search : Search) : List Node → Bool
  | [] => false
  | node :: rest => finds search node || findsAny search rest

end

variable {search : Search} {head : Head} {children : List Node} {tail : String}

@[simp] theorem findsAny_nil : findsAny search [] = false := by
  rw [findsAny]

@[simp] theorem findsAny_cons (node : Node) (rest : List Node) :
    findsAny search (node :: rest) = (finds search node || findsAny search rest) := by
  rw [findsAny]

@[simp] theorem findsAny_append (xs ys : List Node) :
    findsAny search (xs ++ ys) = (findsAny search xs || findsAny search ys) := by
  induction xs with
  | nil => simp
  | cons node xs ih => simp [ih, Bool.or_assoc]

theorem findsAny_eq_true {nodes : List Node} :
    findsAny search nodes = true ↔ ∃ node ∈ nodes, finds search node = true := by
  induction nodes with
  | nil => simp
  | cons node nodes ih => simp [ih]

theorem findsAny_eq_false {nodes : List Node} :
    findsAny search nodes = false ↔ ∀ node ∈ nodes, finds search node = false := by
  rw [← Bool.not_eq_true, findsAny_eq_true]
  simp

theorem finds_element :
    finds search (.element head children tail) =
      (search head children).getD (findsAny search children) := by
  rw [finds]

theorem finds_of_some {found : Bool} (h : search head children = some found) :
    finds search (.element head children tail) = found := by
  rw [finds, h, Option.getD_some]

theorem finds_of_none (h : search head children = none) :
    finds search (.element head children tail) = findsAny search children := by
  rw [finds, h, Option.getD_none]

@[simp] theorem finds_comment (text tail : String) :
    finds search (.comment text tail) = false := by
  rw [finds]; simp

@[simp] theorem finds_instruction (text tail : String) :
    finds search (.instruction text tail) = false := by
  rw [finds]; simp

theorem finds_of_noElement {node : Node} (h : node.isElement = false) :
    finds search node = false := by
  cases node with
  | element => simp [isElement, head?] at h
  | comment text tail => exact finds_comment text tail
  | instruction text tail => exact finds_instruction text tail

@[simp] theorem finds_withTail (tail : String) (node : Node) :
    finds search (node.withTail tail) = finds search node := by
  cases node with
  | element => simp only [withTail, finds_element]
  | comment => rfl
  | instruction => rfl

end Node

/-! ## Tags -/

namespace Search

/-- The search for an element of a tag. -/
def tagged (tag : String) : Search := fun head _ =>
  if head.tag = tag then some true else none

/-- The search for an element of a tag that has another one in it. -/
def nesting (tag : String) : Search := fun head children =>
  if head.tag = tag then some (Node.findsAny (tagged tag) children) else none

end Search

namespace Node

/-- Whether the node or one below it is an element of the tag. -/
def containsTag (tag : String) (node : Node) : Bool :=
  node.finds (.tagged tag)

/-- Whether an element of the tag lies in another one. -/
def nests (tag : String) (node : Node) : Bool :=
  node.finds (.nesting tag)

variable {tag : String} {head : Head} {children : List Node} {tail : String}

theorem containsTag_element :
    containsTag tag (.element head children tail) =
      (decide (head.tag = tag) || findsAny (.tagged tag) children) := by
  rw [containsTag, finds_element, Search.tagged]
  split <;> simp [*]

theorem nests_of_tag (h : head.tag = tag) :
    nests tag (.element head children tail) = findsAny (.tagged tag) children :=
  finds_of_some (if_pos h)

theorem nests_of_ne (h : head.tag ≠ tag) :
    nests tag (.element head children tail) = findsAny (.nesting tag) children :=
  finds_of_none (if_neg h)

/-- A search that only finds elements of a tag finds none where there is none. -/
theorem finds_eq_false_of_tagged {search : Search}
    (only : ∀ head children, head.tag ≠ tag → search head children = none) (node : Node)
    (none : node.containsTag tag = false) : finds search node = false := by
  induction node using Node.inductionOn with
  | element head children tail ih =>
    rw [containsTag_element, Bool.or_eq_false_iff, decide_eq_false_iff_not] at none
    rw [finds_of_none (only head children none.1), findsAny_eq_false]
    intro child mem
    exact ih child mem (findsAny_eq_false.mp none.2 child mem)
  | comment => exact finds_comment ..
  | instruction => exact finds_instruction ..

theorem findsAny_eq_false_of_tagged {search : Search}
    (only : ∀ head children, head.tag ≠ tag → search head children = none) {nodes : List Node}
    (none : findsAny (.tagged tag) nodes = false) : findsAny search nodes = false := by
  rw [findsAny_eq_false] at none ⊢
  intro node mem
  exact finds_eq_false_of_tagged only node (none node mem)

theorem findsAny_nesting_eq_false {nodes : List Node}
    (none : findsAny (.tagged tag) nodes = false) : findsAny (.nesting tag) nodes = false :=
  findsAny_eq_false_of_tagged (fun _ _ other => if_neg other) none

end Node

/-! ## New elements -/

/-- A search that says nothing of new figcaptions. -/
def Search.PassesCaptions (search : Search) : Prop :=
  ∀ head, head.tag = "figcaption" → search head [] = none

theorem Search.tagged_passesCaptions {tag : String} (noCaption : tag ≠ "figcaption") :
    (Search.tagged tag).PassesCaptions := fun _ isCaption =>
  if_neg fun same => noCaption (same.symm.trans isCaption)

theorem Search.nesting_passesCaptions {tag : String} (noCaption : tag ≠ "figcaption") :
    (Search.nesting tag).PassesCaptions := fun _ isCaption =>
  if_neg fun same => noCaption (same.symm.trans isCaption)

namespace Search.PassesCaptions

variable {search : Search} {settings : Settings} {caption : Option Node}

theorem findsAny_figcaptions (passes : search.PassesCaptions) {nodes : List Node}
    (h : ∀ node ∈ nodes, ∃ text, node = figcaption text) :
    Node.findsAny search nodes = false := by
  rw [Node.findsAny_eq_false]
  intro node mem
  obtain ⟨text, rfl⟩ := h node mem
  rw [figcaption, Node.finds_of_none (passes _ rfl), Node.findsAny_nil]

theorem findsAny_captionFront (passes : search.PassesCaptions)
    (isCaption : ∀ node ∈ caption, ∃ text, node = figcaption text) :
    Node.findsAny search (captionFront settings caption) = false :=
  passes.findsAny_figcaptions fun node h => isCaption node (mem_captionFront h)

theorem findsAny_captionBack (passes : search.PassesCaptions)
    (isCaption : ∀ node ∈ caption, ∃ text, node = figcaption text) :
    Node.findsAny search (captionBack settings caption) = false :=
  passes.findsAny_figcaptions fun node h => isCaption node (mem_captionBack h)

theorem finds_moved (passes : search.PassesCaptions)
    (isCaption : ∀ node ∈ caption, ∃ text, node = figcaption text) {node : Node}
    (moved : captionFront settings caption = [node]) : node.finds search = false := by
  have front : Node.findsAny search (captionFront settings caption) = false :=
    passes.findsAny_captionFront isCaption
  rw [moved, Node.findsAny_cons, Node.findsAny_nil, Bool.or_false] at front
  exact front

end Search.PassesCaptions

namespace Frame.IsShell

variable {frame : Frame} {tag : String}

/-- A shell has no element of the tag around its figcaptions. -/
theorem findsAny_figcaptions (isShell : frame.IsShell) (noCaption : tag ≠ "figcaption") :
    Node.findsAny (.tagged tag) frame.before = false ∧
      Node.findsAny (.tagged tag) frame.after = false := by
  rw [← Bool.or_eq_false_iff, ← Node.findsAny_append]
  exact (Search.tagged_passesCaptions noCaption).findsAny_figcaptions isShell.figcaptions

theorem containsTag_attach (isShell : frame.IsShell) (noCaption : tag ≠ "figcaption")
    (node : Node) :
    (frame.attach node).containsTag tag =
      (decide (frame.head.tag = tag) || node.containsTag tag) := by
  obtain ⟨before, after⟩ := isShell.findsAny_figcaptions noCaption
  rw [attach, Node.containsTag_element, Node.findsAny_append, Node.findsAny_cons, before, after,
    Bool.false_or, Bool.or_false, Node.containsTag]

theorem nests_attach (isShell : frame.IsShell) (noCaption : tag ≠ "figcaption") (node : Node) :
    (frame.attach node).nests tag =
      if frame.head.tag = tag then node.containsTag tag else node.nests tag := by
  obtain ⟨before, after⟩ := isShell.findsAny_figcaptions noCaption
  have before' := Node.findsAny_nesting_eq_false before
  have after' := Node.findsAny_nesting_eq_false after
  by_cases same : frame.head.tag = tag
  · rw [attach, Node.nests_of_tag same, if_pos same, Node.findsAny_append, Node.findsAny_cons,
      before, after, Bool.false_or, Bool.or_false, Node.containsTag]
  · rw [attach, Node.nests_of_ne same, if_neg same, Node.findsAny_append, Node.findsAny_cons,
      before', after', Bool.false_or, Bool.or_false, Node.nests]

end Frame.IsShell

namespace Node

variable {tag : String} {shells : List Frame}

theorem containsTag_within (isShell : ∀ frame ∈ shells, frame.IsShell)
    (noCaption : tag ≠ "figcaption") (node : Node) :
    (node.within shells).containsTag tag =
      (shells.any (fun frame => decide (frame.head.tag = tag)) || node.containsTag tag) := by
  induction shells generalizing node with
  | nil => rfl
  | cons frame shells ih =>
    have inner := ih (fun frame h => isShell frame (List.mem_cons_of_mem _ h)) (frame.attach node)
    rw [within] at inner ⊢
    rw [List.foldl_cons, inner, (isShell frame List.mem_cons_self).containsTag_attach noCaption,
      List.any_cons, ← Bool.or_assoc, Bool.or_comm (List.any ..)]

/-- Around a node, at most one of the new elements has the tag: one lies in another then only if
the node has one in it. -/
theorem nests_within (isShell : ∀ frame ∈ shells, frame.IsShell)
    (noCaption : tag ≠ "figcaption")
    (once : shells.countP (fun frame => decide (frame.head.tag = tag)) ≤ 1) (node : Node) :
    (node.within shells).nests tag =
      (shells.any (fun frame => decide (frame.head.tag = tag)) && node.containsTag tag ||
        node.nests tag) := by
  induction shells generalizing node with
  | nil => rfl
  | cons frame shells ih =>
    have isShell' : ∀ frame ∈ shells, frame.IsShell := fun frame h =>
      isShell frame (List.mem_cons_of_mem _ h)
    have first := isShell frame List.mem_cons_self
    rw [List.countP_cons] at once
    have inner := ih isShell' (by omega) (frame.attach node)
    rw [within] at inner ⊢
    rw [List.foldl_cons, inner, first.containsTag_attach noCaption, first.nests_attach noCaption,
      List.any_cons]
    by_cases same : frame.head.tag = tag
    · have none : shells.any (fun frame => decide (frame.head.tag = tag)) = false := by
        rw [← Bool.not_eq_true, List.any_eq_true, ← List.countP_pos_iff]
        simp only [same, decide_true, ↓reduceIte] at once
        omega
      have outside (h : node.containsTag tag = false) : node.nests tag = false :=
        finds_eq_false_of_tagged (fun _ _ other => if_neg other) node h
      rw [none]
      cases h : node.containsTag tag
      · simp [same, outside h]
      · simp [same]
    · simp [same]

end Node

namespace Change.Handled

variable {settings : Settings} {site : Site} {head : Head} {inner : List Node} {change : Change}
  {search : Search}

/-- A search that passes over media elements and sources finds in a handled element what it found in
its children, unless they were dropped. -/
theorem finds_media (handled : Handled .data settings site head inner change)
    (media : head.tag ∈ Media.tags)
    (passes : ∀ head children, head.tag ∈ Media.tags ∨ head.tag = "source" →
      search head children = Option.none) :
    change.media.finds search = (!head.converts && Node.findsAny search inner) := by
  obtain ⟨head', children', media_eq, -, children_eq⟩ := handled.media_children
  rw [media_eq]
  split at children_eq
  · obtain ⟨media', source, mime, rfl⟩ := children_eq
    rw [Node.finds_of_none (passes _ _ (.inl media')), sourceElement, Node.findsAny_cons,
      Node.finds_of_none (passes _ _ (.inr rfl))]
    simp [*]
  · obtain ⟨same, rfl⟩ := children_eq
    rw [Node.finds_of_none (passes _ _ (.inl (same ▸ media)))]
    simp [*]

end Change.Handled

end MediaMarkup

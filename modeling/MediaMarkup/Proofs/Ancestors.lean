import MediaMarkup.Document.Path
import MediaMarkup.Enrich.Pass
import MediaMarkup.Proofs.Asked
import MediaMarkup.Proofs.Walk

/-!
The list of ancestors that a walk hands to its visitor. It has no links to the parents to follow: it
grows on the way down, is shared by the children of one element, and a visitor that puts a link
around the open element adds that link to it. `Walk.Coherent` says that it is the chain of the
place, on every level that is still open; the edits of an enriching pass keep it, and so do entering
and resuming. Main statement: `ancestors_of_visit`.
-/

namespace MediaMarkup

/-! ## Paths of places -/

namespace Node

/-- The heads of the elements above what a path leads to, innermost first. -/
def above? : Path → Node → Option (List Head)
  | [], _ => some []
  | index :: path, .element head children _ =>
    (children[index]?.bind (above? path)).map (· ++ [head])
  | _ :: _, _ => none

end Node

namespace Frame

/-- The path to the child that frames are around, innermost first. -/
def path (frames : List Frame) : Path :=
  (frames.map fun frame => frame.before.length).reverse

theorem path_cons (frame : Frame) (outer : List Frame) (rest : Path) :
    path (frame :: outer) ++ rest = path outer ++ frame.before.length :: rest := by
  simp [path]

theorem path_eq_nil {frames : List Frame} : path frames = [] ↔ frames = [] := by
  simp [path]

end Frame

namespace Node

theorem at?_attach (frame : Frame) {node : Node} (element : node.isElement = true) (rest : Path) :
    (frame.attach node).at? (frame.before.length :: rest) = node.at? rest := by
  simp [at?, Frame.attach, Node.children, element]

/-- The path of frames leads to what they are around. -/
theorem at?_within (frames : List Frame) {node : Node} (element : node.isElement = true)
    (rest : Path) : (node.within frames).at? (Frame.path frames ++ rest) = node.at? rest := by
  induction frames generalizing node rest with
  | nil => rfl
  | cons frame outer ih =>
    rw [Frame.path_cons, ← at?_attach frame element rest]
    exact ih rfl (frame.before.length :: rest)

/-- Above what frames are around are the heads of the frames. -/
theorem above?_within (frames : List Frame) (node : Node) (rest : Path) :
    (node.within frames).above? (Frame.path frames ++ rest) =
      (node.above? rest).map (· ++ frames.map Frame.head) := by
  induction frames generalizing node rest with
  | nil => simp [within, Frame.path]
  | cons frame outer ih =>
    have one : (frame.attach node).above? (frame.before.length :: rest) =
        (node.above? rest).map (· ++ [frame.head]) := by
      simp [above?, Frame.attach]
    rw [Frame.path_cons]
    refine (ih (frame.attach node) (frame.before.length :: rest)).trans ?_
    rw [one, Option.map_map]
    congr 1
    funext heads
    simp

end Node

namespace Place

/-- The path to the open element. -/
def path (place : Place) : Path :=
  Frame.path place.outer

variable {place : Place} {index : Nat}

theorem at?_path (place : Place) (rest : Path) :
    place.root.at? (place.path ++ rest) = place.node.at? rest :=
  Node.at?_within place.outer rfl rest

theorem at?_child {head : Head} {children : List Node} {tail : String}
    (here : place.children[index]? = some (.element head children tail)) :
    place.root.at? (place.path ++ [index]) = .ok (.element head children tail) := by
  rw [at?_path]
  simp [Node.at?, node, Node.children, here, Node.isElement, Node.head?]

/-- Above a child of the open element is the chain of the place. -/
theorem above?_child {child : Node} (here : place.children[index]? = some child) :
    place.root.above? (place.path ++ [index]) = some place.chain := by
  rw [root, path, Node.above?_within]
  simp [Node.above?, node, here, chain]

/-- The element around the open one holds it. -/
theorem at?_outer {frame : Frame} {outer : List Frame} (around : place.outer = frame :: outer) :
    place.path = Frame.path outer ++ [frame.before.length] ∧
      place.root.at? (Frame.path outer) =
        .ok (.element frame.head (frame.before ++ place.node :: frame.after) frame.tail) := by
  refine ⟨?_, ?_⟩
  · rw [path, around, ← List.append_nil (Frame.path (frame :: outer)), Frame.path_cons]
  · rw [root, around, ← List.append_nil (Frame.path outer)]
    exact Node.at?_within outer rfl []

theorem head_addToParent (first : Bool) (node : Node) (place : Place) :
    (place.addToParent first node).head = place.head := by
  unfold addToParent
  split <;> rfl

theorem heads_addToParent (first : Bool) (node : Node) (place : Place) :
    (place.addToParent first node).outer.map Frame.head = place.outer.map Frame.head := by
  unfold addToParent
  cases around : place.outer with
  | nil => exact congrArg (List.map Frame.head) around
  | cons frame outer => cases first <;> rfl

/-! ### Leaving -/

theorem chain_leave {frame : Frame} {outer : List Frame} (around : place.outer = frame :: outer) :
    place.leave.chain = place.outer.map Frame.head := by
  simp [leave, around, chain]

theorem chain_leaveTimes (times : Nat) (place : Place) (le : times ≤ place.depth) :
    (leaveTimes times place).chain = place.chain.drop times := by
  induction times generalizing place with
  | zero => rfl
  | succ times ih =>
    cases around : place.outer with
    | nil => simp [depth, around] at le
    | cons frame outer =>
      have shallower : times ≤ place.leave.depth := by
        simp only [depth, leave, around, List.length_cons] at le ⊢
        omega
      rw [leaveTimes, ih place.leave shallower, chain_leave around]
      rfl

/-- Leaving for an element whose chain is around the open one leads to that chain. -/
theorem chain_leaveTo {inner : Place}
    (inside : place.chain <:+ inner.outer.map Frame.head) :
    (inner.leaveTo place.depth).chain = place.chain := by
  have whole : place.chain <:+ inner.chain := inside.trans (List.suffix_cons _ _)
  have lengths : inner.chain.length - place.chain.length = inner.depth - place.depth := by
    simp [chain, depth]
  rw [leaveTo, chain_leaveTimes _ _ (Nat.sub_le ..), ← lengths]
  exact (List.suffix_iff_eq_drop.mp whole).symm

end Place

/-! ## Coherent walks -/

namespace Walk

variable {σ τ ε : Type}

/-- The list of ancestors is the chain of the place, and `base` is what is around the level that is
walked: that stays, while a link can come around the open element. -/
structure Coherent (base : List Head) (walk : Walk σ) : Prop where
  ancestors_eq : walk.ancestors = walk.place.chain
  inside : base <:+ walk.place.outer.map Frame.head

namespace Coherent

variable {base : List Head} {walk : Walk σ}

theorem start (place : Place) (outermost : place.outer = []) (memory : σ) :
    (Walk.start place memory).Coherent [] :=
  ⟨by simp [Walk.start, Place.chain, outermost], List.nil_suffix⟩

/-- What a walk remembers is no part of it. -/
theorem of_place {walk' : Walk τ} (coherent : walk.Coherent base)
    (place_eq : walk'.place = walk.place) (ancestors_eq : walk'.ancestors = walk.ancestors) :
    walk'.Coherent base :=
  ⟨by rw [ancestors_eq, place_eq, coherent.ancestors_eq], place_eq ▸ coherent.inside⟩

/-- Editing the children, or the siblings of the open element, keeps a walk coherent. -/
theorem edit (coherent : walk.Coherent base) {place : Place}
    (head_eq : place.head = walk.place.head)
    (outer_eq : place.outer.map Frame.head = walk.place.outer.map Frame.head) :
    Coherent base { walk with place } := by
  refine ⟨?_, outer_eq ▸ coherent.inside⟩
  rw [coherent.ancestors_eq, Place.chain, Place.chain, head_eq, outer_eq]

theorem enter (coherent : walk.Coherent base) (index : Nat) (head : Head) (children : List Node)
    (tail : String) : (walk.enter index head children tail).Coherent walk.place.chain where
  ancestors_eq := by
    rw [Walk.enter, coherent.ancestors_eq]
    rfl
  inside := List.suffix_refl _

/-- Back on a level, its chain is what it was, whatever was added around its child. -/
theorem resume (coherent : walk.Coherent base) {inner : Walk σ}
    (inside : inner.Coherent walk.place.chain) : (walk.resume inner).Coherent base := by
  have chain_eq : (inner.place.leaveTo walk.place.depth).chain = walk.place.chain :=
    Place.chain_leaveTo inside.inside
  refine ⟨coherent.ancestors_eq.trans chain_eq.symm, ?_⟩
  have outer_eq := congrArg List.tail chain_eq
  simp only [Place.chain, List.tail_cons] at outer_eq
  show base <:+ (inner.place.leaveTo walk.place.depth).outer.map Frame.head
  rw [outer_eq]
  exact coherent.inside

end Coherent

end Walk

/-- A visitor after which the list of ancestors is right again. -/
def Visitor.KeepsChain {σ ε : Type} (visitor : Visitor σ ε) : Prop :=
  ∀ ⦃base : List Head⦄ ⦃walk next : Walk σ⦄ ⦃index : Nat⦄ ⦃found : Option Nat⦄,
    walk.Coherent base → visitor walk index = .ok (found, next) → next.Coherent base

/-! ## The edits of an enriching pass -/

namespace Walk.Coherent

variable {base : List Head} {walk : Walk.Enriching}

theorem addFigcaption (coherent : walk.Coherent base) (first : Bool) (caption : Node)
    (index : Nat) : (walk.addFigcaption first caption index).2.Coherent base := by
  unfold Walk.addFigcaption
  split
  · cases first <;> exact coherent.edit rfl rfl
  · exact coherent.edit (Place.head_addToParent ..) (Place.heads_addToParent ..)

/-- The link around the open element comes to its place in the list. -/
theorem linkParent (coherent : walk.Coherent base) (link : Head) :
    (walk.linkParent link).Coherent base where
  ancestors_eq := by
    rw [Walk.linkParent, coherent.ancestors_eq]
    rfl
  inside := coherent.inside.trans (List.suffix_cons _ _)

theorem record (coherent : walk.Coherent base) (events : List Event) :
    (walk.record events).Coherent base :=
  coherent.of_place rfl rfl

theorem apply (coherent : walk.Coherent base) (first : Bool) (change : Change) (index : Nat)
    (tail : String) : (walk.apply first change index tail).2.Coherent base := by
  have placed : Walk.Coherent base
      { walk with place := walk.place.setChild index (change.slot.withTail tail) } :=
    coherent.edit rfl rfl
  unfold Walk.apply
  cases change.figcaption with
  | none =>
    cases change.parentLink with
    | none => exact placed.record change.events
    | some link => exact (placed.linkParent link).record change.events
  | some caption =>
    have captioned := placed.addFigcaption first caption index
    cases change.parentLink with
    | none => exact captioned.record change.events
    | some link => exact (captioned.linkParent link).record change.events

end Walk.Coherent

theorem Enrich.visitor_keepsChain (format : Format) (settings : Settings) :
    (visitor format settings).KeepsChain := by
  intro base walk next index found coherent called
  unfold visitor at called
  split at called
  · split at called
    · cases called
      exact coherent.apply ..
    · cases called
  · cases called
    exact coherent

/-! ## Visits -/

/-- A call of a visitor: the walk at that moment, and the index that it is called with. -/
structure Visit (σ : Type) where
  walk : Walk σ
  index : Nat

namespace Visit

variable {σ : Type}

/-- The document at the moment of a visit. -/
def tree (visit : Visit σ) : Node :=
  visit.walk.place.root

/-- The path to the element whose children are walked. -/
def parent (visit : Visit σ) : Path :=
  visit.walk.place.path

/-- The path to the element that is visited. -/
def path (visit : Visit σ) : Path :=
  visit.parent ++ [visit.index]

/-- The visitor is called for an element that it wants, with the chain above it. -/
def Right (tags : List String) (visit : Visit σ) : Prop :=
  visit.walk.ancestors = visit.walk.place.chain ∧
    ∃ head children tail,
      visit.walk.place.children[visit.index]? = some (.element head children tail) ∧ head.tag ∈ tags

end Visit

/-- A visitor that also notes its visits. -/
def Visitor.visited {σ ε : Type} (visitor : Visitor σ ε) : Visitor (σ × List (Visit σ)) ε :=
  visitor.noting fun walk index => [⟨walk, index⟩]

namespace Walk

variable {σ ε : Type} {visitor : Visitor σ ε}

/-- **Every visit of a run is right,** if those before it were, also where the run then stops. -/
theorem run_visited (keeps : visitor.KeepsChain) (tags : List String) (budget index : Nat)
    (walk : Walk (σ × List (Visit σ))) {base : List Head} (coherent : walk.Coherent base)
    (right : ∀ visit ∈ walk.memory.2, visit.Right tags) :
    match run visitor.visited tags budget index walk with
    | .ok last => last.Coherent base ∧ ∀ visit ∈ last.memory.2, visit.Right tags
    | .error (_, left) => ∀ visit ∈ left.memory.2, visit.Right tags := by
  induction budget generalizing index walk base with
  | zero => exact right
  | succ budget ih =>
    unfold run
    cases here : walk.place.children[index]? with
    | none => exact ⟨coherent, right⟩
    | some node =>
      cases node with
      | comment | instruction => exact ih _ walk coherent right
      | element head children tail =>
        by_cases wanted : head.tag ∈ tags
        · have noted : ∀ visit ∈ walk.memory.2 ++ [⟨walk.untraced, index⟩], visit.Right tags := by
            intro visit met
            rcases List.mem_append.mp met with before | now
            · exact right visit before
            · rw [List.mem_singleton.mp now]
              exact ⟨coherent.ancestors_eq, head, children, tail, here, wanted⟩
          simp only [wanted, ↓reduceIte]
          rcases called : visitor.visited walk index with ⟨cause, left⟩ | ⟨found, next⟩
          · obtain ⟨-, memory_eq⟩ := noting_error called
            dsimp only
            rwa [memory_eq]
          · obtain ⟨visits, memory_eq⟩ := noting_ok called
            have next' : next.untraced.Coherent base := keeps (coherent.of_place rfl rfl) visits
            exact ih _ next (next'.of_place rfl rfl) (memory_eq ▸ noted)
        · simp only [wanted, ↓reduceIte]
          have inside := ih 0 (walk.enter index head children tail)
            (coherent.enter index head children tail) right
          rcases ran : run visitor.visited tags budget 0 (walk.enter index head children tail) with
            ⟨stop, left⟩ | inner
          · rwa [ran] at inside
          · rw [ran] at inside
            exact ih _ (walk.resume inner) (coherent.resume inside.1) inside.2

end Walk

/-- The visits of an enriching pass over a document, in their order. Noting them changes nothing
else of the walk (`Walk.run_noting`). -/
def Node.visits (format : Format) (settings : Settings) (tree : Node) :
    List (Visit (List Event)) :=
  if settings.enable then
    (tree.walk (Enrich.visitor format settings).visited Media.tags (Enrich.budget tree)
      ([], [])).memory.2
  else []

/-- Every visit of an enriching pass is right. -/
theorem Node.right_of_visits {format : Format} {settings : Settings} {tree : Node}
    {visit : Visit (List Event)} (met : visit ∈ tree.visits format settings) :
    visit.Right Media.tags := by
  unfold visits at met
  split at met
  · cases tree with
    | comment | instruction => cases met
    | element head children tail =>
      have start := Walk.Coherent.start ⟨head, children, tail, []⟩ rfl
        (([] : List Event), ([] : List (Visit (List Event))))
      have ran := Walk.run_visited (Enrich.visitor_keepsChain format settings) Media.tags
        (Enrich.budget (.element head children tail)) 0 _ start (by simp [Walk.start])
      simp only [walk, Place.ofNode?] at met
      split at met <;> rename_i last ended
      · rw [ended] at ran
        exact ran.2 visit met
      · rw [ended] at ran
        exact ran visit met
  · cases met

/-- **The list of ancestors is the chain of the element that is visited,** in the document as it is
then, from its parent to the root. Where the parent is not the root, the second ancestor is the
element that holds it; so a figure that an image asks to link can be linked, unless it is the
root. -/
theorem ancestors_of_visit {format : Format} {settings : Settings} {tree : Node}
    {visit : Visit (List Event)} (met : visit ∈ tree.visits format settings) :
    visit.tree.above? visit.path = some visit.walk.ancestors ∧
      (visit.parent = [] ∨ ∃ above index grandparent siblings tail,
        visit.parent = above ++ [index] ∧
          visit.tree.at? above = .ok (.element grandparent siblings tail) ∧
          visit.walk.ancestors[1]? = some grandparent ∧
          siblings[index]? = some visit.walk.place.node) ∧
      ∃ head children tail, visit.tree.at? visit.path = .ok (.element head children tail) ∧
        head.tag ∈ Media.tags ∧
        ∀ change,
          Change.ofElement format settings (visit.walk.site tail) head children = .ok change →
          visit.walk.surroundings = .figure → head.linkAsked? = some .bracket →
            (change.parentLink = none ↔ visit.parent = []) := by
  obtain ⟨ancestors_eq, head, children, tail, here, media⟩ := Node.right_of_visits met
  refine ⟨?_, ?_, head, children, tail, Place.at?_child here, media, ?_⟩
  · rw [ancestors_eq]
    exact Place.above?_child here
  · cases around : visit.walk.place.outer with
    | nil =>
      left
      rw [Visit.parent, Place.path, around]
      rfl
    | cons frame outer =>
      obtain ⟨path_eq, found⟩ := Place.at?_outer around
      refine .inr ⟨_, _, _, _, _, path_eq, found, ?_, ?_⟩
      · rw [ancestors_eq, Place.chain, around]
        rfl
      · simp
  · intro change done inFigure bracket
    have asked := (Change.ofElement_handled done).isSome_parentLink
    have linkable : (visit.walk.site tail).linkable = decide (visit.parent ≠ []) := by
      simp only [Walk.site, Walk.linkable, ancestors_eq, Place.chain, Visit.parent, Place.path,
        ne_eq, Frame.path_eq_nil]
      cases visit.walk.place.outer <;> simp
    have surroundings : (visit.walk.site tail).surroundings = .figure := inFigure
    rw [surroundings, bracket, linkable] at asked
    cases linked : change.parentLink <;> simpa [linked] using asked

/-- Two images in a figure that both ask for a link around it. -/
def rivalPictures : Node :=
  .around "div" [.around "figure" [.picture "[x.png]" "", .picture "[y.png]" ""]]

/-- The second image is visited when the figure is linked already. -/
theorem ancestors_of_visit_rivalPictures :
    ∃ visit ∈ rivalPictures.visits .data .default,
      visit.walk.ancestors.map Head.tag = ["figure", "a", "div"] ∧
        visit.tree.above? visit.path = some visit.walk.ancestors := by
  have chains : (rivalPictures.visits .data .default).map (·.walk.ancestors.map Head.tag) =
      [["figure", "div"], ["figure", "a", "div"]] := by decide +kernel
  have second : ["figure", "a", "div"] ∈
      (rivalPictures.visits .data .default).map (·.walk.ancestors.map Head.tag) := by
    rw [chains]
    decide
  obtain ⟨visit, met, chain⟩ := List.mem_map.mp second
  exact ⟨visit, met, chain, (ancestors_of_visit met).1⟩

end MediaMarkup

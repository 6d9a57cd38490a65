import Mathlib.Data.List.Forall2
import MediaMarkup.Document.Action
import MediaMarkup.Document.Path
import MediaMarkup.Proofs.Ancestors

/-!
Walks with a visitor that edits the slot of each element that it is called for, or inserts something
in front of all the element's siblings. The walk looks for the element that the visitor returned,
and what is behind that is what was behind the slot before (`SlotEdit.apply_eq`,
`SlotEdit.found?_eq`); so no edit makes it skip an element or meet a new one. Main statement:
`walk_visits`.
-/

namespace MediaMarkup

/-! ## The elements that a walk is for -/

namespace Node

mutual

/-- The elements of a node, in document order, each with the heads of the elements above it,
innermost first. -/
def elements (above : List Head) : Node → List (Node × List Head)
  | .element head children tail =>
    (.element head children tail, above) :: elementsAll (head :: above) children
  | _ => []

def elementsAll (above : List Head) : List Node → List (Node × List Head)
  | [] => []
  | node :: rest => elements above node ++ elementsAll above rest

end

/-- The elements below the root. -/
def elementsBelow : Node → List (Node × List Head)
  | .element head children _ => elementsAll [head] children
  | _ => []

/-- An element has one of the tags, and none of those above it has, the root aside. -/
def isWanted (tags : List String) (element : Node × List Head) : Bool :=
  element.1.tag?.any (· ∈ tags) && element.2.dropLast.all (·.tag ∉ tags)

mutual

/-- The elements of a node that have one of the tags and lie in no other such element. -/
def outermost (tags : List String) (above : List Head) : Node → List (Node × List Head)
  | .element head children tail =>
    if head.tag ∈ tags then [(.element head children tail, above)]
    else outermostAll tags (head :: above) children
  | _ => []

def outermostAll (tags : List String) (above : List Head) : List Node → List (Node × List Head)
  | [] => []
  | node :: rest => outermost tags above node ++ outermostAll tags above rest

end

variable {tags : List String} {above : List Head}

theorem outermost_of_not_isElement {node : Node} (other : node.isElement = false) :
    outermost tags above node = [] := by
  cases node with
  | element => cases other
  | comment | instruction => rfl

theorem outermostAll_append (xs ys : List Node) :
    outermostAll tags above (xs ++ ys) =
      outermostAll tags above xs ++ outermostAll tags above ys := by
  induction xs with
  | nil => simp [outermostAll]
  | cons node xs ih => simp [outermostAll, ih]

theorem outermostAll_singleton (node : Node) :
    outermostAll tags above [node] = outermost tags above node := by
  simp [outermostAll]

theorem suffix_of_mem_elementsAll {nodes : List Node} {element : Node × List Head}
    (mem : element ∈ elementsAll above nodes) : above <:+ element.2 := by
  induction nodes using Node.inductionOnAll generalizing above with
  | nil => cases mem
  | comment _ _ _ ih | instruction _ _ _ ih => exact ih mem
  | element head children tail rest inner ih =>
    rw [elementsAll, elements, List.cons_append, List.mem_cons, List.mem_append] at mem
    rcases mem with rfl | below | behind
    · exact List.suffix_refl _
    · exact (List.suffix_cons head above).trans (inner below)
    · exact ih behind

/-- Nothing is wanted below a wanted element. -/
theorem filter_isWanted_elementsAll_eq_nil {head : Head} (taken : head.tag ∈ tags)
    (proper : above ≠ []) (nodes : List Node) :
    (elementsAll (head :: above) nodes).filter (isWanted tags) = [] := by
  rw [List.filter_eq_nil_iff]
  intro element mem wanted
  obtain ⟨deeper, eq⟩ := suffix_of_mem_elementsAll mem
  have above_it : head ∈ element.2.dropLast := by
    rw [← eq, List.dropLast_append_of_ne_nil (by simp), List.dropLast_cons_of_ne_nil proper]
    simp
  simp only [isWanted, Bool.and_eq_true, List.all_eq_true, decide_eq_true_eq] at wanted
  exact wanted.2 head above_it taken

theorem filter_isWanted_elementsAll (proper : above ≠ [])
    (free : ∀ head ∈ above.dropLast, head.tag ∉ tags) (nodes : List Node) :
    (elementsAll above nodes).filter (isWanted tags) = outermostAll tags above nodes := by
  induction nodes using Node.inductionOnAll generalizing above with
  | nil => rfl
  | comment _ _ _ ih | instruction _ _ _ ih => exact ih proper free
  | element head children tail rest inner ih =>
    rw [elementsAll, elements, outermostAll, outermost, List.cons_append, List.filter_cons,
      List.filter_append, ih proper free]
    by_cases taken : head.tag ∈ tags
    · have wanted : isWanted tags (.element head children tail, above) = true := by
        simpa [isWanted, tag?, head?, taken] using free
      rw [if_pos wanted, if_pos taken, filter_isWanted_elementsAll_eq_nil taken proper]
      rfl
    · have unwanted : isWanted tags (.element head children tail, above) = false := by
        simp [isWanted, tag?, head?, taken]
      have free' : ∀ other ∈ (head :: above).dropLast, other.tag ∉ tags := by
        rw [List.dropLast_cons_of_ne_nil proper]
        exact List.forall_mem_cons.mpr ⟨taken, free⟩
      rw [unwanted, if_neg taken, inner (List.cons_ne_nil _ _) free']
      rfl

/-- A search finds the one index that it is for, wherever it starts. -/
theorem position?_of_lt {slot count : Nat} (start : Nat) (lt : slot < count) :
    position? (fun index => decide (index = slot)) count start = some slot := by
  have others {index : Nat} (before : index < slot) : (!decide (index = slot)) = true := by
    simp [Nat.ne_of_lt before]
  unfold position?
  by_cases le : start ≤ slot
  · have found : (List.range' start (count - start)).find? (fun index => decide (index = slot)) =
        some slot := by
      rw [List.find?_range'_eq_some, List.mem_range'_1]
      exact ⟨decide_eq_true rfl, by omega, fun _ _ before => others before⟩
    rw [found]
  · have none : (List.range' start (count - start)).find? (fun index => decide (index = slot)) =
        none := by
      rw [List.find?_eq_none]
      simp only [List.mem_range'_1, decide_eq_true_eq]
      omega
    rw [none]
    dsimp only
    rw [List.find?_range_eq_some, List.mem_range]
    exact ⟨decide_eq_true rfl, by omega, fun _ before => others before⟩

end Node

/-! ## Edits -/

/-- What a visitor does about an element. -/
inductive SlotEdit
  /-- Returns the element as it is. -/
  | keep
  /-- Does so, and returns nothing. -/
  | silent
  /-- Puts a new element around it, and returns that. -/
  | wrap (head : Head)
  /-- Puts a new node in its place, and returns that. -/
  | replace (new : Node)
  /-- Inserts a new node as its parent's first child, and returns the element. -/
  | before (new : Node)

namespace SlotEdit

/-- The place after an edit of the child at an index. -/
def apply (index : Nat) (node : Node) (place : Place) : SlotEdit → Place
  | .keep | .silent => place
  | .wrap head => place.setChild index (node.wrapIn head)
  | .replace new => place.setChild index (new.replaceBy node)
  | .before new => place.insertChild 0 new

/-- Where the node that is returned stands then. -/
def returned? (index : Nat) : SlotEdit → Option Nat
  | .silent => none
  | .keep | .wrap _ | .replace _ => some index
  | .before _ => some (index + 1)

/-- Where the walk finds that node among so many children: it looks from the index of the element
on, and then before it. -/
def found? (index count : Nat) (edit : SlotEdit) : Option Nat :=
  (edit.returned? index).bind fun slot =>
    Node.position? (fun child => decide (child = slot)) count index

/-- The children up to the slot, with it, after an edit. -/
def front (before : List Node) (node : Node) : SlotEdit → List Node
  | .keep | .silent => before ++ [node]
  | .wrap head => before ++ [node.wrapIn head]
  | .replace new => before ++ [new.replaceBy node]
  | .before new => new :: before ++ [node]

variable {before rest : List Node} {node : Node} {place : Place}

/-- An edit leaves what is behind the slot. -/
theorem apply_eq (edit : SlotEdit) (children_eq : place.children = before ++ node :: rest) :
    edit.apply before.length node place = place.withChildren (edit.front before node ++ rest) := by
  cases edit with
  | keep | silent =>
    rw [apply, front, List.append_assoc, List.singleton_append, ← children_eq]
    rfl
  | wrap | replace => simp [apply, front, Place.setChild, children_eq]
  | before => simp [apply, front, Place.insertChild, children_eq]

/-- The walk goes on behind the slot. -/
theorem found?_eq (edit : SlotEdit) (before rest : List Node) (node : Node) :
    (edit.found? before.length (edit.front before node ++ rest).length).getD before.length + 1 =
      (edit.front before node).length := by
  cases edit with
  | silent => simp [found?, returned?, front]
  | keep | wrap | replace | before =>
    simp only [found?, returned?, front, Option.bind_some]
    rw [Node.position?_of_lt _ (by simp)]
    simp

end SlotEdit

/-- A visitor that makes an edit of every element that it is called for. -/
def Visitor.EditsSlots {σ ε : Type} (visitor : Visitor σ ε) : Prop :=
  ∀ ⦃walk : Walk σ⦄ ⦃index : Nat⦄ ⦃head : Head⦄ ⦃children : List Node⦄ ⦃tail : String⦄,
    walk.place.children[index]? = some (.element head children tail) →
      ∃ (edit : SlotEdit) (memory : σ),
        let place := edit.apply index (.element head children tail) walk.place
        visitor walk index =
          .ok (edit.found? index place.children.length, ⟨place, walk.ancestors, memory⟩)

namespace Action

/-- The edit that an action makes, if it is one of the slot or before it that is answered for. -/
def edit? (id : String) : Action → Option SlotEdit
  | .keep => some .keep
  | .silent => some .silent
  | .wrap => some (.wrap (.new "span" [("n", .text id)] ""))
  | .replace => some (.replace (.element (.new "b" [] "new") [] ""))
  | .before => some (.before (.element (.new "i" [] "") [] ""))
  | .beforeSilent | .remove | .push => none

theorem act_of_edit? {id : String} {index : Nat} {node : Node} {walk : Watching} {action : Action}
    {edit : SlotEdit} (edit_eq : action.edit? id = some edit)
    (lt : index < walk.place.children.length) :
    let place := edit.apply index node walk.place
    action.act id index node walk =
      (edit.found? index place.children.length, { walk with place }) := by
  cases action with
  | silent =>
    cases edit_eq
    rfl
  | keep | wrap | replace | before =>
    cases edit_eq
    simp only [SlotEdit.found?, SlotEdit.returned?, Option.bind_some]
    rw [Node.position?_of_lt]
    · rfl
    · simpa [SlotEdit.apply, Place.setChild, Place.insertChild, Place.withChildren] using lt
  | beforeSilent | remove | push => cases edit_eq

theorem edit?_ofId {actions : Entries Action} (id : Option String) (name : String)
    (slots : ∀ entry ∈ actions, ∀ id, (entry.2.edit? id).isSome) :
    ((ofId actions id).edit? name).isSome := by
  unfold ofId
  cases found : id.bind fun id => actions.get? id with
  | none => rfl
  | some action =>
    obtain ⟨key, -, present⟩ := Option.bind_eq_some_iff.mp found
    exact slots _ (Entries.mem_of_get? present) name

/-- Acting by `id` is editing slots, if all the actions do. -/
theorem visitor_editsSlots {actions : Entries Action} (limit : Nat)
    (slots : ∀ entry ∈ actions, ∀ id, (entry.2.edit? id).isSome) :
    (visitor actions limit).EditsSlots := by
  intro walk index head children tail here
  let id := if walk.memory.length < limit then head.attributes.text? "id" else none
  obtain ⟨edit, edit_eq⟩ := Option.isSome_iff_exists.mp (edit?_ofId id (id.getD "") slots)
  have lt : index < walk.place.children.length := (List.getElem?_eq_some_iff.mp here).1
  refine ⟨edit, walk.memory ++
    [⟨id, index, walk.place.head.tag, walk.ancestors.map Head.tag, head.mark⟩], ?_⟩
  simp only [visitor, here]
  exact congrArg Except.ok (act_of_edit? edit_eq lt)

end Action

/-! ## Runs -/

namespace Place

/-- Only one element is closed to get back above an element that was walked. -/
theorem leaveTo_of_outer {place inner : Place} {frame : Frame}
    (around : inner.outer = frame :: place.outer) :
    inner.leaveTo place.depth =
      ⟨frame.head, frame.before ++ inner.node :: frame.after, frame.tail, place.outer⟩ := by
  have once : inner.depth - place.depth = 1 := by
    rw [depth, depth, around, List.length_cons]
    omega
  rw [leaveTo, once, leaveTimes, leaveTimes, leave, around]

end Place

/-- A visit of an element, in the document as it is then, with the elements above it. -/
def Visit.Meets {σ : Type} (visit : Visit σ) (element : Node × List Head) : Prop :=
  visit.tree.at? visit.path = .ok element.1 ∧
    visit.tree.above? visit.path = some visit.walk.ancestors ∧
    visit.walk.ancestors = element.2

namespace Walk

variable {σ ε : Type} {visitor : Visitor σ ε} {tags : List String}

/-- A walk before and after it met some children of the open element: that is what it was, but for
its children, and the visits are those of the elements that the walk is for. -/
structure Met (tags : List String) (met : List Node) (walk next : Walk (σ × List (Visit σ))) :
    Prop where
  head_eq : next.place.head = walk.place.head
  tail_eq : next.place.tail = walk.place.tail
  outer_eq : next.place.outer = walk.place.outer
  ancestors_eq : next.ancestors = walk.ancestors
  visits : ∃ visits, next.memory.2 = walk.memory.2 ++ visits ∧
    List.Forall₂ Visit.Meets visits (Node.outermostAll tags walk.ancestors met)

namespace Met

variable {walk next last : Walk (σ × List (Visit σ))} {xs ys : List Node}

theorem nil (walk : Walk (σ × List (Visit σ))) : Met tags [] walk walk :=
  ⟨rfl, rfl, rfl, rfl, [], by simp, by simp [Node.outermostAll]⟩

theorem append (first : Met tags xs walk next) (second : Met tags ys next last) :
    Met tags (xs ++ ys) walk last where
  head_eq := second.head_eq.trans first.head_eq
  tail_eq := second.tail_eq.trans first.tail_eq
  outer_eq := second.outer_eq.trans first.outer_eq
  ancestors_eq := second.ancestors_eq.trans first.ancestors_eq
  visits := by
    obtain ⟨visits, memory_eq, meets⟩ := first.visits
    obtain ⟨visits', memory_eq', meets'⟩ := second.visits
    refine ⟨visits ++ visits', by rw [memory_eq', memory_eq, List.append_assoc], ?_⟩
    rw [Node.outermostAll_append]
    exact List.rel_append meets (first.ancestors_eq ▸ meets')

theorem coherent (met : Met tags xs walk next) (coherent : walk.ancestors = walk.place.chain) :
    next.ancestors = next.place.chain := by
  rw [met.ancestors_eq, coherent, Place.chain, Place.chain, met.head_eq, met.outer_eq]

end Met

variable {walk : Walk (σ × List (Visit σ))} {before rest children : List Node} {head : Head}
  {tail : String}

/-- A visited element: the edit of its slot leaves what is behind it. -/
theorem met_visited (edits : visitor.EditsSlots) (wanted : head.tag ∈ tags)
    (children_eq : walk.place.children = before ++ .element head children tail :: rest)
    (coherent : walk.ancestors = walk.place.chain) :
    ∃ before' found next, visitor.visited walk before.length = .ok (found, next) ∧
      found.getD before.length + 1 = before'.length ∧
      next.place.children = before' ++ rest ∧
      Met tags [.element head children tail] walk next := by
  have here : walk.untraced.place.children[before.length]? =
      some (.element head children tail) := by
    simp [children_eq]
  obtain ⟨edit, memory, called⟩ := edits here
  have place_eq : edit.apply before.length (.element head children tail) walk.untraced.place = _ :=
    edit.apply_eq children_eq
  simp only [place_eq] at called
  simp only [untraced] at called
  let place := walk.place.withChildren (edit.front before (.element head children tail) ++ rest)
  refine ⟨edit.front before (.element head children tail), _,
    ⟨place, walk.ancestors, (memory, walk.memory.2 ++ [⟨walk.untraced, before.length⟩])⟩, ?_,
    edit.found?_eq before rest _, ?_, ?_⟩
  · simp only [Visitor.visited, Visitor.noting, called]
    rfl
  · rfl
  · refine ⟨rfl, rfl, rfl, rfl, [⟨walk.untraced, before.length⟩], rfl, ?_⟩
    rw [Node.outermostAll_singleton, Node.outermost, if_pos wanted]
    refine .cons ⟨Place.at?_child here, ?_, rfl⟩ .nil
    exact (Place.above?_child here).trans (congrArg some coherent.symm)

/-- An element that was walked is closed in its place. -/
theorem met_entered {inner : Walk (σ × List (Visit σ))} (other : head.tag ∉ tags)
    (children_eq : walk.place.children = before ++ .element head children tail :: rest)
    (inside : Met tags children (walk.enter before.length head children tail) inner) :
    (walk.resume inner).place.children = before ++ [inner.place.node] ++ rest ∧
      Met tags [.element head children tail] walk (walk.resume inner) := by
  have closed : inner.place.leaveTo walk.place.depth = _ :=
    Place.leaveTo_of_outer inside.outer_eq
  have children_eq' : (walk.resume inner).place.children =
      before ++ [inner.place.node] ++ rest := by
    simp [resume, closed, children_eq]
  refine ⟨children_eq', ?_⟩
  obtain ⟨visits, memory_eq, meets⟩ := inside.visits
  constructor
  case head_eq => rw [resume, closed]
  case tail_eq => rw [resume, closed]
  case outer_eq => rw [resume, closed]
  case ancestors_eq => rfl
  case visits =>
    refine ⟨visits, memory_eq, ?_⟩
    rw [Node.outermostAll_singleton, Node.outermost, if_neg other]
    exact meets

/-- What is no element is not visited. -/
theorem met_skipped {node : Node} (other : node.isElement = false) : Met tags [node] walk walk := by
  refine ⟨rfl, rfl, rfl, rfl, [], by simp, ?_⟩
  rw [Node.outermostAll_singleton, Node.outermost_of_not_isElement other]
  exact .nil

/-- **A run meets the children that are before it,** and those below them, whatever was edited on
the way. -/
theorem run_editsSlots (edits : visitor.EditsSlots) (tags : List String) {budget : Nat}
    {walk : Walk (σ × List (Visit σ))} {before todo : List Node}
    (children_eq : walk.place.children = before ++ todo)
    (coherent : walk.ancestors = walk.place.chain) (enough : Node.sizes todo < budget) :
    ∃ last, run visitor.visited tags budget before.length walk = .ok last ∧
      Met tags todo walk last := by
  induction budget generalizing walk before todo with
  | zero => omega
  | succ budget ih =>
    cases todo with
    | nil => exact ⟨walk, by simp [run, children_eq], .nil walk⟩
    | cons node rest =>
      have here : walk.place.children[before.length]? = some node := by simp [children_eq]
      have behind : walk.place.children = (before ++ [node]) ++ rest := by
        rw [children_eq, List.append_assoc, List.singleton_append]
      -- The walk goes on behind the slot, which may have moved.
      have goOn {before' : List Node} {next : Walk (σ × List (Visit σ))}
          (children_eq' : next.place.children = before' ++ rest) (met : Met tags [node] walk next)
          (less : Node.sizes rest < budget) :
          ∃ last, run visitor.visited tags budget before'.length next = .ok last ∧
            Met tags (node :: rest) walk last := by
        obtain ⟨last, ran, met'⟩ := ih children_eq' (met.coherent coherent) less
        exact ⟨last, ran, met.append met'⟩
      rw [Node.sizes] at enough
      unfold run
      cases node with
      | comment | instruction =>
        rw [Node.size] at enough
        · simpa [here] using goOn behind (met_skipped rfl) (by omega)
        · simp
      | element head children tail =>
        rw [Node.size] at enough
        by_cases wanted : head.tag ∈ tags
        · obtain ⟨before', found, next, called, index_eq, children_eq', met⟩ :=
            met_visited edits wanted children_eq coherent
          simp only [here, wanted, ↓reduceIte, called, index_eq]
          exact goOn children_eq' met (by omega)
        · have inside : (walk.enter before.length head children tail).place.children =
              [] ++ children := rfl
          obtain ⟨inner, ran, met⟩ :=
            ih inside (congrArg (head :: ·) coherent) (by omega)
          obtain ⟨children_eq', met'⟩ := met_entered wanted children_eq met
          simp only [List.length_nil] at ran
          simp only [here, wanted, ↓reduceIte, ran]
          simpa using goOn children_eq' met' (by omega)

end Walk

theorem Node.walk_of_run {σ ε : Type} {visitor : Visitor σ ε} {tags : List String} {budget : Nat}
    {memory : σ} {head : Head} {children : List Node} {tail : String} {last : Walk σ}
    (ran : Walk.run visitor tags budget 0 (.start ⟨head, children, tail, []⟩ memory) = .ok last) :
    (Node.element head children tail).walk visitor tags budget memory =
      ⟨last.place.root, last.memory, none⟩ := by
  simp only [walk, Place.ofNode?, ran]

/-- **A walk survives edits at its own level.** It runs to its end and visits the elements below the
root that have one of the tags and none of those above them has, the root aside: each of them once,
in the order of the document as it was, and nothing that was inserted. At a visit the element stands
unchanged at the path, and the list of ancestors is the chain above it. Noting the visits changes
nothing else. -/
theorem walk_visits {σ ε : Type} {visitor : Visitor σ ε} (edits : visitor.EditsSlots)
    (tags : List String) {budget : Nat} {tree : Node} (enough : tree.size ≤ budget) (memory : σ) :
    let walked := tree.walk visitor.visited tags budget (memory, [])
    walked.stop = none ∧
      List.Forall₂ Visit.Meets walked.memory.2 (tree.elementsBelow.filter (Node.isWanted tags)) ∧
      tree.walk visitor tags budget memory = ⟨walked.tree, walked.memory.1, none⟩ := by
  cases tree with
  | comment | instruction => exact ⟨rfl, .nil, rfl⟩
  | element head children tail =>
    rw [Node.size] at enough
    let start : Walk (σ × List (Visit σ)) := Walk.start ⟨head, children, tail, []⟩ (memory, [])
    have children_eq : start.place.children = [] ++ children := rfl
    obtain ⟨last, ran, met⟩ :=
      Walk.run_editsSlots edits tags children_eq rfl (show Node.sizes children < budget by omega)
    have unnoted : Walk.run visitor tags budget 0 start.untraced = .ok last.untraced :=
      (Walk.run_noting _ visitor tags budget 0 start).symm.trans (congrArg Walk.untracedResult ran)
    obtain ⟨visits, memory_eq, meets⟩ := met.visits
    have noted : last.memory.2 = visits := memory_eq
    have free : ∀ other ∈ [head].dropLast, other.tag ∉ tags := by simp
    rw [Node.walk_of_run ran, Node.elementsBelow,
      Node.filter_isWanted_elementsAll (List.cons_ne_nil _ _) free]
    exact ⟨rfl, noted ▸ meets, Node.walk_of_run unnoted⟩

/-- An element with a mark, whose `id` says what is done about it. -/
def Node.acting (mark : Nat) (tag id : String) (children : List Node) : Node :=
  .element ⟨tag, [("id", .text id)], "", some mark⟩ children ""

def slotActions : Entries Action :=
  [("keep", .keep), ("silent", .silent), ("wrap", .wrap), ("replace", .replace),
    ("before", .before)]

/-- A root with a wanted tag, a wanted element in another one, a comment, and edits of every kind at
two levels. -/
def busyPicture : Node :=
  .acting 0 "img" "keep" [
    .acting 1 "img" "wrap" [.acting 2 "img" "keep" []],
    .comment "" "",
    .acting 3 "p" "keep" [
      .acting 4 "b" "replace" [.acting 5 "img" "keep" []],
      .acting 6 "img" "before" [],
      .acting 7 "i" "before" [],
      .acting 8 "span" "silent" [],
      .acting 9 "img" "keep" []],
    .acting 10 "img" "before" []]

/-- The elements that the edits insert have wanted tags as well. -/
theorem walk_visits_busyPicture :
    let walked := busyPicture.walk (Action.visitor slotActions 50).visited ["img", "span", "b", "i"]
      (Action.budget 50 busyPicture) ([], [])
    walked.stop = none ∧ ∃ met, List.Forall₂ Visit.Meets walked.memory.2 met ∧
      met.map (fun element => (element.1.head?.bind Head.mark, element.2.map Head.tag)) =
        [(some 1, ["img"]), (some 4, ["p", "img"]), (some 6, ["p", "img"]), (some 7, ["p", "img"]),
          (some 8, ["p", "img"]), (some 9, ["p", "img"]), (some 10, ["img"])] := by
  have slots : ∀ entry ∈ slotActions, ∀ id, (entry.2.edit? id).isSome := by
    simp [slotActions, Action.edit?]
  obtain ⟨stop, meets, -⟩ := walk_visits (Action.visitor_editsSlots 50 slots)
    ["img", "span", "b", "i"] (by decide : busyPicture.size ≤ Action.budget 50 busyPicture) []
  exact ⟨stop, _, meets, by decide +kernel⟩

end MediaMarkup

import MediaMarkup.Proofs.Ancestors
import MediaMarkup.Proofs.Paragraphs

/-!
Where the links of an enriched document come from. A link of the final document was there before, or
one of the visits added it (`links_enrich`): a step of the walk adds the links of one change, and
nothing else of the pass adds any.
-/

namespace MediaMarkup

/-! ## The links of a document -/

namespace Node

mutual

/-- The heads of the links of a document, in document order. -/
def links : Node → List Head
  | .element head children _ => (if head.tag = "a" then [head] else []) ++ linksAll children
  | _ => []

def linksAll : List Node → List Head
  | [] => []
  | node :: rest => links node ++ linksAll rest

end

variable {head : Head} {children : List Node} {tail : String}

@[simp] theorem linksAll_nil : linksAll [] = [] := by
  rw [linksAll]

@[simp] theorem linksAll_cons (node : Node) (rest : List Node) :
    linksAll (node :: rest) = node.links ++ linksAll rest := by
  rw [linksAll]

@[simp] theorem linksAll_append (xs ys : List Node) :
    linksAll (xs ++ ys) = linksAll xs ++ linksAll ys := by
  induction xs with
  | nil => simp
  | cons node xs ih => simp [ih]

theorem links_of_other (other : head.tag ≠ "a") :
    (Node.element head children tail).links = linksAll children := by
  rw [links, if_neg other, List.nil_append]

@[simp] theorem links_withTail (tail : String) (node : Node) :
    (node.withTail tail).links = node.links := by
  cases node with
  | element => simp only [withTail, links]
  | comment => rfl
  | instruction => rfl

theorem links_figcaption (text : String) : (figcaption text).links = [] := by
  rw [figcaption, links_of_other (show "figcaption" ≠ "a" by decide), linksAll_nil]

theorem links_sourceElement (source : String) (mime : Option String) :
    (sourceElement source mime).links = [] := by
  rw [sourceElement, links_of_other (show "source" ≠ "a" by decide), linksAll_nil]

theorem linksAll_figcaptions {nodes : List Node}
    (h : ∀ node ∈ nodes, ∃ text, node = figcaption text) : linksAll nodes = [] := by
  induction nodes with
  | nil => exact linksAll_nil
  | cons node rest ih =>
    obtain ⟨text, rfl⟩ := h node List.mem_cons_self
    rw [linksAll_cons, links_figcaption, ih fun node mem => h node (List.mem_cons_of_mem _ mem),
      List.nil_append]

end Node

theorem blind_linksAll : Paragraph.Blind (· ++ ·) Node.linksAll where
  append := Node.linksAll_append
  withTail tail node := by simp
  paragraph {head} isParagraph children tail := by
    have other : head.tag ≠ "a" := by
      rw [isParagraph]
      decide
    rw [Node.linksAll_cons, Node.links_of_other other, Node.linksAll_nil, List.append_nil]

namespace Node

/-- Unravelling keeps the links in their order. -/
theorem linksAll_unravelAll (nodes : List Node) :
    linksAll (unravelAll nodes) = linksAll nodes := by
  have kept := forall₂_unravelAll (R := Eq) blind_linksAll (fun _ => rfl)
    (fun head children tail inner => by
      rw [List.forall₂_eq_eq_eq] at inner ⊢
      rw [linksAll_cons, linksAll_cons, links, links, inner]) nodes
  rw [List.forall₂_eq_eq_eq] at kept
  exact kept.symm

theorem links_unravelIf (settings : Settings) (tree : Node) :
    (tree.unravelIf settings).links = tree.links := by
  unfold unravelIf
  split
  · cases tree with
    | element head children tail => rw [unravel, links, links, linksAll_unravelAll]
    | comment => simp [unravel]
    | instruction => simp [unravel]
  · rfl

end Node

/-! ## The links at a place -/

namespace Frame

/-- The links of an element without its open child. -/
def links (frame : Frame) : List Head :=
  (if frame.head.tag = "a" then [frame.head] else []) ++ Node.linksAll frame.before ++
    Node.linksAll frame.after

theorem mem_links_attach {frame : Frame} {node : Node} {link : Head} :
    link ∈ (frame.attach node).links ↔ link ∈ frame.links ∨ link ∈ node.links := by
  simp only [attach, Node.links, Frame.links, Node.linksAll_append, Node.linksAll_cons,
    List.mem_append]
  tauto

end Frame

theorem Node.mem_links_within {frames : List Frame} {node : Node} {link : Head} :
    link ∈ (node.within frames).links ↔
      link ∈ node.links ∨ ∃ frame ∈ frames, link ∈ frame.links := by
  induction frames generalizing node with
  | nil => simp [within]
  | cons frame frames ih =>
    rw [within, List.foldl_cons, ← within, ih, Frame.mem_links_attach]
    simp only [List.exists_mem_cons_iff]
    tauto

theorem Node.mem_linksAll {nodes : List Node} {link : Head} :
    link ∈ linksAll nodes ↔ ∃ node ∈ nodes, link ∈ node.links := by
  induction nodes with
  | nil => simp
  | cons node nodes ih => simp [ih]

namespace Place

variable {place : Place} {link : Head}

theorem mem_links_root : link ∈ place.root.links ↔
    link ∈ place.node.links ∨ ∃ frame ∈ place.outer, link ∈ frame.links :=
  Node.mem_links_within

theorem links_withChildren {children : List Node}
    (mem : link ∈ (place.withChildren children).root.links) :
    link ∈ place.root.links ∨ link ∈ Node.linksAll children := by
  simp only [mem_links_root, node, withChildren, Node.links, List.mem_append] at mem ⊢
  rcases mem with (own | inside) | outside
  · exact .inl (.inl (.inl own))
  · exact .inr inside
  · exact .inl (.inr outside)

theorem mem_links_child {child : Node} (present : child ∈ place.children)
    (mem : link ∈ child.links) : link ∈ place.root.links := by
  rw [mem_links_root, node, Node.links, List.mem_append]
  exact .inl (.inr (Node.mem_linksAll.mpr ⟨child, present, mem⟩))

theorem links_setChild {index : Nat} {child : Node}
    (mem : link ∈ (place.setChild index child).root.links) :
    link ∈ place.root.links ∨ link ∈ child.links := by
  rcases links_withChildren mem with before | inside
  · exact .inl before
  · obtain ⟨other, present, held⟩ := Node.mem_linksAll.mp inside
    rcases List.mem_or_eq_of_mem_set present with old | rfl
    · exact .inl (mem_links_child old held)
    · exact .inr held

theorem links_addToParent {first : Bool} {child : Node} (unlinked : child.links = [])
    (mem : link ∈ (place.addToParent first child).root.links) : link ∈ place.root.links := by
  unfold addToParent at mem
  split at mem
  · exact mem
  · rename_i frame outer around
    rw [mem_links_root, around]
    rw [mem_links_root] at mem
    rcases mem with inside | ⟨other, present, mem⟩
    · exact .inl inside
    · refine .inr ?_
      rcases List.mem_cons.mp present with rfl | present
      · refine ⟨frame, List.mem_cons_self, ?_⟩
        cases first <;> simpa [Frame.links, unlinked] using mem
      · exact ⟨other, List.mem_cons_of_mem _ present, mem⟩

theorem links_wrap {head : Head} (mem : link ∈ (place.wrap head).root.links) :
    link ∈ place.root.links ∨ link = head ∧ head.tag = "a" := by
  simp only [mem_links_root, wrap, node, Node.links, List.exists_mem_cons_iff, Frame.links,
    Node.linksAll_nil, List.append_nil] at mem ⊢
  rcases mem with inside | ⟨here | outside⟩
  · exact .inl (.inl inside)
  · split at here
    · rename_i isLink
      exact .inr ⟨List.mem_singleton.mp here, isLink⟩
    · cases here
  · exact .inl (.inr outside)

end Place

/-! ## One visit -/

/-- The links that a change adds. -/
def Change.links (change : Change) : List Head :=
  (change.shells.map Frame.head ++ change.parentLink.toList).filter fun head => head.tag = "a"

namespace Change

variable {settings : Settings} {site : Site} {head : Head} {children : List Node}
  {change : Change} {link : Head}

/-- The links in a slot are those of the media element and new ones. -/
theorem Handled.links_slot (handled : Handled .data settings site head children change)
    (media : head.tag ∈ Media.tags) (mem : link ∈ change.slot.links) :
    link ∈ Node.linksAll children ∨ link ∈ change.links := by
  rw [slot, Node.mem_links_within] at mem
  rcases mem with inside | ⟨frame, present, held⟩
  · left
    obtain ⟨head', children', media_eq, -, rest⟩ := handled.media_children
    obtain ⟨head'', children'', media_eq', media'⟩ := handled.media_eq media
    rw [media_eq', Node.element.injEq] at media_eq
    obtain ⟨rfl, rfl, -⟩ := media_eq
    have noLink : head''.tag ≠ "a" := fun isLink => absurd (isLink ▸ media') (by decide)
    rw [media_eq', Node.links_of_other noLink] at inside
    split at rest
    · obtain ⟨-, source, mime, rfl⟩ := rest
      rw [Node.linksAll_cons, Node.links_sourceElement, Node.linksAll_nil] at inside
      cases inside
    · exact rest.2 ▸ inside
  · right
    have isShell := handled.isShell frame present
    have before := Node.linksAll_figcaptions fun node h =>
      isShell.figcaptions node (List.mem_append_left _ h)
    have after := Node.linksAll_figcaptions fun node h =>
      isShell.figcaptions node (List.mem_append_right _ h)
    rw [Frame.links, before, after, List.append_nil, List.append_nil] at held
    split at held
    · rename_i isLink
      rw [List.mem_singleton.mp held, links, List.mem_filter, List.mem_append, List.mem_map]
      exact ⟨.inl ⟨frame, present, rfl⟩, decide_eq_true isLink⟩
    · cases held

end Change

namespace Walk

variable {walk : Enriching} {change : Change} {index : Nat} {tail : String} {first : Bool}
  {link : Head}

theorem links_addFigcaption {caption : Node} (unlinked : caption.links = [])
    (mem : link ∈ (walk.addFigcaption first caption index).2.place.root.links) :
    link ∈ walk.place.root.links := by
  have ownChildren {children : List Node} (same : Node.linksAll children =
      Node.linksAll walk.place.children)
      (mem : link ∈ (walk.place.withChildren children).root.links) :
      link ∈ walk.place.root.links := by
    rcases Place.links_withChildren mem with before | inside
    · exact before
    · obtain ⟨child, present, held⟩ := Node.mem_linksAll.mp (same ▸ inside)
      exact Place.mem_links_child present held
  unfold addFigcaption at mem
  split at mem
  · cases first with
    | true => exact ownChildren (by simp [unlinked]) mem
    | false => exact ownChildren (by simp [unlinked]) mem
  · exact Place.links_addToParent unlinked mem

/-- What carrying out a change adds to the links of the document. -/
theorem links_apply
    (captions : ∀ caption ∈ change.figcaption, ∃ text, caption = figcaption text)
    (mem : link ∈ (walk.apply first change index tail).2.place.root.links) :
    link ∈ walk.place.root.links ∨ link ∈ change.slot.links ∨
      link ∈ change.parentLink ∧ link.tag = "a" := by
  have placed {walk' : Enriching}
      (same : walk'.place = walk.place.setChild index (change.slot.withTail tail))
      (mem : link ∈ walk'.place.root.links) :
      link ∈ walk.place.root.links ∨ link ∈ change.slot.links ∨
        link ∈ change.parentLink ∧ link.tag = "a" := by
    rw [same] at mem
    rcases Place.links_setChild mem with before | slot
    · exact .inl before
    · rw [Node.links_withTail] at slot
      exact .inr (.inl slot)
  cases added : change.figcaption with
  | none =>
    cases linked : change.parentLink with
    | none =>
      simp only [apply, added, linked] at mem
      exact linked ▸ placed rfl mem
    | some head =>
      simp only [apply, added, linked] at mem
      rcases Place.links_wrap mem with before | ⟨rfl, isLink⟩
      · exact linked ▸ placed rfl before
      · exact .inr (.inr ⟨rfl, isLink⟩)
  | some caption =>
    obtain ⟨text, rfl⟩ := captions caption added
    have unlinked := Node.links_figcaption text
    cases linked : change.parentLink with
    | none =>
      simp only [apply, added, linked] at mem
      exact linked ▸ placed rfl (links_addFigcaption unlinked mem)
    | some head =>
      simp only [apply, added, linked] at mem
      rcases Place.links_wrap mem with before | ⟨rfl, isLink⟩
      · exact linked ▸ placed rfl (links_addFigcaption unlinked before)
      · exact .inr (.inr ⟨rfl, isLink⟩)

end Walk

/-! ## Visits -/

namespace Visit

/-- The element that is visited. -/
def node? {σ : Type} (visit : Visit σ) : Option Node :=
  visit.walk.place.children[visit.index]?

/-- The head of the element that is visited. -/
def head? {σ : Type} (visit : Visit σ) : Option Head :=
  visit.node?.bind Node.head?

/-- The links that a visit of an enriching pass adds. -/
def links (settings : Settings) (visit : Visit (List Event)) : List Head :=
  match visit.node? with
  | some (.element head children tail) =>
    match Change.ofElement .data settings (visit.walk.site tail) head children with
    | .ok change => change.links
    | .error _ => []
  | _ => []

end Visit

theorem Visit.handled_of_links {settings : Settings} {visit : Visit (List Event)} {link : Head}
    (mem : link ∈ visit.links settings) :
    ∃ head children tail change, visit.node? = some (.element head children tail) ∧
      Change.Handled .data settings (visit.walk.site tail) head children change ∧
      link ∈ change.links := by
  unfold links at mem
  split at mem
  · rename_i head children tail here
    split at mem
    · rename_i change done
      exact ⟨head, children, tail, change, here, Change.ofElement_handled done, mem⟩
    · cases mem
  · cases mem

/-- A visit adds its links to the document, and no others. -/
theorem Enrich.links_visitor {settings : Settings} {walk next : Walk.Enriching} {index : Nat}
    {found : Option Nat} {link : Head}
    (called : visitor .data settings walk index = .ok (found, next))
    (wanted : ∀ head ∈ (walk.place.children[index]?).bind Node.head?, head.tag ∈ Media.tags)
    (mem : link ∈ next.place.root.links) :
    link ∈ walk.place.root.links ∨ link ∈ Visit.links settings ⟨walk, index⟩ := by
  unfold visitor at called
  split at called
  · rename_i head children tail here
    split at called
    · rename_i change done
      cases called
      have handled := Change.ofElement_handled done
      have media : head.tag ∈ Media.tags := wanted head (by rw [here]; rfl)
      have links_eq : Visit.links settings ⟨walk, index⟩ = change.links := by
        simp only [Visit.links, Visit.node?, here, done]
      rw [links_eq]
      rcases Walk.links_apply (fun caption added => (handled.figcaption_eq added).2.2) mem with
        before | slot | ⟨linked, isLink⟩
      · exact .inl before
      · rcases handled.links_slot media slot with inside | new
        · refine .inl (Place.mem_links_child (List.mem_of_getElem? here) ?_)
          rw [Node.links, List.mem_append]
          exact .inr inside
        · exact .inr new
      · refine .inr ?_
        rw [Change.links, List.mem_filter, List.mem_append, Option.mem_toList]
        exact ⟨.inr linked, decide_eq_true isLink⟩
    · cases called
  · cases called
    exact .inl mem

/-! ## Walks -/

namespace Walk

/-- A run adds the links of its visits to the document, and no others. -/
theorem links_run {settings : Settings} {budget index : Nat}
    {walk last : Walk (List Event × List (Visit (List Event)))}
    (ran : run (Enrich.visitor .data settings).visited Media.tags budget index walk = .ok last) :
    (∀ visit ∈ walk.memory.2, visit ∈ last.memory.2) ∧
      ∀ link ∈ last.place.root.links, link ∈ walk.place.root.links ∨
        ∃ visit ∈ last.memory.2, link ∈ visit.links settings := by
  induction budget generalizing index walk last with
  | zero => cases ran
  | succ budget ih =>
    unfold run at ran
    cases here : walk.place.children[index]? with
    | none =>
      simp only [here, Except.ok.injEq] at ran
      exact ran ▸ ⟨fun _ met => met, fun _ => .inl⟩
    | some node =>
      simp only [here] at ran
      cases node with
      | comment | instruction => exact ih ran
      | element head children tail =>
        by_cases wanted : head.tag ∈ Media.tags
        · simp only [wanted, ↓reduceIte] at ran
          rcases called : (Enrich.visitor .data settings).visited walk index with
            ⟨cause, left⟩ | ⟨found, next⟩
          · simp [called] at ran
          simp only [called] at ran
          obtain ⟨visited, noted⟩ := noting_ok called
          obtain ⟨kept, links⟩ := ih ran
          rw [noted] at kept
          refine ⟨fun visit met => kept visit (List.mem_append_left _ met), fun link mem => ?_⟩
          rcases links link mem with before | later
          · have wanted' : ∀ head' ∈ (walk.untraced.place.children[index]?).bind Node.head?,
                head'.tag ∈ Media.tags := by
              rw [untraced_place, here]
              rintro head' ⟨⟩
              exact wanted
            rcases Enrich.links_visitor visited wanted' before with old | new
            · exact .inl old
            · exact .inr ⟨_, kept _ (List.mem_append_right _ List.mem_cons_self), new⟩
          · exact .inr later
        · simp only [wanted, ↓reduceIte] at ran
          rcases entered : run (Enrich.visitor .data settings).visited Media.tags budget 0
              (walk.enter index head children tail) with stop | inner
          · simp [entered] at ran
          simp only [entered] at ran
          obtain ⟨keptInside, inside⟩ := ih entered
          obtain ⟨kept, links⟩ := ih ran
          refine ⟨fun visit met => kept visit (keptInside visit met), fun link mem => ?_⟩
          rcases links link mem with before | later
          · rw [resume, Place.root_leaveTo] at before
            rcases inside link before with old | ⟨visit, met, new⟩
            · rw [enter, Place.root_enter here] at old
              exact .inl old
            · exact .inr ⟨visit, kept visit met, new⟩
          · exact .inr later

end Walk

/-! ## Whole documents -/

namespace Node

section

variable {settings : Settings} {head : Head} {children : List Node} {tail : String}

/-- A pass that ends is a run that notes its visits, with its paragraphs unravelled. -/
theorem enrich_visited (enabled : settings.enable = true)
    (finished : ((Node.element head children tail).enrich settings).failure = none) :
    ∃ last, Walk.run (Enrich.visitor .data settings).visited Media.tags
        (Enrich.budget (.element head children tail)) 0 (startAt head children tail ([], [])) =
          .ok last ∧
      ((Node.element head children tail).visits .data settings) = last.memory.2 ∧
      ((Node.element head children tail).enrich settings).tree =
        last.place.root.unravelIf settings := by
  have noted := Walk.run_noting (fun walk index => [(⟨walk, index⟩ : Visit (List Event))])
    (Enrich.visitor .data settings) Media.tags (Enrich.budget (.element head children tail)) 0
    (startAt head children tail ([], []))
  have untraced : (startAt head children tail
      (([] : List Event), ([] : List (Visit (List Event))))).untraced =
        startAt head children tail [] := rfl
  rw [untraced, ← Visitor.visited] at noted
  rcases ran : Walk.run (Enrich.visitor .data settings).visited Media.tags
      (Enrich.budget (.element head children tail)) 0 (startAt head children tail ([], [])) with
    ⟨stop, left⟩ | last
  · rw [ran] at noted
    rw [enrich_of_stop enabled noted.symm] at finished
    simp at finished
  · rw [ran] at noted
    refine ⟨last, rfl, ?_, ?_⟩
    · unfold startAt at ran
      simp only [visits, enabled, ↓reduceIte, walk, Place.ofNode?, ran]
    · rw [enrich_of_run enabled noted.symm]
      rfl

/-- The calls of the visitor are the heads of the visits. -/
theorem calls_eq (finished : ((Node.element head children tail).enrich settings).failure = none) :
    (Node.element head children tail).calls settings =
      ((Node.element head children tail).visits .data settings).flatMap (·.head?.toList) := by
  cases enabled : settings.enable with
  | false => simp [calls, visits, enabled]
  | true =>
    obtain ⟨last, ran, visits_eq, -⟩ := enrich_visited enabled finished
    have renoted := Walk.run_renoted (fun visit : Visit (List Event) => visit.head?.toList) ran
    have notes : (Enrich.visitor .data settings).traced =
        (Enrich.visitor .data settings).noting fun walk index =>
          [(⟨walk, index⟩ : Visit (List Event))].flatMap (·.head?.toList) := by
      simp [Visitor.traced, Visit.head?, Visit.node?]
    rw [← notes] at renoted
    have start : (startAt head children tail (([] : List Event),
        ([] : List (Visit (List Event))))).renoted (fun visit => visit.head?.toList) =
          startAt head children tail ([], []) := rfl
    rw [start] at renoted
    unfold startAt at renoted
    rw [visits_eq]
    simp only [calls, enabled, ↓reduceIte, walk, Place.ofNode?, renoted]
    rfl

end

/-- **A link of an enriched document was there before, or a visit added it.** -/
theorem links_enrich {settings : Settings} {tree : Node}
    (finished : (tree.enrich settings).failure = none) :
    ∀ link ∈ (tree.enrich settings).tree.links, link ∈ tree.links ∨
      ∃ visit ∈ tree.visits .data settings, link ∈ visit.links settings := by
  intro link mem
  cases enabled : settings.enable with
  | false =>
    rw [enrich_of_disabled enabled] at mem
    exact .inl mem
  | true =>
    cases tree with
    | comment | instruction =>
      rw [enrich_of_noElement rfl] at mem
      exact .inl mem
    | element head children tail =>
      obtain ⟨last, ran, visits_eq, tree_eq⟩ := enrich_visited enabled finished
      rw [tree_eq, links_unravelIf] at mem
      rw [visits_eq]
      exact (Walk.links_run ran).2 link mem

end Node

end MediaMarkup

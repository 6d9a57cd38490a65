import MediaMarkup.Proofs.Cut
import MediaMarkup.Proofs.Visited

/-!
Documents that a pass leaves as they are. Settled media elements are handled without any change, so
a walk over a document that has no others ends where it started (`Walk.run_settled`); and paragraphs
that were unravelled are not unravelled again. Main statement: enriching is idempotent on documents
whose media elements ask for everything at once and whose paragraphs do not nest (`enrich_enrich`).
-/

namespace MediaMarkup

/-! ## One element -/

namespace Request

variable {head : Head} {insideLink : Bool} {request : Request} {source : String}

theorem caption_of_quiet (asked : ofHead? head insideLink = some request)
    (quiet : head.Quiet source) : ∃ alt, request.caption = .plain alt := by
  obtain ⟨-, -, -, caption, -⟩ := ofHead?_eq_some asked
  have unmarked := quiet.unmarked
  rw [← caption] at unmarked
  cases h : request.caption with
  | plain alt => exact ⟨alt, rfl⟩
  | marked mode text =>
    rw [h] at unmarked
    cases unmarked

/-- The attributes of a quiet element are written as they are. -/
theorem editAttributes_of_quiet (asked : ofHead? head insideLink = some request)
    (present : head.source? = some source) (quiet : head.Quiet source) :
    request.editAttributes head.tag head.attributes = head.attributes := by
  obtain ⟨source', present', link⟩ := source?_of_asked asked
  rw [present, Option.some.injEq] at present'
  subst present'
  obtain ⟨alt, caption⟩ := caption_of_quiet asked quiet
  have title : request.title.text = request.titleText := by
    obtain ⟨-, -, -, -, -, -, -, titleText, -⟩ := ofHead?_eq_some asked
    rw [title_eq asked, titleText, quiet.trimmed]
  have unwrapped : request.link.source = source := by
    rw [link, Link.source_ofSource, Link.source_of_unwrapped quiet.unwrapped]
  rw [Head.source?, Option.filter_eq_some_iff] at present
  rw [editAttributes, editTitle, if_pos title, editAlt, caption, unwrapped]
  exact Attributes.setText_of_text? present.1 (by simpa using present.2)

theorem derive_of_quiet (asked : ofHead? head insideLink = some request)
    (quiet : head.Quiet source) : request.derive = .ok [] := by
  rw [derive, title_eq asked, quiet.undirected]
  rfl

/-- A quiet element gets nothing around it. -/
theorem plan_of_quiet {site : Site} (asked : ofHead? head insideLink = some request)
    (present : head.source? = some source) (quiet : head.Quiet source) :
    (request.plan site).figure = false ∧ (request.plan site).figcaption = none ∧
      (request.plan site).href = none := by
  obtain ⟨source', present', link⟩ := source?_of_asked asked
  rw [present, Option.some.injEq] at present'
  subst present'
  obtain ⟨alt, caption⟩ := caption_of_quiet asked quiet
  have href : request.link.href = none := by
    have unwrapped := quiet.unwrapped
    have isSome := Link.isSome_href_ofSource source insideLink
    rw [unwrapped, Option.isSome_none, Bool.false_and, ← link] at isSome
    simpa using isSome
  simp [plan, Plan.make, caption, Caption.isMarked, Caption.captionText?, href]

end Request

/-- A settled element is handled without any change. -/
theorem Change.ofElement_settled {head : Head} (settled : head.Settled) (settings : Settings)
    (site : Site) (children : List Node) :
    ∃ events, ofElement .data settings site head children =
      .ok ⟨.element head children "", [], .none, .none, events⟩ := by
  cases asked : Request.ofHead? head site.surroundings.insideLink with
  | none => exact ⟨[], by rw [ofElement, asked]; rfl⟩
  | some request =>
    obtain ⟨source, present, -⟩ := Request.source?_of_asked asked
    have quiet := settled source present
    have merged : request.merge .data [] head = ⟨head.attributes, [], Option.none⟩ := by
      rw [Request.merge, Attributes.merge, Request.editAttributes_of_quiet asked present quiet]
    have derives := Request.derive_of_quiet asked quiet
    obtain ⟨figure, figcaption, href⟩ : (request.plan site).figure = false ∧
        (request.plan site).figcaption = Option.none ∧ (request.plan site).href = Option.none :=
      Request.plan_of_quiet asked present quiet
    obtain ⟨events, done⟩ : ∃ events, ofElement .data settings site head children = .ok _ :=
      ofElement_of_asked asked derives (by rw [merged])
    refine ⟨events, ?_⟩
    rw [done]
    simp [merged, Request.finish, Request.converts_eq asked, quiet.unconverted, Plan.shells,
      Plan.mediaLink, Plan.addedCaption, Plan.parentLink, Plan.figureLink, figure, figcaption, href]

/-! ## Walks -/

theorem Enrich.visitor_settled {settings : Settings} {walk : Walk.Enriching} {index : Nat}
    {head : Head} {children : List Node} {tail : String}
    (here : walk.place.children[index]? = some (.element head children tail))
    (settled : head.Settled) :
    ∃ events, visitor .data settings walk index = .ok (some index, walk.record events) := by
  obtain ⟨events, done⟩ :=
    Change.ofElement_settled settled settings (walk.site tail) children
  refine ⟨events, ?_⟩
  have kept := Place.setChild_self here
  simp only [visitor, here, done, Walk.apply, Change.slot, Node.within, List.foldl_nil,
    Node.withTail, kept]

/-- A walk over settled elements ends where it started. -/
theorem Walk.run_settled (settings : Settings) (budget index : Nat) (walk : Enriching)
    (settled : ∀ media ∈ Node.mediaAll (walk.place.children.drop index), media.1.Settled)
    (enough : Node.sizes (walk.place.children.drop index) < budget) :
    ∃ last, run (Enrich.visitor .data settings) Media.tags budget index walk = .ok last ∧
      last.place = walk.place ∧ last.ancestors = walk.ancestors := by
  induction budget generalizing index walk with
  | zero => omega
  | succ budget ih =>
    unfold run
    cases here : walk.place.children[index]? with
    | none => exact ⟨walk, rfl, rfl, rfl⟩
    | some node =>
      obtain ⟨inside, child⟩ := List.getElem?_eq_some_iff.mp here
      rw [List.drop_eq_getElem_cons inside, child] at settled enough
      rw [Node.mediaAll_cons] at settled
      rw [Node.sizes] at enough
      have one : 1 ≤ node.size := by cases node <;> simp [Node.size]
      have later : ∀ media ∈ Node.mediaAll (walk.place.children.drop (index + 1)),
          media.1.Settled := fun media mem => settled media (List.mem_append_right _ mem)
      cases node with
      | comment text tail => exact ih (index + 1) walk later (by omega)
      | instruction text tail => exact ih (index + 1) walk later (by omega)
      | element head children tail =>
        rw [Node.size] at enough
        dsimp only
        by_cases media : head.tag ∈ Media.tags
        · rw [Node.media_of_media media] at settled
          obtain ⟨events, called⟩ : ∃ events, Enrich.visitor .data settings walk index =
              .ok (some index, walk.record events) :=
            Enrich.visitor_settled here (settled _ List.mem_cons_self)
          rw [if_pos media, called]
          exact ih (index + 1) (walk.record events) later (by
            show Node.sizes (walk.place.children.drop (index + 1)) < budget
            omega)
        · rw [Node.media_of_other media] at settled
          have below : ∀ media ∈ Node.mediaAll children, media.1.Settled :=
            fun media mem => settled media (List.mem_append_left _ mem)
          obtain ⟨inner, entered, back, -⟩ :=
            ih 0 (walk.enter index head children tail) below (by
              show Node.sizes children < budget
              omega)
          have resumed : (walk.resume inner).place = walk.place := by
            rw [resume, back]
            exact Place.leaveTo_enter here
          rw [if_neg media, entered]
          obtain ⟨last, ran, place_eq, ancestors_eq⟩ := ih (index + 1) (walk.resume inner)
            (by rw [resumed]; exact later) (by rw [resumed]; omega)
          exact ⟨last, ran, place_eq.trans resumed, ancestors_eq⟩

/-- A walk goes on behind an element in which all is settled. -/
theorem Walk.run_step_settled (settings : Settings) {budget index : Nat} {walk : Enriching}
    {head : Head} {children : List Node} {tail : String}
    (here : walk.place.children[index]? = some (.element head children tail))
    (other : head.tag ∉ Media.tags)
    (settled : ∀ media ∈ Node.mediaAll children, media.1.Settled)
    (enough : Node.sizes children < budget) :
    ∃ next, run (Enrich.visitor .data settings) Media.tags (budget + 1) index walk =
        run (Enrich.visitor .data settings) Media.tags budget (index + 1) next ∧
      next.place = walk.place ∧ next.ancestors = walk.ancestors := by
  obtain ⟨inner, entered, back, -⟩ :=
    run_settled settings budget 0 (walk.enter index head children tail) settled enough
  refine ⟨walk.resume inner, ?_, ?_, rfl⟩
  · rw [run, here]
    dsimp only
    rw [if_neg other, entered]
  · rw [resume, back]
    exact Place.leaveTo_enter here

/-- A document of settled elements is only unravelled. -/
theorem Node.enrich_settled (settings : Settings) (tree : Node)
    (settled : ∀ media ∈ mediaAll tree.children, media.1.Settled)
    (unravelled : tree.unravelIf settings = tree) :
    (tree.enrich settings).failure = none ∧ (tree.enrich settings).tree = tree := by
  cases enabled : settings.enable with
  | false => rw [enrich_of_disabled enabled]; exact ⟨rfl, rfl⟩
  | true =>
    cases tree with
    | comment => exact ⟨failure_of_noElement rfl, enrich_of_noElement rfl⟩
    | instruction => exact ⟨failure_of_noElement rfl, enrich_of_noElement rfl⟩
    | element head children tail =>
      have enough : sizes children < Enrich.budget (.element head children tail) := by
        rw [Enrich.budget, size]
        calc sizes children < 1 * (1 + sizes children + 1) := by omega
          _ ≤ 64 * (1 + sizes children + 1) * (1 + sizes children + 1) :=
            Nat.mul_le_mul_right _ (by omega)
      obtain ⟨last, ran, place_eq, -⟩ := Walk.run_settled settings _ 0
        (startAt head children tail []) settled enough
      rw [enrich_of_run enabled ran, place_eq]
      exact ⟨rfl, unravelled⟩

/-! ## What a pass leaves settled -/

theorem Visited.settled_of_transGen {settings : Settings} {old new : Head × List Node}
    (visited : Relation.TransGen (Visited settings) old new)
    (tame : ∀ source, old.1.source? = some source → old.1.Tame source) : new.1.Settled := by
  induction visited with
  | single visited => exact visited.settled tame
  | tail _ visited ih => exact visited.settled fun source present => (ih source present).tame

/-! ## What a pass adds -/

/-- The tags of the elements that a pass adds or changes. -/
def newTags : List String := Media.tags ++ ["a", "figure", "figcaption", "source"]

/-- A search that says nothing of what a pass adds or changes. -/
def Search.PassesNew (search : Search) : Prop :=
  ∀ head children, head.tag ∈ newTags → search head children = none

namespace Search.PassesNew

variable {search : Search}

theorem passesCaptions (passes : search.PassesNew) : search.PassesCaptions := by
  intro head isCaption
  apply passes
  rw [isCaption]
  decide

theorem finds_attach (passes : search.PassesNew) {frame : Frame} (isShell : frame.IsShell)
    (node : Node) : (frame.attach node).finds search = node.finds search := by
  have isNew : frame.head.tag ∈ newTags := by
    rcases isShell.tag with h | h <;> rw [h] <;> decide
  have before := passes.passesCaptions.findsAny_figcaptions fun node h =>
    isShell.figcaptions node (List.mem_append_left _ h)
  have after := passes.passesCaptions.findsAny_figcaptions fun node h =>
    isShell.figcaptions node (List.mem_append_right _ h)
  rw [Frame.attach, Node.finds_of_none (passes _ _ isNew), Node.findsAny_append, Node.findsAny_cons,
    before, after, Bool.false_or, Bool.or_false]

theorem finds_within (passes : search.PassesNew) {shells : List Frame}
    (isShell : ∀ frame ∈ shells, frame.IsShell) (node : Node) :
    (node.within shells).finds search = node.finds search :=
  Node.within_shells (motive := fun outer => outer.finds search = node.finds search) isShell
    (fun _ inner isShell same => (passes.finds_attach isShell inner).trans same) rfl

/-- In the slot of a media element nothing is found that was not found before. -/
theorem finds_slot (passes : search.PassesNew) {settings : Settings} {site : Site} {head : Head}
    {inner : List Node} {change : Change} {tail : String}
    (handled : Change.Handled .data settings site head inner change) (media : head.tag ∈ Media.tags)
    (none : (Node.element head inner tail).finds search = false) :
    (change.slot.withTail tail).finds search = false := by
  have isNew : ∀ head children, head.tag ∈ Media.tags ∨ head.tag = "source" →
      search head children = Option.none := by
    intro head children h
    apply passes
    rcases h with h | h
    · exact List.mem_append_left _ h
    · rw [h]
      decide
  rw [Node.finds_of_none (isNew _ _ (.inl media))] at none
  rw [Node.finds_withTail, Change.slot, passes.finds_within handled.isShell,
    handled.finds_media media isNew, none, Bool.and_false]

theorem finds_close (passes : search.PassesNew) {level : Level} (regular : level.Regular)
    (children : List Node) (tail : String) :
    (level.close children tail).finds search =
      (Node.element level.head children tail).finds search := by
  unfold Level.close
  cases h : level.link with
  | none => rfl
  | some link =>
    obtain ⟨-, href, rfl⟩ := regular.link link h
    have isNew : (anchor href).tag ∈ newTags := show "a" ∈ newTags by decide
    dsimp only
    rw [Node.finds_of_none (passes _ _ isNew), Node.findsAny_cons, Node.findsAny_nil,
      Bool.or_false, Node.finds_element, Node.finds_element]

end Search.PassesNew

namespace Pass

variable {settings : Settings} {level last : Level} {before todo children : List Node}
  {log : List Head} {search : Search}

/-- A search that says nothing of the new elements finds nothing after a pass if it found nothing
before, provided that it is so for every single element that is walked. -/
theorem findsAny_eq_false (passes : search.PassesNew)
    (walked : ∀ {level last : Level} {inner inner' : List Node} {log : List Head} (head tail),
      Pass .data settings level [] inner log last inner' →
      (Node.findsAny search inner = false → Node.findsAny search inner' = false) →
      (Node.element head inner tail).finds search = false →
        (Node.element head inner' tail).finds search = false)
    (pass : Pass .data settings level before todo log last children)
    (none : Node.findsAny search (before ++ todo) = false) :
    Node.findsAny search children = false := by
  induction pass with
  | done => rwa [List.append_nil] at none
  | skip _ _ ih => exact ih (by rwa [List.append_assoc, List.singleton_append])
  | @visit level last before todo children inner head tail change log media handled rest ih =>
    have own := level.own_figcaption handled
    simp only [Node.findsAny_append, Node.findsAny_cons, Bool.or_eq_false_iff] at none
    obtain ⟨noneBefore, noneHere, noneBehind⟩ := none
    apply ih
    simp only [Node.findsAny_append, Node.findsAny_cons, Node.findsAny_nil,
      passes.passesCaptions.findsAny_captionFront own, noneBefore, noneBehind,
      passes.passesCaptions.findsAny_captionBack own, passes.finds_slot handled media noneHere,
      Bool.or_self]
  | @enter level last below before todo children inner inner' head tail log log' other inside kept
      rest innerIh ih =>
    have regular := inside.regular_below
    have head_eq := inside.head_below
    simp only [Node.findsAny_append, Node.findsAny_cons, Bool.or_eq_false_iff] at none
    obtain ⟨noneBefore, noneHere, noneBehind⟩ := none
    have closed := walked head tail inside innerIh noneHere
    apply ih
    simp only [Node.findsAny_append, Node.findsAny_cons, Node.findsAny_nil, noneBefore, noneBehind,
      passes.passesCaptions.findsAny_captionBack regular.caption, passes.finds_close regular,
      head_eq, closed, Bool.or_self]
  | @again level last below before todo children inner inner' head tail caption log log' other
      inside moved rest innerIh ih =>
    have regular := inside.regular_below
    have head_eq := inside.head_below
    simp only [Node.findsAny_append, Node.findsAny_cons, Bool.or_eq_false_iff] at none
    obtain ⟨noneBefore, noneHere, noneBehind⟩ := none
    have closed := walked head tail inside innerIh noneHere
    have front := passes.passesCaptions.finds_moved regular.caption moved
    apply ih
    simp only [List.cons_append, Node.findsAny_append, Node.findsAny_cons, front, noneBefore,
      noneBehind, passes.finds_close regular, head_eq, closed, Bool.or_self]

variable {tag : String}

/-- A pass adds no element of a tag that is not one of its own. -/
theorem tagged_eq_false (old : tag ∉ newTags)
    (pass : Pass .data settings level before todo log last children)
    (none : Node.findsAny (.tagged tag) (before ++ todo) = false) :
    Node.findsAny (.tagged tag) children = false := by
  have passes : (Search.tagged tag).PassesNew := fun head children isNew =>
    if_neg fun same : head.tag = tag => old (same ▸ isNew)
  refine pass.findsAny_eq_false passes ?_ none
  intro level last inner inner' log head tail inside kept none
  have other : head.tag ≠ tag := by
    rintro same
    rw [Node.finds_of_some (if_pos same)] at none
    cases none
  rw [Node.finds_of_none (if_neg other)] at none ⊢
  exact kept none

/-- In an element that is walked no element of a tag gets into another one, if it does not among the
children. -/
theorem nests_eq_false_of_kept (old : tag ∉ newTags) {inner inner' : List Node} {head : Head}
    {tail : String} (inside : Pass .data settings level [] inner log last inner')
    (kept : Node.findsAny (.nesting tag) inner = false →
      Node.findsAny (.nesting tag) inner' = false)
    (none : (Node.element head inner tail).nests tag = false) :
    (Node.element head inner' tail).nests tag = false := by
  by_cases same : head.tag = tag
  · rw [Node.nests_of_tag same] at none ⊢
    exact inside.tagged_eq_false old none
  · rw [Node.nests_of_ne same] at none ⊢
    exact kept none

theorem nesting_eq_false (old : tag ∉ newTags)
    (pass : Pass .data settings level before todo log last children)
    (none : Node.findsAny (.nesting tag) (before ++ todo) = false) :
    Node.findsAny (.nesting tag) children = false := by
  have passes : (Search.nesting tag).PassesNew := fun head children isNew =>
    if_neg fun same : head.tag = tag => old (same ▸ isNew)
  refine pass.findsAny_eq_false passes ?_ none
  intro level last inner inner' log head tail inside kept none
  exact inside.nests_eq_false_of_kept old kept none

end Pass

/-! ## Whole documents -/

/-- Behind a pass, all media elements are settled. -/
theorem Pass.settled {settings : Settings} {level last : Level} {todo children : List Node}
    {log : List Head} (pass : Pass .data settings level [] todo log last children)
    (tame : ∀ media ∈ Node.mediaAll todo, ∀ source, media.1.source? = some source →
      media.1.Tame source) :
    ∀ media ∈ Node.mediaAll children, media.1.Settled := by
  obtain ⟨media, eq, related⟩ := pass.media_eq
  rw [Node.mediaAll_nil, List.nil_append] at eq
  rw [eq]
  intro new mem
  obtain ⟨old, mem, visited⟩ := forall₂_mem_right related new mem
  exact Visited.settled_of_transGen visited (tame old mem)

/-- **Enriching is idempotent.** If no source has a second wrapper, no title a directive about the
source, the alt text or the title itself, and no paragraph lies in another one, then a document that
was enriched is left as it is by enriching it again. -/
theorem enrich_enrich (settings : Settings) (tree : Node)
    (finished : (tree.enrich settings).failure = none)
    (tame : ∀ media ∈ Node.mediaAll tree.children, ∀ source, media.1.source? = some source →
      media.1.Tame source)
    (flat : tree.nests "p" = false) :
    ((tree.enrich settings).tree.enrich settings).failure = none ∧
      ((tree.enrich settings).tree.enrich settings).tree = (tree.enrich settings).tree := by
  cases enabled : settings.enable with
  | false =>
    rw [Node.enrich_of_disabled enabled]
    exact ⟨by rw [Node.enrich_of_disabled enabled], by rw [Node.enrich_of_disabled enabled]⟩
  | true =>
    cases tree with
    | comment text tail =>
      rw [Node.enrich_of_noElement rfl]
      exact ⟨Node.failure_of_noElement rfl, Node.enrich_of_noElement rfl⟩
    | instruction text tail =>
      rw [Node.enrich_of_noElement rfl]
      exact ⟨Node.failure_of_noElement rfl, Node.enrich_of_noElement rfl⟩
    | element head children tail =>
      obtain ⟨last, children', pass, tree_eq⟩ := Node.enrich_pass enabled finished
      have settled := pass.settled tame
      have flat' : (Node.element head children' tail).nests "p" = false :=
        pass.nests_eq_false_of_kept (by decide) (pass.nesting_eq_false (by decide)) flat
      rw [tree_eq]
      apply Node.enrich_settled
      · intro new mem
        obtain ⟨old, mem, head_eq, -⟩ := forall₂_mem_right (Node.media_unravelIf settings _) new mem
        rw [head_eq]
        exact settled old mem
      · exact Node.unravelIf_unravelIf settings flat'

/-- An image in a paragraph, with a wrapper, markers and a directive. -/
def demandingImage : Head :=
  .new "img"
    [("src", .text "[x.png]"), ("alt", .text "^*caption"), ("title", .text "text > lazy")] ""

def demandingParagraph : Node :=
  .around "div" [.around "p" [.comment "note" "before", .element demandingImage [] "behind"]]

theorem enrich_enrich_demandingParagraph :
    (demandingParagraph.enrich .default).failure = none ∧
      ((demandingParagraph.enrich .default).tree.enrich .default).tree =
        (demandingParagraph.enrich .default).tree := by
  have finished : (demandingParagraph.enrich .default).failure = none := by decide +kernel
  have directives : demandingImage.title.directives = [.flag "lazy"] := by decide +kernel
  have tame : ∀ media ∈ Node.mediaAll demandingParagraph.children, ∀ source,
      media.1.source? = some source → media.1.Tame source := by
    have alone : Node.mediaAll demandingParagraph.children = [(demandingImage, [])] := by rfl
    rw [alone]
    intro media mem source present
    rw [List.mem_singleton] at mem
    have source_eq : source = "[x.png]" := by
      rw [mem] at present
      exact (Option.some.inj present).symm
    rw [mem, source_eq]
    refine ⟨by decide, ?_⟩
    intro name mem directive mem'
    rw [directives, List.mem_singleton] at mem'
    rw [mem']
    revert name
    decide
  exact ⟨finished, (enrich_enrich .default _ finished tame (by decide +kernel)).2⟩

end MediaMarkup

import Mathlib.Data.List.Nodup
import MediaMarkup.Proofs.Calls
import MediaMarkup.Proofs.NewLinks
import MediaMarkup.Proofs.Settled
import MediaMarkup.Proofs.TitleSource

/-!
What is derived from a source, and the source in the end. A link leads to the source without its
wrapper, and a player is made for its kind of media; both are settled before the title is carried
out, which may give the element another source. Main statement: links and players keep to the source
of their element just where no title moves it from there (`keepsToSource_iff`).
-/

namespace MediaMarkup

/-! ## One element -/

theorem Kind.eq_of_tag {kind kind' : Kind} (same : kind.tag = kind'.tag) : kind = kind' := by
  cases kind <;> cases kind' <;> first | rfl | exact absurd same (by decide)

theorem sourceElement_inj {source source' : String} {mime mime' : Option String}
    (same : sourceElement source mime = sourceElement source' mime') :
    source = source' ∧ mime.getD "" = mime'.getD "" := by
  simpa [sourceElement, Head.new] using same

namespace Head

variable {head : Head}

theorem linkAsked?_of_settled (settled : head.Settled) : head.linkAsked? = none := by
  unfold linkAsked?
  split
  · cases present : head.source? with
    | none => rfl
    | some source => exact (settled source present).unwrapped
  · rfl

end Head

theorem Link.source_of_href {source href : String} {insideLink : Bool}
    (leads : (ofSource source insideLink).href = some href) :
    (ofSource source false).source = href := by
  unfold ofSource at leads ⊢
  split at leads
  · cases insideLink
    · exact Option.some.inj leads
    · cases leads
  · cases leads

/-- The links that a plan puts around anything lead where the plan says. -/
theorem Plan.links_eq {settings : Settings} {plan : Plan} {surroundings : Surroundings}
    {linkable : Bool} {link : Head} (isLink : link.tag = "a")
    (mem : link ∈ (plan.shells settings surroundings linkable).map Frame.head ++
      (plan.parentLink surroundings linkable).toList) :
    ∃ href, plan.href = some href ∧ link = anchor href := by
  have ofHref (mem : link ∈ plan.href.map anchor) :
      ∃ href, plan.href = some href ∧ link = anchor href := by
    obtain ⟨href, leads, same⟩ := Option.map_eq_some_iff.mp mem
    exact ⟨href, leads, same.symm⟩
  have ofMedia (mem : link ∈ plan.mediaLink surroundings linkable) :
      ∃ href, plan.href = some href ∧ link = anchor href := by
    unfold mediaLink at mem
    split at mem
    · cases mem
    · exact ofHref mem
  have ofFigure (mem : link ∈ plan.figureLink) :
      ∃ href, plan.href = some href ∧ link = anchor href := by
    unfold figureLink at mem
    split at mem
    · exact ofHref mem
    · cases mem
  simp only [shells, List.map_append, List.map_map, List.mem_append, List.mem_map,
    Option.mem_toList, Function.comp_apply, shell] at mem
  rcases mem with (⟨head, present, rfl⟩ | ⟨frame, present, rfl⟩) | parent
  · exact ofMedia present
  · split at present
    · simp only [List.mem_cons, List.mem_map, Option.mem_toList] at present
      rcases present with rfl | ⟨head, present, rfl⟩
      · rw [figureShell_tag] at isLink
        exact absurd isLink (by decide)
      · exact ofFigure present
    · cases present
  · unfold parentLink at parent
    split at parent
    · exact ofFigure parent
    · cases parent

/-- The links that a change adds lead to the source of their image without its wrapper. -/
theorem Change.Handled.links_eq {settings : Settings} {site : Site} {head link : Head}
    {children : List Node} {change : Change}
    (handled : Handled .data settings site head children change) (mem : link ∈ change.links) :
    head.linkAsked?.isSome = true ∧
      ∃ href, link = anchor href ∧ head.unwrapped? = some href := by
  rw [links, List.mem_filter, decide_eq_true_eq] at mem
  cases handled with
  | untouched => simp [none] at mem
  | @changed request derived media events asked derives merges finishes =>
    obtain ⟨source, present, linked⟩ := Request.source?_of_asked asked
    obtain ⟨href, planned, rfl⟩ := Plan.links_eq mem.2 mem.1
    have asks := Request.isSome_href_plan asked
    rw [planned, Option.isSome_some, eq_comm, Bool.and_eq_true] at asks
    have leads := Plan.href_of_make planned
    rw [linked] at leads
    refine ⟨asks.1, href, rfl, ?_⟩
    rw [Head.unwrapped?, present, Option.map_some, Link.source_of_href leads]

namespace Visited

variable {settings : Settings} {old new : Head × List Node}

theorem eq_of_settled (visited : Visited settings old new) (settled : old.1.Settled) :
    new = old := by
  obtain ⟨site, change, handled, media_eq⟩ := visited
  obtain ⟨events, done⟩ := Change.ofElement_settled settled settings site old.2
  have same : change.media = .element old.1 old.2 "" := by
    cases handled with
    | untouched => rfl
    | changed asked derives merges finishes =>
      obtain rfl := finishes.eq_finish
      obtain ⟨events', done'⟩ := Change.ofElement_of_asked asked derives merges
      rw [done, Except.ok.injEq, Change.mk.injEq] at done'
      exact done'.1.symm
  rw [same, Node.element.injEq] at media_eq
  exact Prod.ext media_eq.1.symm media_eq.2.1.symm

/-- An element that asks for everything at once is left by its first visit as it is in the end. -/
theorem single_of_transGen (visited : Relation.TransGen (Visited settings) old new)
    (tame : ∀ source, old.1.source? = some source → old.1.Tame source) :
    Visited settings old new := by
  induction visited with
  | single visited => exact visited
  | tail before visited ih =>
    rw [visited.eq_of_settled (settled_of_transGen before tame)]
    exact ih

/-- What is written is found in the element, or in its source if it becomes a player. -/
theorem shows_written (visited : Visited settings old new) (asks : old.1.source?.isSome = true) :
    if old.1.converts then
      ∃ source media, old.1.written? = some source ∧ old.1.media? = some media ∧
        media.kind ≠ .image ∧ new.1.tag = media.kind.tag ∧
        new.2 = [sourceElement source media.mime]
    else new.1.tag = old.1.tag ∧ new.1.attributes.text? "src" = old.1.written? := by
  obtain ⟨site, change, handled, media_eq⟩ := visited
  cases handled with
  | untouched unasked =>
    rw [Request.source?_of_unasked unasked] at asks
    cases asks
  | @changed request derived media events asked derives merges finishes =>
    obtain rfl := finishes.eq_finish
    have written := Request.source_written asked derives merges
    rw [← Request.converts_eq asked]
    dsimp only [Request.finish] at media_eq
    split at media_eq
    · rename_i converts
      rw [if_pos converts]
      simp only [Request.player, Node.element.injEq] at media_eq
      obtain ⟨head_eq, children_eq, -⟩ := media_eq
      obtain ⟨-, -, -, -, -, -, kind, -⟩ := Request.ofHead?_eq_some asked
      simp only [Request.converts, Bool.and_eq_true, decide_eq_true_eq] at converts
      rw [if_pos converts.1] at kind
      obtain ⟨source, shown⟩ : ∃ source, old.1.written? = some source := by
        rw [Head.written?, Head.unwrapped?, Option.map_map]
        exact Option.isSome_iff_exists.mp (by rw [Option.isSome_map]; exact asks)
      refine ⟨source, request.media, shown, Request.media?_of_asked asked, converts.2, ?_, ?_⟩
      · rw [← head_eq, ← kind]
      · rw [← children_eq, sourceText, written, shown, Option.getD_some]
    · rename_i kept
      rw [if_neg kept]
      rw [Node.element.injEq] at media_eq
      rw [← media_eq.1]
      exact ⟨rfl, written⟩

end Visited

/-- An element that stays what it is keeps its tag. -/
theorem Visited.tag_of_kept {settings : Settings} {old new : Head × List Node}
    (visited : Visited settings old new) (kept : old.1.converts = false) :
    new.1.tag = old.1.tag := by
  obtain ⟨site, change, handled, media_eq⟩ := visited
  obtain ⟨head', children', media_eq', -, rest⟩ := handled.media_children
  rw [media_eq', Node.element.injEq] at media_eq
  simp only [kept, Bool.false_eq_true, ↓reduceIte] at rest
  rw [← media_eq.1, rest.1]

/-- A media element before and after a pass that changed it by one visit. -/
def VisitedOnce (settings : Settings) : Head × List Node → Head × List Node → Prop :=
  Relation.Comp (Visited settings) Unravelled

namespace VisitedOnce

variable {settings : Settings} {old new : Head × List Node}

theorem mark_eq (visited : VisitedOnce settings old new) : new.1.mark = old.1.mark := by
  obtain ⟨mid, visited, unravelled⟩ := visited
  rw [unravelled.1, visited.mark_eq]

theorem tag_of_kept (visited : VisitedOnce settings old new) (kept : old.1.converts = false) :
    new.1.tag = old.1.tag := by
  obtain ⟨mid, visited, unravelled⟩ := visited
  rw [unravelled.1, visited.tag_of_kept kept]

theorem source_of_kept (visited : VisitedOnce settings old new)
    (asks : old.1.source?.isSome = true) (kept : old.1.converts = false) :
    new.1.attributes.text? "src" = old.1.written? := by
  obtain ⟨mid, visited, unravelled⟩ := visited
  have shown := visited.shows_written asks
  rw [kept, if_neg Bool.false_ne_true] at shown
  rw [unravelled.1, shown.2]

theorem source_of_player (visited : VisitedOnce settings old new)
    (converts : old.1.converts = true) :
    ∃ source kind mime, old.1.written? = some source ∧ old.1.media? = some ⟨kind, some mime⟩ ∧
      kind ≠ .image ∧ new.1.tag = kind.tag ∧ new.2 = [sourceElement source (some mime)] := by
  obtain ⟨mid, visited, head_eq, children_eq⟩ := visited
  have asks : old.1.source?.isSome = true := by
    cases present : old.1.source? with
    | some => rfl
    | none =>
      rw [Head.converts_of_unasked present] at converts
      cases converts
  have shown := visited.shows_written asks
  rw [if_pos converts] at shown
  obtain ⟨source, media, written, made, player, tag, child⟩ := shown
  obtain ⟨mime, typed⟩ : ∃ mime, media.mime = some mime := by
    rw [Head.media?_eq, Option.map_eq_some_iff] at made
    obtain ⟨unwrapped, -, rfl⟩ := made
    exact Media.mime_ofExtension _ player
  refine ⟨source, media.kind, mime, written, typed ▸ made, player, head_eq ▸ tag, ?_⟩
  rw [typed] at child
  rcases children_eq with same | unravelled
  · rw [same, child]
  · rw [unravelled, child]
    rfl

end VisitedOnce

/-! ## A pass -/

namespace Pass

variable {settings : Settings} {level last : Level} {before todo children : List Node}
  {log : List Head}

/-- A head that the visitor is called for is that of a media element, as earlier visits left it. -/
theorem reached_of_called (pass : Pass .data settings level before todo log last children) :
    ∀ head ∈ log, ∃ old ∈ Node.mediaAll todo, ∃ inner,
      Relation.ReflTransGen (Visited settings) old (head, inner) := by
  induction pass with
  | done => simp
  | skip noElement rest ih =>
    rw [Node.mediaAll_cons, Node.media_of_noElement noElement]
    exact ih
  | @visit level last before todo children inner head tail change log media handled rest ih =>
    have own := level.own_figcaption handled
    rw [Node.mediaAll_append, mediaAll_captionBack own, List.append_nil] at ih
    rw [Node.mediaAll_cons, Node.media_of_media media]
    intro called mem
    rcases List.mem_cons.mp mem with rfl | mem
    · exact ⟨(called, inner), List.mem_append_left _ List.mem_cons_self, inner, .refl⟩
    · obtain ⟨old, mem, reached⟩ := ih called mem
      exact ⟨old, List.mem_append_right _ mem, reached⟩
  | @enter level last below before todo children inner inner' head tail log log' other inside kept
      rest innerIh ih =>
    rw [Node.mediaAll_append, mediaAll_captionBack inside.regular_below.caption, List.append_nil]
      at ih
    rw [Node.mediaAll_cons, Node.media_of_other other]
    intro called mem
    rcases List.mem_append.mp mem with mem | mem
    · obtain ⟨old, mem, reached⟩ := innerIh called mem
      exact ⟨old, List.mem_append_left _ mem, reached⟩
    · obtain ⟨old, mem, reached⟩ := ih called mem
      exact ⟨old, List.mem_append_right _ mem, reached⟩
  | @again level last below before todo children inner inner' head tail caption log log' other
      inside moved rest innerIh ih =>
    obtain ⟨media, eq, related⟩ := inside.media_eq
    rw [Node.mediaAll_nil, List.nil_append] at eq
    rw [Node.mediaAll_cons, inside.media_below other tail, eq] at ih
    rw [Node.mediaAll_cons, Node.media_of_other other]
    intro called mem
    rcases List.mem_append.mp mem with mem | mem
    · obtain ⟨old, mem, reached⟩ := innerIh called mem
      exact ⟨old, List.mem_append_left _ mem, reached⟩
    · obtain ⟨mid, mem, later, reached⟩ := ih called mem
      rcases List.mem_append.mp mem with again | mem
      · obtain ⟨old, mem, first⟩ := forall₂_mem_right related mid again
        exact ⟨old, List.mem_append_left _ mem, later, first.to_reflTransGen.trans reached⟩
      · exact ⟨mid, List.mem_append_right _ mem, later, reached⟩

/-- Where the walk never comes back, or finds nothing more to do when it does, each media element is
left by its first visit as it is in the end. -/
theorem visited_once {head : Head} {tail : String} {children' : List Node}
    (pass : Pass .data settings (.root head) [] children log last children')
    (steady : (Node.element head children tail).rewalks settings = false ∨
      ∀ old ∈ Node.mediaAll children, ∀ source, old.1.source? = some source → old.1.Tame source) :
    List.Forall₂ (Visited settings) (Node.mediaAll children) (Node.mediaAll children') ∧
      ∀ called ∈ log, (∃ old ∈ Node.mediaAll children, old.1 = called) ∨ called.Settled := by
  rcases steady with once | tame
  · obtain ⟨log_eq, media, eq, visited⟩ := pass.calls_eq once
    rw [Node.mediaAll_nil, List.nil_append] at eq
    refine ⟨eq ▸ visited, fun called mem => .inl ?_⟩
    rw [log_eq] at mem
    exact List.mem_map.mp mem
  · obtain ⟨media, eq, visited⟩ := pass.media_eq
    rw [Node.mediaAll_nil, List.nil_append] at eq
    refine ⟨?_, fun called mem => ?_⟩
    · rw [eq]
      exact ((List.forall₂_and_left ..).mpr ⟨tame, visited⟩).imp
        fun _ _ both => Visited.single_of_transGen both.2 both.1
    · obtain ⟨old, mem, inner, reached⟩ := pass.reached_of_called called mem
      rcases Relation.reflTransGen_iff_eq_or_transGen.mp reached with same | visited
      · exact .inl ⟨old, mem, by rw [← same]⟩
      · exact .inr (Visited.settled_of_transGen visited (tame old mem))

end Pass

/-! ## Whole documents -/

/-- A media element before and after a pass: an image that became a player has one child, the source
that it plays, and the kind and the type are those of that source. -/
def PlaysSource (old new : Head × List Node) : Prop :=
  old.1.tag = Kind.image.tag → new.1.tag ≠ Kind.image.tag →
    ∃ source kind mime, Media.ofSource source = ⟨kind, some mime⟩ ∧
      new.1.tag = kind.tag ∧ new.2 = [sourceElement source (some mime)]

/-- The links that a pass adds lead to the source that their image has in the end, and its players
are of the kind and the type of what they play. -/
structure KeepsToSource (settings : Settings) (tree : Node) : Prop where
  /-- No link is there that no visit added. -/
  added : ∀ link ∈ (tree.enrich settings).tree.links, link ∈ tree.links ∨
    ∃ visit ∈ tree.visits .data settings, link ∈ visit.links settings
  linked : ∀ visit ∈ tree.visits .data settings, ∀ link ∈ visit.links settings,
    ∃ head, visit.head? = some head ∧
      ∃ new ∈ Node.mediaAll (tree.enrich settings).tree.children, new.1.mark = head.mark ∧
        ∃ source, new.1.attributes.text? "src" = some source ∧
          link.attributes.text? "href" = some source
  players : List.Forall₂ PlaysSource (Node.mediaAll tree.children)
    (Node.mediaAll (tree.enrich settings).tree.children)

/-- No title gives an image that is linked another source, nor an image that becomes a player one of
another kind or type. -/
structure UnmovedSources (settings : Settings) (tree : Node) : Prop where
  linked : ∀ visit ∈ tree.visits .data settings, visit.links settings ≠ [] →
    ∀ head ∈ visit.head?, head.written? = head.unwrapped?
  players : settings.enable = true → ∀ old ∈ Node.mediaAll tree.children,
    old.1.converts = true → old.1.written?.map .ofSource = old.1.media?

theorem Node.visits_of_noElement {settings : Settings} {tree : Node}
    (noElement : tree.isElement = false) : tree.visits .data settings = [] := by
  unfold visits
  cases tree with
  | element => simp [isElement, head?] at noElement
  | comment | instruction => split <;> rfl

/-- What a pass does to each media element, and for which of them it calls its visitor. -/
theorem Node.media_enrich {settings : Settings} {tree : Node}
    (finished : (tree.enrich settings).failure = none)
    (steady : tree.rewalks settings = false ∨
      ∀ old ∈ mediaAll tree.children, ∀ source,
        old.1.source? = some source → old.1.Tame source) (enabled : settings.enable = true) :
    List.Forall₂ (VisitedOnce settings) (mediaAll tree.children)
        (mediaAll (tree.enrich settings).tree.children) ∧
      ∀ visit ∈ tree.visits .data settings, ∀ head ∈ visit.head?,
        (∃ old ∈ mediaAll tree.children, old.1 = head) ∨ head.Settled := by
  cases tree with
  | comment | instruction =>
    rw [enrich_of_noElement rfl, visits_of_noElement rfl]
    exact ⟨by simp [Node.children], by simp⟩
  | element head children tail =>
    obtain ⟨last, children', pass, tree_eq⟩ := enrich_pass enabled finished
    obtain ⟨visited, called⟩ := pass.visited_once steady
    have unravelled := media_unravelIf settings (.element head children' tail)
    rw [← tree_eq] at unravelled
    refine ⟨forall₂_comp visited unravelled, fun visit met head' here => called head' ?_⟩
    rw [calls_eq finished, List.mem_flatMap]
    exact ⟨visit, met, by rw [Option.mem_def.mp here]; exact List.mem_cons_self⟩

theorem Node.visits_of_disabled {settings : Settings} {tree : Node}
    (disabled : settings.enable = false) : tree.visits .data settings = [] := by
  simp [visits, disabled]

/-- A link that is added asks for an image that the pass found so, and for no settled one. -/
theorem Visit.asked_of_links {settings : Settings} {visit : Visit (List Event)} {link : Head}
    (mem : link ∈ visit.links settings) :
    ∃ head href, visit.head? = some head ∧ link = anchor href ∧
      head.unwrapped? = some href ∧ head.linkAsked?.isSome = true := by
  obtain ⟨head, children, tail, change, here, handled, mem⟩ := handled_of_links mem
  obtain ⟨asked, href, link_eq, unwrapped⟩ := handled.links_eq mem
  exact ⟨head, href, by rw [head?, here]; rfl, link_eq, unwrapped, asked⟩

theorem Head.source?_of_linkAsked {head : Head} (asked : head.linkAsked?.isSome = true) :
    head.source?.isSome = true := by
  cases present : head.source? with
  | some => rfl
  | none =>
    rw [linkAsked?_of_unasked present] at asked
    cases asked

namespace UnmovedSources

variable {settings : Settings} {tree : Node}

theorem plays {old new : Head × List Node} (unmoved : UnmovedSources settings tree)
    (enabled : settings.enable = true) (mem : old ∈ Node.mediaAll tree.children)
    (visited : VisitedOnce settings old new) : PlaysSource old new := by
  intro image other
  cases converts : old.1.converts with
  | false =>
    rw [visited.tag_of_kept converts] at other
    exact absurd image other
  | true =>
    obtain ⟨source, kind, mime, written, made, -, tag, child⟩ := visited.source_of_player converts
    have same := unmoved.players enabled old mem converts
    rw [written, made, Option.map_some, Option.some.injEq] at same
    exact ⟨source, kind, mime, same, tag, child⟩

end UnmovedSources

namespace KeepsToSource

variable {settings : Settings} {tree : Node}

theorem of_disabled (disabled : settings.enable = false) : KeepsToSource settings tree := by
  have noVisits : tree.visits .data settings = [] := Node.visits_of_disabled disabled
  have same : tree.enrich settings = ⟨tree, [.disabled], none⟩ := Node.enrich_of_disabled disabled
  refine ⟨fun link mem => .inl ?_, by simp [noVisits], ?_⟩
  · rwa [same] at mem
  · rw [same]
    exact List.forall₂_same.mpr fun _ _ image other => absurd image other

/-- A link that leads to the source in the end shows that the title gave no other one. -/
theorem written_eq (keeps : KeepsToSource settings tree)
    (related : List.Forall₂ (VisitedOnce settings) (Node.mediaAll tree.children)
      (Node.mediaAll (tree.enrich settings).tree.children))
    (apart : ((Node.mediaAll tree.children).map (·.1.mark)).Nodup)
    {visit : Visit (List Event)} (met : visit ∈ tree.visits .data settings) {link : Head}
    (mem : link ∈ visit.links settings) {old : Head × List Node}
    (present : old ∈ Node.mediaAll tree.children) (here : visit.head? = some old.1) :
    old.1.written? = old.1.unwrapped? := by
  have sameMarks : (Node.mediaAll (tree.enrich settings).tree.children).map (·.1.mark) =
      (Node.mediaAll tree.children).map (·.1.mark) := by
    rw [← List.forall₂_eq_eq_eq, List.forall₂_map_left_iff, List.forall₂_map_right_iff]
    exact related.flip.imp fun _ _ visited => VisitedOnce.mark_eq visited
  obtain ⟨head, href, here', rfl, unwrapped, asked⟩ := Visit.asked_of_links mem
  obtain rfl : old.1 = head := Option.some.inj (here.symm.trans here')
  obtain ⟨new, mem', visited⟩ := forall₂_mem_left related old present
  obtain ⟨head, here'', new', mem'', mark, source, shown, leads⟩ :=
    keeps.linked visit met _ mem
  obtain rfl : old.1 = head := Option.some.inj (here.symm.trans here'')
  obtain rfl : new' = new := List.inj_on_of_nodup_map (sameMarks ▸ apart) mem'' mem'
    (mark.trans visited.mark_eq.symm)
  have href_eq : href = source := Option.some.inj leads
  rw [← visited.source_of_kept (Head.source?_of_linkAsked asked) (Head.converts_of_linkAsked asked),
    shown, unwrapped, href_eq]

/-- A player that plays what its kind is made for shows that the title gave nothing else. -/
theorem plays_eq {old new : Head × List Node} (plays : PlaysSource old new)
    (visited : VisitedOnce settings old new) (converts : old.1.converts = true) :
    old.1.written?.map .ofSource = old.1.media? := by
  obtain ⟨source, kind, mime, written, made, player, tag, child⟩ :=
    visited.source_of_player converts
  have image : old.1.tag = Kind.image.tag := by
    rw [Head.converts, Bool.and_eq_true, decide_eq_true_eq] at converts
    exact converts.1
  have other : new.1.tag ≠ Kind.image.tag := by
    rw [tag]
    exact fun same => player (Kind.eq_of_tag same)
  obtain ⟨source', kind', mime', made', tag', child'⟩ := plays image other
  obtain rfl : kind = kind' := Kind.eq_of_tag (tag.symm.trans tag')
  rw [child, List.cons.injEq] at child'
  obtain ⟨rfl, typed⟩ := sourceElement_inj child'.1
  have mime_eq : mime = mime' := typed
  rw [written, made, Option.map_some, made', mime_eq]

end KeepsToSource

/-- **Links and players keep to their source** just where no title moves it. The elements are told
apart by their marks; where the walk comes back to a link, its media elements have to ask for
everything at once. -/
theorem keepsToSource_iff (settings : Settings) (tree : Node)
    (finished : (tree.enrich settings).failure = none)
    (apart : ((Node.mediaAll tree.children).map (·.1.mark)).Nodup)
    (steady : tree.rewalks settings = false ∨
      ∀ old ∈ Node.mediaAll tree.children, ∀ source,
        old.1.source? = some source → old.1.Tame source) :
    KeepsToSource settings tree ↔ UnmovedSources settings tree := by
  cases enabled : settings.enable with
  | false =>
    have noVisits : tree.visits .data settings = [] := Node.visits_of_disabled enabled
    refine iff_of_true (.of_disabled enabled) ⟨by simp [noVisits], fun enabled' => ?_⟩
    rw [enabled] at enabled'
    cases enabled'
  | true =>
    obtain ⟨related, called⟩ := Node.media_enrich finished steady enabled
    constructor
    · intro keeps
      refine ⟨fun visit met nonempty head here => ?_, fun _ old present converts => ?_⟩
      · obtain ⟨link, mem⟩ := List.exists_mem_of_ne_nil _ nonempty
        rcases called visit met head here with ⟨old, present, rfl⟩ | settled
        · exact keeps.written_eq related apart met mem present here
        · obtain ⟨head', -, here', -, -, asked⟩ := Visit.asked_of_links mem
          obtain rfl : head = head' := Option.some.inj (here.symm.trans here')
          rw [Head.linkAsked?_of_settled settled] at asked
          cases asked
      · obtain ⟨new, -, visited, plays⟩ :=
          forall₂_mem_left (related.mp (fun _ _ => And.intro) keeps.players) old present
        exact KeepsToSource.plays_eq plays visited converts
    · intro unmoved
      refine ⟨Node.links_enrich finished, ?_, ?_⟩
      · intro visit met link mem
        obtain ⟨head, href, here, rfl, unwrapped, asked⟩ := Visit.asked_of_links mem
        rcases called visit met head here with ⟨old, present, rfl⟩ | settled
        · obtain ⟨new, mem', visited⟩ := forall₂_mem_left related old present
          have written := unmoved.linked visit met (List.ne_nil_of_mem mem) old.1 here
          refine ⟨old.1, here, new, mem', visited.mark_eq, href, ?_, rfl⟩
          rw [visited.source_of_kept (Head.source?_of_linkAsked asked)
            (Head.converts_of_linkAsked asked), written, unwrapped]
        · rw [Head.linkAsked?_of_settled settled] at asked
          cases asked
      · exact ((List.forall₂_and_left ..).mpr ⟨fun _ => id, related⟩).imp
          fun old new both => unmoved.plays enabled both.1 both.2

/-- An image with a mark, a source and a title. -/
def titledPicture (mark : Nat) (source title : String) : Node :=
  .element ⟨Kind.image.tag, [("src", .text source), ("title", .text title)], "", some mark⟩ [] ""

/-- A link whose title gives the source that it leads to, and a player whose title gives another
source of its type. -/
def steadyPictures : Node :=
  .around "div" [titledPicture 0 "[x.png]" "> src=x.png .wide",
    titledPicture 1 "a.mp4" "> src=b.mp4"]

theorem keepsToSource_iff_steadyPictures :
    (steadyPictures.enrich .default).failure = none ∧
      ((Node.mediaAll steadyPictures.children).map (·.1.mark)).Nodup ∧
      steadyPictures.rewalks .default = false ∧ KeepsToSource .default steadyPictures := by
  have finished : (steadyPictures.enrich .default).failure = none := by decide +kernel
  have apart : ((Node.mediaAll steadyPictures.children).map (·.1.mark)).Nodup := by decide +kernel
  have once : steadyPictures.rewalks .default = false := by decide +kernel
  have linked : (steadyPictures.visits .data .default).all (fun visit =>
      (visit.links .default).isEmpty ||
        visit.head?.all fun head => head.written? = head.unwrapped?) = true := by
    decide +kernel
  have players : (Node.mediaAll steadyPictures.children).all (fun old => !old.1.converts ||
      decide (old.1.written?.map Media.ofSource = old.1.media?)) = true := by
    decide +kernel
  have unmoved : UnmovedSources .default steadyPictures := by
    refine ⟨fun visit met nonempty head here => ?_, fun _ old present converts => ?_⟩
    · have good := List.all_eq_true.mp linked visit met
      rw [Bool.or_eq_true, List.isEmpty_iff] at good
      have written := good.resolve_left nonempty
      rw [Option.mem_def.mp here] at written
      exact of_decide_eq_true written
    · have good := List.all_eq_true.mp players old present
      rw [converts, Bool.not_true, Bool.false_or] at good
      exact of_decide_eq_true good
  exact ⟨finished, apart, once,
    (keepsToSource_iff .default steadyPictures finished apart (.inl once)).mpr unmoved⟩

def movedPicture : Node := .around "div" [titledPicture 0 "(x.png)" "> src=y.png"]

/-- A title that gives another source leaves the link where the first one led. -/
theorem not_keepsToSource_movedPicture :
    (movedPicture.enrich .default).failure = none ∧
      (movedPicture.enrich .default).tree.links.map (·.attributes.text? "href") = [some "x.png"] ∧
      (Node.mediaAll (movedPicture.enrich .default).tree.children).map
        (·.1.attributes.text? "src") = [some "y.png"] ∧
      ¬KeepsToSource .default movedPicture := by
  have hrefs : ((movedPicture.visits .data .default).flatMap (·.links .default)).map
      (·.attributes.text? "href") = [some "x.png"] := by decide +kernel
  have sources : (Node.mediaAll (movedPicture.enrich .default).tree.children).map
      (·.1.attributes.text? "src") = [some "y.png"] := by decide +kernel
  refine ⟨by decide +kernel, by decide +kernel, sources, fun keeps => ?_⟩
  obtain ⟨link, mem, href⟩ := List.mem_map.mp (hrefs ▸ List.mem_cons_self :
    some "x.png" ∈ ((movedPicture.visits .data .default).flatMap (·.links .default)).map
      (·.attributes.text? "href"))
  obtain ⟨visit, met, mem⟩ := List.mem_flatMap.mp mem
  obtain ⟨head, -, new, mem', -, source, shown, leads⟩ := keeps.linked visit met link mem
  have shown' := List.mem_map_of_mem (f := (·.1.attributes.text? "src")) mem'
  rw [sources, List.mem_singleton, shown, ← leads, href] at shown'
  exact absurd shown' (by decide)

end MediaMarkup

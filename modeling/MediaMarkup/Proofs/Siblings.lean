import MediaMarkup.Proofs.Ending

/-!
Siblings are enriched independently. A pass over a level that is no figure, and stands in none,
neither changes the level nor looks at the siblings of a child, so passes over two lists of children
can be put together (`Pass.append`). What is a pass is what the walk does (`Walk.run_of_pass`).
Main statement: `enrich_append`.
-/

namespace MediaMarkup

/-! ## From passes to walks -/

/-- What `Handled` says of a change happens, but for the events. -/
theorem Change.Handled.ofElement {settings : Settings} {site : Site} {head : Head}
    {children : List Node} {change : Change}
    (handled : Handled .data settings site head children change) :
    ∃ events, Change.ofElement .data settings site head children = .ok { change with events } := by
  cases handled with
  | untouched unasked => exact ⟨[], by rw [Change.ofElement, unasked]; rfl⟩
  | changed asked derives merges finishes =>
    obtain rfl := finishes.eq_finish
    exact ofElement_of_asked asked derives merges

namespace Walk

/-- A call of the visitor for an element does what `Handled` says. -/
theorem Stands.visitor_of_handled {settings : Settings} {level : Level}
    {before todo inner : List Node} {head : Head} {nodeTail tail : String} {outer : List Frame}
    {walk : Enriching} {change : Change}
    (stands : walk.Stands settings level (before ++ .element head inner nodeTail :: todo) tail
      outer)
    (handled : Change.Handled .data settings
      (level.site (before ++ .element head inner nodeTail :: todo)) head inner change) :
    ∃ next, Enrich.visitor .data settings walk before.length =
        .ok (some (captionFront settings (level.own change.figcaption) ++ before).length, next) ∧
      next.Stands settings ((level.caught change.figcaption).linked change.parentLink)
        (captionFront settings (level.own change.figcaption) ++ before ++
          change.slot.withTail nodeTail ::
            (todo ++ captionBack settings (level.own change.figcaption))) tail outer := by
  obtain ⟨events, done⟩ := handled.ofElement
  obtain ⟨next, called, next'⟩ := stands.visitor_of_ok (stands.ofElement_eq.trans done)
  exact ⟨next, called, next'⟩

/-- What a pass says of a level is what the walk does there, with a budget that is larger than the
load of the level. -/
theorem run_of_pass {settings : Settings} {level last : Level} {before todo children : List Node}
    {log : List Head} (pass : Pass .data settings level before todo log last children)
    {tail : String} {outer : List Frame} {budget : Nat} {walk : Enriching}
    (stands : walk.Stands settings level (before ++ todo) tail outer)
    (enough : level.load before todo < budget) :
    ∃ walk', run (Enrich.visitor .data settings) Media.tags budget before.length walk = .ok walk' ∧
      walk'.Stands settings last children tail outer := by
  induction pass generalizing tail outer budget walk with
  | done level before =>
    obtain ⟨budget, rfl⟩ := Nat.exists_eq_add_one.mpr (Nat.zero_lt_of_lt enough)
    refine ⟨walk, ?_, by simpa using stands⟩
    rw [run, stands.children_eq]
    simp
  | @skip level last before todo children node log noElement rest ih =>
    obtain ⟨budget, rfl⟩ := Nat.exists_eq_add_one.mpr (Nat.zero_lt_of_lt enough)
    have less := level.load_skip noElement before todo
    have at_ : (before ++ node :: todo)[before.length]? = some node := by simp
    obtain ⟨walk', ran, stands'⟩ := ih (by simpa using stands) (show _ < budget by omega)
    rw [List.length_append, List.length_singleton] at ran
    refine ⟨walk', ?_, stands'⟩
    rw [run, stands.children_eq, at_]
    cases node with
    | element => simp [Node.isElement, Node.head?] at noElement
    | comment | instruction => exact ran
  | @visit level last before todo children inner head nodeTail change log media handled rest ih =>
    obtain ⟨budget, rfl⟩ := Nat.exists_eq_add_one.mpr (Nat.zero_lt_of_lt enough)
    have less := handled.load_visit media
    obtain ⟨next, called, next'⟩ := stands.visitor_of_handled handled
    obtain ⟨walk', ran, stands'⟩ := ih (by simpa using next') (show _ < budget by omega)
    rw [List.length_append, List.length_singleton] at ran
    refine ⟨walk', ?_, stands'⟩
    rw [run, stands.children_eq]
    simpa [media, called] using ran
  | @enter level last below before todo children inner inner' head nodeTail log log' other inside
      kept rest innerIh ih =>
    obtain ⟨budget, rfl⟩ := Nat.exists_eq_add_one.mpr (Nat.zero_lt_of_lt enough)
    have smaller : (level.below head (before ++ todo)).load [] inner <
      level.load before (.element head inner nodeTail :: todo) := Level.load_enter other _
    have less := inside.load_leave other nodeTail
    rw [kept, List.nil_append] at less
    obtain ⟨innerWalk, entered, innerStands⟩ :=
      innerIh stands.enter (show _ < budget by omega)
    have resumed := stands.resume innerStands
    rw [kept, List.nil_append] at resumed
    obtain ⟨walk', ran, stands'⟩ := ih (by simpa using resumed) (show _ < budget by omega)
    rw [List.length_append, List.length_singleton] at ran
    refine ⟨walk', ?_, stands'⟩
    rw [List.length_nil] at entered
    rw [run, stands.children_eq]
    simpa [other, entered] using ran
  | @again level last below before todo children inner inner' head nodeTail caption log log' other
      inside moved rest innerIh ih =>
    obtain ⟨budget, rfl⟩ := Nat.exists_eq_add_one.mpr (Nat.zero_lt_of_lt enough)
    have smaller : (level.below head (before ++ todo)).load [] inner <
      level.load before (.element head inner nodeTail :: todo) := Level.load_enter other _
    have less := inside.load_again moved other nodeTail
    obtain ⟨innerWalk, entered, innerStands⟩ :=
      innerIh stands.enter (show _ < budget by omega)
    have resumed := stands.resume innerStands
    rw [moved, captionBack_moved moved, List.append_nil] at resumed
    obtain ⟨walk', ran, stands'⟩ := ih resumed (show _ < budget by omega)
    refine ⟨walk', ?_, stands'⟩
    rw [List.length_nil] at entered
    rw [List.length_cons] at ran
    rw [run, stands.children_eq]
    simpa [other, entered] using ran

end Walk

/-- A pass over the children of a root is what enriching does, before the paragraphs are
unravelled. -/
theorem Node.enrich_of_pass {settings : Settings} {head : Head} {children children' : List Node}
    {tail : String} {last : Level} {log : List Head} (enabled : settings.enable = true)
    (pass : Pass .data settings (.root head) [] children log last children') :
    ((Node.element head children tail).enrich settings).failure = none ∧
      ((Node.element head children tail).enrich settings).tree =
        (Node.element head children' tail).unravelIf settings := by
  have small := Level.load_root head children tail
  have enough := Enrich.size_le_budget (.element head children tail)
  obtain ⟨walk, ran, stands⟩ :=
    Walk.run_of_pass pass (@startAt_stands settings head children tail _ [])
      (Nat.lt_of_lt_of_le small enough)
  have place := stands.place_eq
  have unlinked : last.link = none := pass.link_of_root rfl rfl
  simp only [Level.placeIn, unlinked, addCaption, pass.level_eq.1] at place
  rw [enrich_of_run enabled ran]
  simp [place, Level.root, Place.root, Place.node, Node.within]

/-! ## Levels that are no figures -/

namespace Level

variable {settings : Settings} {level : Level}

/-- Where no figure is around the children, the site of a child is the same among all siblings. -/
theorem site_of_noFigure (noFigure : level.surroundings.figure? = none) (nodes nodes' : List Node) :
    level.site nodes = level.site nodes' := by
  simp only [site, captioned, noFigure]

/-- Where no figure is around the children, nothing is added around the open element. -/
theorem visited_of_noFigure (noFigure : level.surroundings.figure? = none) {nodes inner : List Node}
    {head : Head} {change : Change}
    (handled : Change.Handled .data settings (level.site nodes) head inner change) :
    level.own change.figcaption = none ∧
      (level.caught change.figcaption).linked change.parentLink = level := by
  have unlinked : change.parentLink = none := by
    rw [Option.eq_none_iff_forall_ne_some]
    intro link asked
    have isFigure : level.surroundings = .figure := (handled.parentLink_eq asked).1
    rw [isFigure] at noFigure
    cases noFigure
  have uncaptioned : change.figcaption = none := by
    rw [Option.eq_none_iff_forall_ne_some]
    intro caption asked
    have inFigure : level.surroundings.insideFigure = true := (handled.figcaption_eq asked).1
    rw [Surroundings.insideFigure, noFigure] at inFigure
    cases inFigure
  rw [unlinked, uncaptioned]
  simp [own, caught, linked, noFigure]

/-! ### The element around a level -/

/-- A level of which something else is known of the element around it. -/
def recaptioned (captioned : Bool) (level : Level) : Level :=
  { level with outerCaptioned := captioned }

theorem site_recaptioned (outside : level.outer ≠ some "figure") (regular : level.Regular)
    (captioned : Bool) (nodes : List Node) :
    (level.recaptioned captioned).site nodes = level.site nodes := by
  have elsewhere : level.surroundings.figure? ≠ some 1 := by
    intro inFigure
    have unlinked := link_eq_none_of_linkInFigure regular inFigure
    have around := (Surroundings.ofTags_linkInFigure inFigure).2
    rw [Level.around, unlinked] at around
    exact outside around
  have same : (level.recaptioned captioned).captioned nodes = level.captioned nodes := by
    have surroundings_eq : (level.recaptioned captioned).surroundings = level.surroundings := rfl
    unfold Level.captioned
    rw [surroundings_eq]
    cases here : level.surroundings with
    | plain | link | figure | figureInLink => rfl
    | linkInFigure => exact absurd (congrArg Surroundings.figure? here) elsewhere
  rw [site, same]
  rfl

theorem caught_recaptioned (caption : Option Node) (captioned : Bool) :
    (level.recaptioned captioned).caught caption =
      (level.caught caption).recaptioned captioned := by
  by_cases here : level.surroundings.figure? = some 0
  · rw [caught, caught, if_pos here]
    exact if_pos here
  · rw [caught, caught, if_neg here]
    exact if_neg here

end Level

namespace Pass

variable {settings : Settings} {level last : Level} {before todo children : List Node}
  {log : List Head}

/-- Whether the element around a level has a figcaption matters only if that is a figure. -/
theorem recaptioned (pass : Pass .data settings level before todo log last children)
    (outside : level.outer ≠ some "figure") (regular : level.Regular) (captioned : Bool) :
    Pass .data settings (level.recaptioned captioned) before todo log (last.recaptioned captioned)
      children := by
  induction pass with
  | done level before => exact .done _ before
  | skip noElement _ ih => exact .skip noElement (ih outside regular)
  | @visit level last before todo children inner head tail change log media handled rest ih =>
    have rest' := ih (by simpa [Level.linked] using outside) (handled.regular regular)
    have visited :
        ((level.caught change.figcaption).linked change.parentLink).recaptioned captioned =
          ((level.recaptioned captioned).caught change.figcaption).linked change.parentLink := by
      rw [Level.caught_recaptioned]
      rfl
    rw [visited] at rest'
    rw [← level.site_recaptioned outside regular captioned] at handled
    exact .visit media handled rest'
  | enter other inside kept _ _ ih => exact .enter other inside kept (ih outside regular)
  | again other inside moved _ _ ih => exact .again other inside moved (ih outside regular)

/-- Passes over two lists of children of an element that is no figure, and in none, are one pass
over both. -/
theorem append (pass : Pass .data settings level before todo log last children)
    (isNoFigure : level.head.tag ≠ "figure") (noFigure : level.surroundings.figure? = none)
    (front : List Node) {behind : List Node} {log' : List Head} {last' : Level}
    {children' : List Node}
    (rest : Pass .data settings level (front ++ children) behind log' last' children') :
    Pass .data settings level (front ++ before) (todo ++ behind) (log ++ log') last' children' := by
  induction pass with
  | done => exact rest
  | @skip level last before todo children node log noElement _ ih =>
    have continued := ih isNoFigure noFigure rest
    rw [← List.append_assoc] at continued
    exact .skip noElement continued
  | @visit level last before todo children inner head tail change log media handled _ ih =>
    obtain ⟨unowned, unchanged⟩ := Level.visited_of_noFigure noFigure handled
    rw [unowned, unchanged] at ih
    have continued := ih isNoFigure noFigure rest
    rw [level.site_of_noFigure noFigure _
      (front ++ before ++ .element head inner tail :: (todo ++ behind))] at handled
    refine .visit media handled ?_
    rw [unowned, unchanged]
    simpa [captionFront, captionBack] using continued
  | @enter level last below before todo children inner inner' head tail log log' other inside kept _
      _ ih =>
    have continued := ih isNoFigure noFigure rest
    have uncaptioned : below.caption = none := inside.caption_of_noFigure isNoFigure
    have outside : (level.below head (before ++ todo)).outer ≠ some "figure" := by
      simpa [Level.below] using isNoFigure
    have inside' := inside.recaptioned outside (Level.below_regular head _ level)
      (hasFigcaption (front ++ before ++ (todo ++ behind)))
    rw [uncaptioned] at continued
    rw [List.append_assoc]
    refine .enter other inside' kept ?_
    show Pass .data settings level (front ++ before ++ [below.close inner' tail])
      (todo ++ behind ++ captionBack settings below.caption) (log' ++ _) _ _
    rw [uncaptioned]
    simpa [captionBack] using continued
  | @again level last below before todo children inner inner' head tail caption log log' other
      inside moved _ _ _ =>
    rw [inside.caption_of_noFigure isNoFigure, captionFront] at moved
    split at moved <;> cases moved

end Pass

/-! ## Whole documents -/

theorem Level.surroundings_root {head : Head} (noFigure : head.tag ≠ "figure") :
    (root head).surroundings.figure? = none := by
  show (Surroundings.ofTags [some head.tag, none]).figure? = none
  by_cases isLink : head.tag = "a"
  · rw [isLink]
    rfl
  · simp [Surroundings.ofTags, Surroundings.figure?, isLink, noFigure]

theorem Node.unravelIf_element (settings : Settings) (head : Head) (children : List Node)
    (tail : String) :
    (Node.element head children tail).unravelIf settings =
      .element head (if settings.unravelParagraphs then unravelAll children else children)
        tail := by
  unfold unravelIf
  split
  · rw [unravel]
  · rfl

/-- **Siblings are enriched independently.** Where a root that is no figure can be enriched with one
list of children and with another, it can be with both, and then has the children that the two have
become, one after the other. -/
theorem enrich_append (settings : Settings) {head : Head} (noFigure : head.tag ≠ "figure")
    (left right : List Node) (tail : String)
    (leftDone : ((Node.element head left tail).enrich settings).failure = none)
    (rightDone : ((Node.element head right tail).enrich settings).failure = none) :
    ((Node.element head (left ++ right) tail).enrich settings).failure = none ∧
      ((Node.element head (left ++ right) tail).enrich settings).tree =
        .element head (((Node.element head left tail).enrich settings).tree.children ++
          ((Node.element head right tail).enrich settings).tree.children) tail := by
  cases enabled : settings.enable with
  | false =>
    simp only [Node.enrich_of_disabled enabled]
    exact ⟨trivial, rfl⟩
  | true =>
    obtain ⟨leftLast, left', leftPass, leftTree⟩ := Node.enrich_pass enabled leftDone
    obtain ⟨rightLast, right', rightPass, rightTree⟩ := Node.enrich_pass enabled rightDone
    have plain := Level.surroundings_root noFigure
    have behind := rightPass.append noFigure plain left' (.done _ (left' ++ right'))
    rw [List.append_nil, List.append_nil] at behind
    have pass := leftPass.append noFigure plain [] behind
    obtain ⟨done, tree⟩ := Node.enrich_of_pass enabled pass
    refine ⟨done, ?_⟩
    rw [tree, leftTree, rightTree]
    simp only [Node.unravelIf_element, Node.children]
    cases settings.unravelParagraphs with
    | false => rfl
    | true => simp only [↓reduceIte, Node.unravelAll_append]

/-- A paragraph that is cut, with a comment in it. -/
def cutParagraph : Node :=
  .around "p" [.comment "note" "before", .picture "x.png" "^caption"]

/-- A figure that the image in it links. -/
def linkedFigure : Node :=
  .around "figure" [.picture "[y.png]" ""]

/-- The first child becomes two, and the second is wrapped from below. -/
theorem enrich_append_cutParagraph :
    (((Node.around "div" [cutParagraph]).enrich .default).failure = none ∧
      ((Node.around "div" [linkedFigure]).enrich .default).failure = none) ∧
      ((Node.around "div" [cutParagraph, linkedFigure]).enrich .default).tree.children.map
        Node.tag? = [some "p", some "figure", some "a"] ∧
      ((Node.around "div" [cutParagraph, linkedFigure]).enrich .default).tree =
        .around "div" (((Node.around "div" [cutParagraph]).enrich .default).tree.children ++
          ((Node.around "div" [linkedFigure]).enrich .default).tree.children) := by
  have leftDone : ((Node.around "div" [cutParagraph]).enrich .default).failure = none := by
    decide +kernel
  have rightDone : ((Node.around "div" [linkedFigure]).enrich .default).failure = none := by
    decide +kernel
  refine ⟨⟨leftDone, rightDone⟩, by decide +kernel, ?_⟩
  exact (enrich_append .default (by decide) [cutParagraph] [linkedFigure] "" leftDone rightDone).2

end MediaMarkup

import MediaMarkup.Enrich.Pass
import MediaMarkup.Proofs.Change

/-!
One level of an enriching pass: the walk over the children of an open element, said without indices
and without a budget. What happens on a level reaches one element further up at most: a link goes
around the open element, or a figcaption into the element around it. `Pass` is the relation between
the children before and after; a figcaption that an inner level puts in front of the walked children
makes the walk meet the same child again (`Pass.again`).
-/

namespace MediaMarkup

/-! ## The surroundings of children -/

namespace Surroundings

/-- Only the first two ancestors count. -/
theorem ofTags_cons (parent : Option String) (outer : List (Option String)) :
    ofTags (parent :: outer) = ofTags [parent, outer.head?.join] := by
  cases outer <;> rfl

theorem figure?_ofTags (outer : Option String) :
    (ofTags [some "figure", outer]).figure? = some 0 := by
  by_cases inLink : outer = some "a"
  · rw [inLink]
    rfl
  · simp [ofTags, figure?, inLink]

theorem ofTags_inFigure {tag : String} {outer : Option String}
    (h : (ofTags [some tag, outer]).figure? = some 0) : tag = "figure" := by
  simp only [ofTags, List.getElem?_cons_zero, List.getElem?_cons_succ, Option.join_some] at h
  split at h
  · split at h <;> simp [figure?] at h
  · split at h
    · simp_all
    · simp [figure?] at h

theorem ofTags_linkInFigure {tag : String} {outer : Option String}
    (h : (ofTags [some tag, outer]).figure? = some 1) : tag = "a" ∧ outer = some "figure" := by
  simp only [ofTags, List.getElem?_cons_zero, List.getElem?_cons_succ, Option.join_some] at h
  split at h
  · split at h
    · exact ⟨by simp_all, by simp_all⟩
    · simp [figure?] at h
  · split at h
    · split at h <;> simp [figure?] at h
    · simp [figure?] at h

theorem ofTags_figure {tag : String} {outer : Option String}
    (h : ofTags [some tag, outer] = .figure) : tag = "figure" ∧ outer ≠ some "a" := by
  simp only [ofTags, List.getElem?_cons_zero, List.getElem?_cons_succ, Option.join_some] at h
  split at h
  · split at h <;> simp at h
  · split at h
    · split at h
      · simp at h
      · exact ⟨by simp_all, by assumption⟩
    · simp at h

end Surroundings

/-! ## Levels -/

/-- An open element and what is known of its surroundings. -/
structure Level where
  head : Head
  /-- The tag of the element around it, when the walk came to the level. -/
  outer : Option String
  /-- Whether that element then had a figcaption. -/
  outerCaptioned : Bool
  /-- The link that was put around the open element since. -/
  link : Option Head
  /-- The figcaption that the element around it got since. -/
  caption : Option Node

namespace Level

/-- The level of a document's root. -/
def root (head : Head) : Level := ⟨head, none, false, none, none⟩

/-- The tag of the element around the open one. -/
def around (level : Level) : Option String :=
  match level.link with
  | some link => some link.tag
  | none => level.outer

def surroundings (level : Level) : Surroundings :=
  .ofTags [some level.head.tag, level.around]

/-- Whether the figure around the children has a caption. -/
def captioned (children : List Node) (level : Level) : Bool :=
  match level.surroundings.figure? with
  | some 0 => hasFigcaption children
  | some _ => level.outerCaptioned || level.caption.isSome
  | none => false

/-- The site of a child, without the texts behind it and behind the figure. -/
def site (children : List Node) (level : Level) : Site :=
  ⟨level.surroundings, level.captioned children, level.around.isSome, "", ""⟩

/-- The figcaption that the open element gets of those for the figure around its children. -/
def own (caption : Option Node) (level : Level) : Option Node :=
  if level.surroundings.figure? = some 0 then caption else none

/-- The level after the figure around its children got a figcaption. -/
def caught (caption : Option Node) (level : Level) : Level :=
  if level.surroundings.figure? = some 0 then level
  else { level with caption := caption.or level.caption }

/-- The level after a link was put around the open element. -/
def linked (link : Option Head) (level : Level) : Level :=
  { level with link := link.or level.link }

@[simp] theorem caught_head (caption : Option Node) (level : Level) :
    (level.caught caption).head = level.head := by
  unfold caught
  split <;> rfl

@[simp] theorem caught_link (caption : Option Node) (level : Level) :
    (level.caught caption).link = level.link := by
  unfold caught
  split <;> rfl

@[simp] theorem caught_outer (caption : Option Node) (level : Level) :
    (level.caught caption).outer = level.outer := by
  unfold caught
  split <;> rfl

@[simp] theorem caught_outerCaptioned (caption : Option Node) (level : Level) :
    (level.caught caption).outerCaptioned = level.outerCaptioned := by
  unfold caught
  split <;> rfl

theorem surroundings_caught (caption : Option Node) (level : Level) :
    (level.caught caption).surroundings = level.surroundings := by
  unfold caught
  split <;> rfl

/-- The level of a child among its siblings. -/
def below (head : Head) (siblings : List Node) (level : Level) : Level :=
  ⟨head, some level.head.tag, hasFigcaption siblings, none, none⟩

/-- The open element with its children, and the link around it. -/
def close (children : List Node) (tail : String) (level : Level) : Node :=
  match level.link with
  | some link => .element link [.element level.head children ""] tail
  | none => .element level.head children tail

end Level

/-- What was added around the open element: a link only around a figure, and a figcaption. -/
structure Level.Regular (level : Level) : Prop where
  link : ∀ link ∈ level.link, level.head.tag = "figure" ∧ ∃ href, link = anchor href
  caption : ∀ caption ∈ level.caption, ∃ text, caption = figcaption text

namespace Level

theorem root_regular (head : Head) : (root head).Regular :=
  ⟨by simp [root], by simp [root]⟩

theorem below_regular (head : Head) (siblings : List Node) (level : Level) :
    (level.below head siblings).Regular :=
  ⟨by simp [below], by simp [below]⟩

/-- A figure in a link is not linked again. -/
theorem link_eq_none_of_figure {level : Level} (regular : level.Regular)
    (figure : level.surroundings = .figure) : level.link = none := by
  rw [Option.eq_none_iff_forall_ne_some]
  intro link h
  obtain ⟨-, href, rfl⟩ := regular.link link h
  obtain ⟨-, unlinked⟩ := Surroundings.ofTags_figure figure
  simp [around, h, anchor, Head.new] at unlinked

theorem link_eq_none_of_linkInFigure {level : Level} (regular : level.Regular)
    (inLink : level.surroundings.figure? = some 1) : level.link = none := by
  rw [Option.eq_none_iff_forall_ne_some]
  intro link h
  obtain ⟨isFigure, -⟩ := regular.link link h
  obtain ⟨isLink, -⟩ := Surroundings.ofTags_linkInFigure inLink
  simp [isLink] at isFigure

end Level

/-! ## A pass over a level -/

/-- What a new figcaption puts in front of the children of its figure. -/
def captionFront (settings : Settings) (caption : Option Node) : List Node :=
  if settings.captionsAbove then caption.toList else []

/-- What a new figcaption puts behind the children of its figure. -/
def captionBack (settings : Settings) (caption : Option Node) : List Node :=
  if settings.captionsAbove then [] else caption.toList

theorem captionFront_moved {settings : Settings} {caption : Option Node} {node : Node}
    (moved : captionFront settings caption = [node]) :
    settings.captionsAbove = true ∧ caption = some node := by
  unfold captionFront at moved
  split at moved
  · rename_i above
    exact ⟨above, Option.toList_eq_singleton_iff.mp moved⟩
  · cases moved

theorem mem_captionFront {settings : Settings} {caption : Option Node} {node : Node}
    (h : node ∈ captionFront settings caption) : node ∈ caption := by
  unfold captionFront at h
  split at h
  · simpa using h
  · simp at h

theorem mem_captionBack {settings : Settings} {caption : Option Node} {node : Node}
    (h : node ∈ captionBack settings caption) : node ∈ caption := by
  unfold captionBack at h
  split at h
  · simp at h
  · simpa using h

theorem hasFigcaption_append (xs ys : List Node) :
    hasFigcaption (xs ++ ys) = (hasFigcaption xs || hasFigcaption ys) :=
  List.any_append

theorem hasFigcaption_addCaption {settings : Settings} {caption : Option Node}
    (h : ∀ node ∈ caption, ∃ text, node = figcaption text) (before after : List Node) :
    hasFigcaption ((captionFront settings caption ++ before) ++
      (after ++ captionBack settings caption)) =
        (hasFigcaption (before ++ after) || caption.isSome) := by
  simp only [hasFigcaption_append, captionFront, captionBack]
  cases caption with
  | none => cases settings.captionsAbove <;> simp [hasFigcaption]
  | some node =>
    obtain ⟨text, rfl⟩ := h node rfl
    have tagged : (figcaption text).hasTag "figcaption" = true := rfl
    cases settings.captionsAbove <;> simp [hasFigcaption, tagged]

/-- What an open element gets of a change is a figcaption. -/
theorem Level.own_figcaption {format : Format} {settings : Settings} {site : Site} {head : Head}
    {children : List Node} {change : Change} {level : Level}
    (handled : Change.Handled format settings site head children change) :
    ∀ node ∈ level.own change.figcaption, ∃ text, node = figcaption text := by
  intro node h
  unfold own at h
  split at h
  · exact (handled.figcaption_eq h).2.2
  · simp at h

namespace Change.Handled

variable {format : Format} {settings : Settings} {level : Level} {nodes children : List Node}
  {head : Head} {change : Change}

/-- The level after a child was handled is regular again. -/
theorem regular (handled : Handled format settings (level.site nodes) head children change)
    (start : level.Regular) :
    ((level.caught change.figcaption).linked change.parentLink).Regular := by
  constructor
  · intro link h
    simp only [Level.linked, Level.caught_link, Option.mem_def, Option.or_eq_some_iff] at h
    rw [Level.linked, Level.caught_head]
    rcases h with h | ⟨-, h⟩
    · obtain ⟨figure, -, isLink⟩ := handled.parentLink_eq h
      exact ⟨(Surroundings.ofTags_figure figure).1, isLink⟩
    · exact start.link link h
  · intro caption h
    simp only [Level.linked, Level.caught] at h
    split at h
    · exact start.caption caption h
    · simp only [Option.mem_def, Option.or_eq_some_iff] at h
      rcases h with h | ⟨-, h⟩
      · exact (handled.figcaption_eq h).2.2
      · exact start.caption caption h

/-- Linking a figure does not move the figure around its children. -/
theorem figure?_visited
    (handled : Handled format settings (level.site nodes) head children change) :
    ((level.caught change.figcaption).linked change.parentLink).surroundings.figure? =
      level.surroundings.figure? := by
  cases h : change.parentLink with
  | none => exact congrArg Surroundings.figure? (Level.surroundings_caught change.figcaption level)
  | some link =>
    obtain ⟨figure, -, href, rfl⟩ := handled.parentLink_eq h
    have isFigure := (Surroundings.ofTags_figure figure).1
    have around : ((level.caught change.figcaption).linked (some (anchor href))).around =
        some "a" := rfl
    have inFigure : level.surroundings.figure? = some 0 := congrArg Surroundings.figure? figure
    rw [Level.surroundings, around, Level.linked, Level.caught_head, isFigure, inFigure]
    rfl

/-- Only among the children of a link in a figure a figcaption is handed on. -/
theorem caption_visited (handled : Handled format settings (level.site nodes) head children change)
    (elsewhere : level.surroundings.figure? ≠ some 1) :
    ((level.caught change.figcaption).linked change.parentLink).caption = level.caption := by
  rw [Level.linked, Level.caught]
  split
  · rfl
  · have noFigure : level.surroundings.insideFigure = false := by
      revert elsewhere
      cases h : level.surroundings <;> simp_all [Surroundings.figure?, Surroundings.insideFigure]
    have noCaption : change.figcaption = Option.none := by
      rw [Option.eq_none_iff_forall_ne_some]
      intro caption asked
      have inFigure := (handled.figcaption_eq asked).1
      simp [Level.site, noFigure] at inFigure
    rw [noCaption]
    rfl

end Change.Handled

/-- `Pass format settings level before todo log last children`: the walk has the children `before`
of the open element behind it and `todo` before it; it calls its visitor for the heads in `log`, and
leaves `children` on the level `last`. -/
inductive Pass (format : Format) (settings : Settings) :
    Level → List Node → List Node → List Head → Level → List Node → Prop
  | done (level : Level) (before : List Node) : Pass format settings level before [] [] level before
  | skip {level last : Level} {before todo children : List Node} {node : Node} {log : List Head}
    (noElement : node.isElement = false)
    (rest : Pass format settings level (before ++ [node]) todo log last children) :
    Pass format settings level before (node :: todo) log last children
  | visit {level last : Level} {before todo children inner : List Node} {head : Head}
    {tail : String} {change : Change} {log : List Head}
    (media : head.tag ∈ Media.tags)
    (handled : Change.Handled format settings
      (level.site (before ++ .element head inner tail :: todo)) head inner change)
    (rest : Pass format settings ((level.caught change.figcaption).linked change.parentLink)
      (captionFront settings (level.own change.figcaption) ++ before ++
        [change.slot.withTail tail])
      (todo ++ captionBack settings (level.own change.figcaption)) log last children) :
    Pass format settings level before (.element head inner tail :: todo) (head :: log) last children
  | enter {level last below : Level} {before todo children inner inner' : List Node} {head : Head}
    {tail : String} {log log' : List Head}
    (other : head.tag ∉ Media.tags)
    (inside : Pass format settings (level.below head (before ++ todo)) [] inner log below inner')
    (kept : captionFront settings below.caption = [])
    (rest : Pass format settings level (before ++ [below.close inner' tail])
      (todo ++ captionBack settings below.caption) log' last children) :
    Pass format settings level before (.element head inner tail :: todo) (log ++ log') last children
  /-- A figcaption in front of the children moves the child that was walked, and the walk meets it
  once more. -/
  | again {level last below : Level} {before todo children inner inner' : List Node} {head : Head}
    {tail : String} {caption : Node} {log log' : List Head}
    (other : head.tag ∉ Media.tags)
    (inside : Pass format settings (level.below head (before ++ todo)) [] inner log below inner')
    (moved : captionFront settings below.caption = [caption])
    (rest : Pass format settings level (caption :: before) (below.close inner' tail :: todo) log'
      last children) :
    Pass format settings level before (.element head inner tail :: todo) (log ++ log') last children

namespace Pass

variable {format : Format} {settings : Settings} {level last : Level}
  {before todo children : List Node} {log : List Head}

/-- A pass stays on its level. -/
theorem level_eq (pass : Pass format settings level before todo log last children) :
    last.head = level.head ∧ last.outer = level.outer ∧
      last.outerCaptioned = level.outerCaptioned := by
  induction pass with
  | done => exact ⟨rfl, rfl, rfl⟩
  | skip _ _ ih => exact ih
  | visit _ _ _ ih => simpa [Level.linked] using ih
  | enter _ _ _ _ _ ih => exact ih
  | again _ _ _ _ _ ih => exact ih

/-- Only links and figcaptions are added around a level. -/
theorem regular (pass : Pass format settings level before todo log last children)
    (start : level.Regular) : last.Regular := by
  induction pass with
  | done => exact start
  | skip _ _ ih => exact ih start
  | visit _ handled _ ih => exact ih (handled.regular start)
  | enter _ _ _ _ _ ih => exact ih start
  | again _ _ _ _ _ ih => exact ih start

/-- Only a link in a figure hands a figcaption on. -/
theorem caption_eq (pass : Pass format settings level before todo log last children)
    (elsewhere : level.surroundings.figure? ≠ some 1) : last.caption = level.caption := by
  induction pass with
  | done => rfl
  | skip _ _ ih => exact ih elsewhere
  | @visit level last before todo children inner head tail change log media handled rest ih =>
    rw [handled.figure?_visited, handled.caption_visited elsewhere] at ih
    exact ih elsewhere
  | enter _ _ _ _ _ ih => exact ih elsewhere
  | again _ _ _ _ _ ih => exact ih elsewhere

section

variable {below : Level} {siblings inner inner' : List Node} {head : Head}

/-- What was added around an element that was walked is only a link and figcaptions. -/
theorem regular_below
    (inside : Pass format settings (level.below head siblings) [] inner log below inner') :
    below.Regular :=
  inside.regular (Level.below_regular head siblings level)

theorem head_below
    (inside : Pass format settings (level.below head siblings) [] inner log below inner') :
    below.head = head :=
  inside.level_eq.1

end

/-- Only a link in a figure is walked again, because of a figcaption in it. -/
theorem linkInFigure_of_moved {below : Level} {siblings inner inner' : List Node} {head : Head}
    {caption : Node}
    (inside : Pass format settings (level.below head siblings) [] inner log below inner')
    (moved : captionFront settings below.caption = [caption]) :
    head.tag = "a" ∧ level.head.tag = "figure" := by
  apply Decidable.byContradiction
  intro notBoth
  have elsewhere : (level.below head siblings).surroundings.figure? ≠ some 1 := by
    intro inFigure
    obtain ⟨isLink, isFigure⟩ := Surroundings.ofTags_linkInFigure inFigure
    exact notBoth ⟨isLink, Option.some.inj isFigure⟩
  have noCaption : below.caption = none := inside.caption_eq elsewhere
  rw [noCaption, captionFront] at moved
  split at moved <;> cases moved

/-- A root is never linked: there is nothing around it. -/
theorem link_of_root (pass : Pass format settings level before todo log last children)
    (alone : level.outer = none) (unlinked : level.link = none) : last.link = none := by
  induction pass with
  | done => exact unlinked
  | skip _ _ ih => exact ih alone unlinked
  | @visit level last before todo children inner head tail change log media handled rest ih =>
    have nothing : change.parentLink = none := by
      rw [Option.eq_none_iff_forall_ne_some]
      intro link h
      have linkable := (handled.parentLink_eq h).2.1
      simp [Level.site, Level.around, unlinked, alone] at linkable
    apply ih
    · simpa [Level.linked] using alone
    · simp [Level.linked, nothing, unlinked]
  | enter _ _ _ _ _ ih => exact ih alone unlinked
  | again _ _ _ _ _ ih => exact ih alone unlinked

end Pass

end MediaMarkup

import MediaMarkup.Proofs.Offered
import MediaMarkup.Proofs.Settled

/-!
The walk of an enriching pass without its second visits. A sweep goes over the children of an open
element once and keeps the figcaption that the element gets apart from them, so that it does not
matter on which side of them that is put. Where all media elements ask for everything at once, what
the walk meets a second time is settled, and the walk does what the sweep does (`Walk.run_sweep`).
-/

namespace MediaMarkup

/-! ## Sweeping -/

/-- A level that is swept, with the children behind the sweep and the figcaption that the open
element got. -/
structure Sweep where
  level : Level
  own : Option Node
  nodes : List Node

namespace Sweep

/-- The children of the open element, with the new figcaption among them. -/
def siblings (todo : List Node) (sweep : Sweep) : List Node :=
  sweep.own.toList ++ (sweep.nodes ++ todo)

/-- A node that is no element is left as it is. -/
def skip (node : Node) (sweep : Sweep) : Sweep :=
  { sweep with nodes := sweep.nodes ++ [node] }

/-- A media element was handled. -/
def visit (change : Change) (tail : String) (sweep : Sweep) : Sweep where
  level := (sweep.level.caught change.figcaption).linked change.parentLink
  own := (sweep.level.own change.figcaption).or sweep.own
  nodes := sweep.nodes ++ [change.slot.withTail tail]

/-- The level below an element is entered. -/
def enter (head : Head) (todo : List Node) (sweep : Sweep) : Sweep :=
  ⟨sweep.level.below head (sweep.siblings todo), none, []⟩

/-- The children of the open element, with the figcaption where the settings want it. -/
def children (settings : Settings) (todo : List Node) (sweep : Sweep) : List Node :=
  (captionFront settings sweep.own ++ sweep.nodes) ++ (todo ++ captionBack settings sweep.own)

/-- The level of an element is left. -/
def leave (settings : Settings) (tail : String) (inside sweep : Sweep) : Sweep where
  level := sweep.level
  own := inside.level.caption.or sweep.own
  nodes := sweep.nodes ++ [inside.level.close (inside.children settings []) tail]

end Sweep

namespace Node

mutual

/-- Sweeps a node that has others behind it. -/
def sweep (settings : Settings) (todo : List Node) (state : Sweep) :
    Node → Except EnrichError Sweep
  | .element head children tail =>
    if head.tag ∈ Media.tags then
      let site := state.level.site (state.siblings (.element head children tail :: todo))
      match Change.ofElement .data settings site head children with
      | .ok change => .ok (state.visit change tail)
      | .error failure => .error failure.cause
    else
      match sweepAll settings (state.enter head todo) children with
      | .ok inside => .ok (inside.leave settings tail state)
      | .error cause => .error cause
  | node => .ok (state.skip node)

def sweepAll (settings : Settings) (state : Sweep) : List Node → Except EnrichError Sweep
  | [] => .ok state
  | node :: rest =>
    match sweep settings rest state node with
    | .ok state => sweepAll settings state rest
    | .error cause => .error cause

end

end Node

/-- `Swept settings state todo last`: a sweep of the children `todo` does not fail and comes from
`state` to `last`. -/
inductive Swept (settings : Settings) : Sweep → List Node → Sweep → Prop
  | done (state : Sweep) : Swept settings state [] state
  | skip {state last : Sweep} {todo : List Node} {node : Node} (noElement : node.isElement = false)
    (rest : Swept settings (state.skip node) todo last) : Swept settings state (node :: todo) last
  | visit {state last : Sweep} {todo inner : List Node} {head : Head} {tail : String}
    {change : Change} (media : head.tag ∈ Media.tags)
    (handled : Change.Handled .data settings
      (state.level.site (state.siblings (.element head inner tail :: todo))) head inner change)
    (rest : Swept settings (state.visit change tail) todo last) :
    Swept settings state (.element head inner tail :: todo) last
  | enter {state last below : Sweep} {todo inner : List Node} {head : Head} {tail : String}
    (other : head.tag ∉ Media.tags) (inside : Swept settings (state.enter head todo) inner below)
    (rest : Swept settings (below.leave settings tail state) todo last) :
    Swept settings state (.element head inner tail :: todo) last

namespace Node

variable {settings : Settings} {state : Sweep} {todo : List Node}

theorem sweepAll_nil : sweepAll settings state [] = .ok state := by
  rw [sweepAll]

theorem sweepAll_of_noElement {node : Node} (noElement : node.isElement = false) :
    sweepAll settings state (node :: todo) = sweepAll settings (state.skip node) todo := by
  cases node with
  | element => simp [isElement, head?] at noElement
  | comment => simp only [sweepAll, sweep]
  | instruction => simp only [sweepAll, sweep]

theorem sweepAll_of_media {head : Head} {inner : List Node} {tail : String}
    (media : head.tag ∈ Media.tags) :
    sweepAll settings state (.element head inner tail :: todo) =
      match Change.ofElement .data settings
        (state.level.site (state.siblings (.element head inner tail :: todo))) head inner with
      | .ok change => sweepAll settings (state.visit change tail) todo
      | .error failure => .error failure.cause := by
  rw [sweepAll, sweep, if_pos media]
  dsimp only
  cases Change.ofElement .data settings
    (state.level.site (state.siblings (.element head inner tail :: todo))) head inner <;> rfl

theorem sweepAll_of_other {head : Head} {inner : List Node} {tail : String}
    (other : head.tag ∉ Media.tags) :
    sweepAll settings state (.element head inner tail :: todo) =
      match sweepAll settings (state.enter head todo) inner with
      | .ok inside => sweepAll settings (inside.leave settings tail state) todo
      | .error cause => .error cause := by
  rw [sweepAll, sweep, if_neg other]
  cases sweepAll settings (state.enter head todo) inner <;> rfl

theorem swept_of_sweepAll {last : Sweep} (ran : sweepAll settings state todo = .ok last) :
    Swept settings state todo last := by
  induction todo using Node.inductionOnAll generalizing state last with
  | nil =>
    rw [sweepAll_nil] at ran
    cases ran
    exact .done state
  | element head inner tail rest innerIh ih =>
    by_cases media : head.tag ∈ Media.tags
    · rw [sweepAll_of_media media] at ran
      split at ran
      · rename_i change done
        exact .visit media (Change.ofElement_handled done) (ih ran)
      · cases ran
    · rw [sweepAll_of_other media] at ran
      split at ran
      · rename_i inside entered
        exact .enter media (innerIh entered) (ih ran)
      · cases ran
  | comment text tail rest ih =>
    rw [sweepAll_of_noElement rfl] at ran
    exact .skip rfl (ih ran)
  | instruction text tail rest ih =>
    rw [sweepAll_of_noElement rfl] at ran
    exact .skip rfl (ih ran)

end Node

/-! ## What a sweep knows of its figcaption -/

/-- A new figcaption is the only one of its figure. -/
structure Sweep.Sound (todo : List Node) (state : Sweep) : Prop where
  regular : state.level.Regular
  own : ∀ caption ∈ state.own, ∃ text, caption = figcaption text
  alone : state.own.isSome = true →
    state.level.head.tag = "figure" ∧ hasFigcaption (state.nodes ++ todo) = false

namespace Level

/-- The figcaptions of the open element are all that the site of a child takes from its siblings. -/
theorem site_congr {level : Level} {xs ys : List Node}
    (same : hasFigcaption xs = hasFigcaption ys) : level.site xs = level.site ys := by
  simp only [site, captioned, same]

theorem below_congr {level : Level} {head : Head} {xs ys : List Node}
    (same : hasFigcaption xs = hasFigcaption ys) : level.below head xs = level.below head ys := by
  simp only [below, same]

end Level

namespace Sweep

variable {settings : Settings} {state below : Sweep} {todo inner : List Node} {head : Head}
  {tail : String} {change : Change}

theorem hasFigcaption_children :
    hasFigcaption (state.children settings todo) = hasFigcaption (state.siblings todo) := by
  unfold children siblings captionFront captionBack
  cases settings.captionsAbove
  · simp [hasFigcaption]
    ac_rfl
  · simp [hasFigcaption]

theorem Sound.enter (state : Sweep) (head : Head) (todo inner : List Node) :
    Sound inner (state.enter head todo) :=
  ⟨Level.below_regular .., by simp [Sweep.enter], by simp [Sweep.enter]⟩

/-- A figcaption that the open element gains from one of its children: it is a figure, and had none
before. -/
def Gains (todo : List Node) (state : Sweep) (new : Option Node) : Prop :=
  ∀ caption ∈ new, state.level.head.tag = "figure" ∧ hasFigcaption (state.siblings todo) = false ∧
    ∃ text, caption = figcaption text

/-- What a media element gives the open element is the first figcaption there. -/
theorem gains_of_visit
    (handled : Change.Handled .data settings (state.level.site (state.siblings todo)) head inner
      change) :
    state.Gains todo (state.level.own change.figcaption) :=
  handled.gains

/-- A figcaption is gained only by an element that got none before. -/
theorem Sound.exclusive {here : List Node} {new : Option Node} (sound : Sound here state)
    (gains : state.Gains todo new) : new = none ∨ state.own = none := by
  cases new with
  | none => exact .inl rfl
  | some caption =>
    refine .inr ?_
    rw [Option.eq_none_iff_forall_ne_some]
    intro old h
    obtain ⟨text, rfl⟩ := sound.own old h
    have tagged : (figcaption text).hasTag "figcaption" = true := rfl
    have uncaptioned := (gains caption rfl).2.1
    simp [siblings, h, hasFigcaption, tagged] at uncaptioned

theorem Sound.skip {node : Node} (sound : Sound (node :: todo) state) :
    Sound todo (state.skip node) where
  regular := sound.regular
  own := sound.own
  alone isSome := by simpa [Sweep.skip] using sound.alone isSome

/-- Behind a child that gave the open element its figcaption, that is the only one. -/
theorem Sound.gain {node slot : Node} {new : Option Node} {level : Level}
    (sound : Sound (node :: todo) state) (gains : state.Gains (node :: todo) new)
    (regular : level.Regular) (head_eq : level.head = state.level.head)
    (same : slot.hasTag "figcaption" = node.hasTag "figcaption") :
    Sound todo ⟨level, new.or state.own, state.nodes ++ [slot]⟩ := by
  have replaced := hasFigcaption_replace same state.nodes todo
  cases new with
  | none =>
    refine ⟨regular, sound.own, fun isSome => ?_⟩
    rw [head_eq, replaced]
    exact sound.alone isSome
  | some caption =>
    obtain ⟨isFigure, uncaptioned, isCaption⟩ := gains caption rfl
    rw [siblings, hasFigcaption_append, Bool.or_eq_false_iff] at uncaptioned
    refine ⟨regular, ?_, fun _ => ?_⟩
    · rintro _ ⟨⟩
      exact isCaption
    · rw [head_eq, replaced]
      exact ⟨isFigure, uncaptioned.2⟩

theorem Sound.visit (sound : Sound (.element head inner tail :: todo) state)
    (media : head.tag ∈ Media.tags)
    (handled : Change.Handled .data settings
      (state.level.site (state.siblings (.element head inner tail :: todo))) head inner change) :
    Sound todo (state.visit change tail) := by
  refine sound.gain (gains_of_visit handled) (handled.regular sound.regular) ?_ ?_
  · rw [Level.linked, Level.caught_head]
  · rw [handled.isFigcaption_slot media, Node.isFigcaption_media media]

end Sweep

namespace Swept

variable {settings : Settings} {state last below : Sweep} {todo inner : List Node} {head : Head}
  {tail : String}

/-- A sweep stays on its level. -/
theorem level_eq (swept : Swept settings state todo last) :
    last.level.head = state.level.head ∧
      last.level.surroundings.figure? = state.level.surroundings.figure? := by
  induction swept with
  | done => exact ⟨rfl, rfl⟩
  | skip _ _ ih => exact ih
  | visit _ handled _ ih =>
    obtain ⟨head_eq, figure?_eq⟩ := ih
    refine ⟨?_, figure?_eq.trans handled.figure?_visited⟩
    simpa [Sweep.visit, Level.linked] using head_eq
  | enter _ _ _ _ ih => exact ih

theorem regular (swept : Swept settings state todo last) (start : state.level.Regular) :
    last.level.Regular := by
  induction swept with
  | done => exact start
  | skip _ _ ih => exact ih start
  | visit _ handled _ ih => exact ih (handled.regular start)
  | enter _ _ _ _ ih => exact ih start

/-- Only a link in a figure without a figcaption hands one on. -/
theorem caption_eq (swept : Swept settings state todo last)
    (closed : state.level.surroundings.figure? = some 1 → state.level.outerCaptioned = true) :
    last.level.caption = state.level.caption := by
  induction swept with
  | done => rfl
  | skip _ _ ih => exact ih closed
  | @visit state last todo inner head tail change media handled rest ih =>
    have kept : ((state.level.caught change.figcaption).linked change.parentLink).caption =
        state.level.caption := by
      by_cases inFigure : state.level.surroundings.figure? = some 1
      · have uncaptioned : change.figcaption = none := by
          rw [Option.eq_none_iff_forall_ne_some]
          intro caption gained
          have free := (handled.figcaption_eq gained).2.1
          simp [Level.site, Level.captioned, inFigure, closed inFigure] at free
        rw [uncaptioned, Level.linked, Level.caught]
        split <;> rfl
      · exact handled.caption_visited inFigure
    refine (ih fun inFigure => ?_).trans kept
    rw [Sweep.visit, handled.figure?_visited] at inFigure
    simpa [Sweep.visit, Level.linked] using closed inFigure
  | enter _ _ _ _ ih => exact ih closed

/-- An element that hands a figcaption on is a link in a figure without one. -/
theorem linkInFigure_of_caption (inside : Swept settings (state.enter head todo) inner below)
    {caption : Node} (gained : below.level.caption = some caption) :
    head.tag = "a" ∧ state.level.head.tag = "figure" ∧
      hasFigcaption (state.siblings todo) = false := by
  have inFigure : (state.level.below head (state.siblings todo)).surroundings.figure? = some 1 ∧
      hasFigcaption (state.siblings todo) = false := by
    rw [← Bool.not_eq_true]
    by_contra closed
    rw [not_and_not_right] at closed
    have kept : below.level.caption = none := inside.caption_eq closed
    rw [kept] at gained
    cases gained
  obtain ⟨isLink, isFigure⟩ := Surroundings.ofTags_linkInFigure inFigure.1
  exact ⟨isLink, Option.some.inj isFigure, inFigure.2⟩

theorem regular_below (inside : Swept settings (state.enter head todo) inner below) :
    below.level.Regular :=
  inside.regular (Level.below_regular head (state.siblings todo) state.level)

theorem head_below (inside : Swept settings (state.enter head todo) inner below) :
    below.level.head = head :=
  inside.level_eq.1

theorem gains_of_leave (inside : Swept settings (state.enter head todo) inner below)
    (tail : String) : state.Gains (.element head inner tail :: todo) below.level.caption := by
  intro caption gained
  obtain ⟨isLink, isFigure, uncaptioned⟩ := inside.linkInFigure_of_caption gained
  refine ⟨isFigure, ?_, inside.regular_below.caption caption gained⟩
  rw [← uncaptioned]
  simp [Sweep.siblings, hasFigcaption, Node.hasTag, Node.tag?, Node.head?, isLink]

theorem sound_leave (sound : Sweep.Sound (.element head inner tail :: todo) state)
    (inside : Swept settings (state.enter head todo) inner below) :
    Sweep.Sound todo (below.leave settings tail state) := by
  refine sound.gain (inside.gains_of_leave tail) sound.regular rfl ?_
  rw [below.level.isFigcaption_close inside.regular_below, inside.head_below]
  simp [Node.hasTag, Node.tag?, Node.head?]

/-- Behind a sweep, a new figcaption is the only one. -/
theorem sound (swept : Swept settings state todo last) (start : Sweep.Sound todo state) :
    Sweep.Sound [] last := by
  induction swept with
  | done => exact start
  | skip _ _ ih => exact ih start.skip
  | visit media handled _ ih => exact ih (start.visit media handled)
  | enter _ inside _ _ ih => exact ih (inside.sound_leave start)

end Swept

/-! ## Sizes -/

namespace Node

theorem sizes_append (xs ys : List Node) : sizes (xs ++ ys) = sizes xs + sizes ys := by
  induction xs with
  | nil => simp [sizes]
  | cons node xs ih => simp [sizes, ih, Nat.add_assoc]

theorem size_withTail (tail : String) (node : Node) : (node.withTail tail).size = node.size := by
  cases node <;> simp [withTail, size]

theorem size_figcaption (text : String) : (figcaption text).size = 1 := by
  simp [figcaption, size, sizes]

end Node

theorem sizes_caption (settings : Settings) {caption : Option Node}
    (isCaption : ∀ node ∈ caption, ∃ text, node = figcaption text) :
    Node.sizes (captionFront settings caption) + Node.sizes (captionBack settings caption) ≤ 1 := by
  cases caption with
  | none => simp [captionFront, captionBack, Node.sizes]
  | some node =>
    obtain ⟨text, rfl⟩ := isCaption node rfl
    unfold captionFront captionBack
    cases settings.captionsAbove <;> simp [Node.sizes, Node.size_figcaption]

theorem Frame.size_attach (frame : Frame) (node : Node) :
    (frame.attach node).size = 1 + (Node.sizes (frame.before ++ frame.after) + node.size) := by
  simp only [attach, Node.size, Node.sizes_append, Node.sizes]
  omega

theorem Node.size_within {shells : List Frame}
    (small : ∀ frame ∈ shells, sizes (frame.before ++ frame.after) ≤ 1) (node : Node) :
    (node.within shells).size ≤ node.size + 2 * shells.length := by
  induction shells generalizing node with
  | nil => exact Nat.le_refl _
  | cons frame shells ih =>
    have inner := ih (fun frame h => small frame (List.mem_cons_of_mem _ h)) (frame.attach node)
    have first := small frame List.mem_cons_self
    rw [Frame.size_attach] at inner
    rw [within, List.foldl_cons, List.length_cons]
    rw [within] at inner
    omega

theorem Plan.length_shells (settings : Settings) (plan : Plan) (surroundings : Surroundings)
    (linkable : Bool) : (plan.shells settings surroundings linkable).length ≤ 3 := by
  have one (link : Option Head) : link.toList.length ≤ 1 := by cases link <;> simp
  have media := one (plan.mediaLink surroundings linkable)
  have figure := one plan.figureLink
  rw [shells, List.length_append, List.length_map]
  split
  · rw [List.length_cons, List.length_map]
    omega
  · rw [List.length_nil]
    omega

namespace Change.Handled

variable {settings : Settings} {site : Site} {head : Head} {children : List Node} {change : Change}

theorem length_shells (handled : Handled .data settings site head children change) :
    change.shells.length ≤ 3 := by
  cases handled with
  | untouched => simp [none]
  | changed => exact Plan.length_shells ..

theorem size_slot (handled : Handled .data settings site head children change) :
    change.slot.size ≤ Node.sizes children + 8 := by
  have small : ∀ frame ∈ change.shells, Node.sizes (frame.before ++ frame.after) ≤ 1 := by
    intro frame mem
    rcases handled.mem_shells mem with ⟨href, rfl⟩ | ⟨caption, rfl⟩
    · simp [shell, Node.sizes]
    · unfold figureShell
      cases settings.captionsAbove <;> cases caption <;> simp [Node.sizes, Node.size_figcaption]
  have media : change.media.size ≤ Node.sizes children + 2 := by
    obtain ⟨head', children', media_eq, -, children_eq⟩ := handled.media_children
    rw [media_eq, Node.size]
    split at children_eq
    · obtain ⟨-, source, mime, rfl⟩ := children_eq
      simp [sourceElement, Node.sizes, Node.size]
    · rw [children_eq.2]
      omega
  have slot := Node.size_within small change.media
  have length := handled.length_shells
  rw [Change.slot]
  omega

end Change.Handled

theorem Level.size_close (level : Level) (children : List Node) (tail : String) :
    (level.close children tail).size ≤ Node.sizes children + 2 := by
  unfold close
  cases level.link with
  | none =>
    dsimp only
    rw [Node.size]
    omega
  | some link =>
    simp only [Node.size, Node.sizes]
    omega

namespace Sweep

theorem sizes_children (settings : Settings) {state : Sweep} (sound : Sound [] state) :
    Node.sizes (state.children settings []) ≤ Node.sizes state.nodes + 1 := by
  have caption := sizes_caption settings sound.own
  simp only [children, Node.sizes_append, Node.sizes]
  omega

end Sweep

/-- A sweep makes a document a few times larger at most. -/
theorem Swept.sizes_le {settings : Settings} {state last : Sweep} {todo : List Node}
    (swept : Swept settings state todo last) :
    Node.sizes last.nodes ≤ Node.sizes state.nodes + 8 * Node.sizes todo := by
  induction swept with
  | done => omega
  | @skip state last todo node noElement rest ih =>
    simp only [Sweep.skip, Node.sizes_append, Node.sizes] at ih ⊢
    omega
  | visit media handled rest ih =>
    have slot := handled.size_slot
    simp only [Sweep.visit, Node.sizes_append, Node.sizes, Node.size_withTail] at ih
    simp only [Node.sizes, Node.size]
    omega
  | @enter state last below todo inner head tail other inside rest innerIh ih =>
    have sound := inside.sound (Sweep.Sound.enter state head todo inner)
    have children := Sweep.sizes_children settings sound
    have closed := below.level.size_close (below.children settings []) tail
    simp only [Sweep.enter, Node.sizes] at innerIh
    simp only [Sweep.leave, Node.sizes_append, Node.sizes] at ih
    simp only [Node.sizes, Node.size]
    omega

/-- The children of an element that was swept, with its figcaption. -/
theorem Swept.sizes_below {settings : Settings} {state below : Sweep} {todo inner : List Node}
    {head : Head} (inside : Swept settings (state.enter head todo) inner below) :
    Node.sizes (below.children settings []) ≤ 8 * Node.sizes inner + 1 := by
  have caption := Sweep.sizes_children settings (inside.sound (.enter state head todo inner))
  have nodes := inside.sizes_le
  simp only [Sweep.enter, Node.sizes] at nodes
  omega

/-! ## Walking -/

namespace Sweep

/-- Where the walk is among the children of the open element. -/
def index (settings : Settings) (state : Sweep) : Nat :=
  (captionFront settings state.own ++ state.nodes).length

theorem children_enter (settings : Settings) (head : Head) (todo inner : List Node)
    (state : Sweep) : (state.enter head todo).children settings inner = inner := by
  simp [children, enter, captionFront, captionBack]

theorem index_enter (settings : Settings) (head : Head) (todo : List Node) (state : Sweep) :
    (state.enter head todo).index settings = 0 := by
  simp [index, enter, captionFront]

/-- A walk ends as a sweep does: on the level that the sweep leaves, or with its error. -/
def Ends (settings : Settings) (tail : String) (outer : List Frame) :
    Except EnrichError Sweep → Except (Stop EnrichError × Walk.Enriching) Walk.Enriching → Prop
  | .ok last, .ok walk => walk.Stands settings last.level (last.children settings []) tail outer
  | .error cause, .error (stop, _) => stop = .failed cause
  | _, _ => False

namespace Ends

variable {settings : Settings} {tail : String} {outer : List Frame}
  {swept : Except EnrichError Sweep}

theorem of_error {stop : Stop EnrichError} {left : Walk.Enriching}
    (ends : Ends settings tail outer swept (.error (stop, left))) :
    ∃ cause, swept = .error cause ∧ stop = .failed cause := by
  cases swept with
  | error cause => exact ⟨cause, rfl, ends⟩
  | ok last => cases ends

theorem of_ok {walk : Walk.Enriching} (ends : Ends settings tail outer swept (.ok walk)) :
    ∃ last, swept = .ok last ∧
      walk.Stands settings last.level (last.children settings []) tail outer := by
  cases swept with
  | error cause => cases ends
  | ok last => exact ⟨last, rfl, ends⟩

end Ends

variable {settings : Settings} {new : Option Node} {level : Level} {state : Sweep}
  {todo : List Node}

/-- A figcaption that is gained comes to the children as to the walk. -/
theorem children_gain (exclusive : new = none ∨ state.own = none) (slot : Node) :
    captionFront settings new ++ (captionFront settings state.own ++ state.nodes) ++
        slot :: ((todo ++ captionBack settings state.own) ++ captionBack settings new) =
      Sweep.children settings todo ⟨level, new.or state.own, state.nodes ++ [slot]⟩ := by
  rcases exclusive with rfl | none
  · simp [children, captionFront, captionBack]
  · simp [children, none, captionFront, captionBack]

theorem index_gain (exclusive : new = none ∨ state.own = none) (slot : Node) :
    (captionFront settings new ++ (captionFront settings state.own ++ state.nodes)).length + 1 =
      Sweep.index settings ⟨level, new.or state.own, state.nodes ++ [slot]⟩ := by
  rcases exclusive with rfl | none
  · simp [index, captionFront, Nat.add_assoc]
  · simp [index, none, captionFront, Nat.add_assoc]

end Sweep

namespace Walk

variable {settings : Settings} {tail : String} {outer : List Frame}

/-- Where a sweep is at the end of its level, the walk has no more than the figcaption before it. -/
theorem run_sweep_nil {state : Sweep} {walk : Enriching} {budget : Nat}
    (sound : state.Sound [])
    (stands : walk.Stands settings state.level (state.children settings []) tail outer)
    (enough : 4 ≤ budget) :
    Sweep.Ends settings tail outer (.ok state)
      (run (Enrich.visitor .data settings) Media.tags budget (state.index settings) walk) := by
  have left : walk.place.children.drop (state.index settings) = captionBack settings state.own := by
    rw [stands.children_eq, Sweep.children, Sweep.index, List.drop_left, List.nil_append]
  have small := sizes_caption settings sound.own
  obtain ⟨last, ran, place_eq, ancestors_eq⟩ := run_settled settings budget
    (state.index settings) walk (by rw [left, mediaAll_captionBack sound.own]; simp)
    (by rw [left]; omega)
  rw [ran]
  exact stands.of_place place_eq ancestors_eq

section

variable {state : Sweep} {todo inner : List Node} {head : Head} {nodeTail : String}
  {walk : Enriching} {budget : Nat}

theorem getElem?_index {node : Node}
    (stands : walk.Stands settings state.level (state.children settings (node :: todo)) tail
      outer) : walk.place.children[state.index settings]? = some node := by
  rw [stands.children_eq, Sweep.children, Sweep.index]
  simp

theorem run_of_noElement {index : Nat} {node : Node}
    (here : walk.place.children[index]? = some node) (noElement : node.isElement = false) :
    run (Enrich.visitor .data settings) Media.tags (budget + 1) index walk =
      run (Enrich.visitor .data settings) Media.tags budget (index + 1) walk := by
  rw [run, here]
  cases node with
  | element => simp [Node.isElement, Node.head?] at noElement
  | comment => rfl
  | instruction => rfl

/-- The walk goes on behind a node that is no element, as the sweep does. -/
theorem Stands.skip {node : Node}
    (stands : walk.Stands settings state.level (state.children settings (node :: todo)) tail
      outer) :
    walk.Stands settings (state.skip node).level ((state.skip node).children settings todo) tail
        outer ∧ (state.skip node).index settings = state.index settings + 1 := by
  refine ⟨?_, by simp [Sweep.index, Sweep.skip, Nat.add_assoc]⟩
  simpa [Sweep.children, Sweep.skip] using stands

theorem run_sweep_skip {node : Node} (noElement : node.isElement = false)
    (stands : walk.Stands settings state.level (state.children settings (node :: todo)) tail
      outer)
    (rest : Sweep.Ends settings tail outer (Node.sweepAll settings (state.skip node) todo)
      (run (Enrich.visitor .data settings) Media.tags budget ((state.skip node).index settings)
        walk)) :
    Sweep.Ends settings tail outer (Node.sweepAll settings state (node :: todo))
      (run (Enrich.visitor .data settings) Media.tags (budget + 1) (state.index settings)
        walk) := by
  rw [Node.sweepAll_of_noElement noElement, run_of_noElement (getElem?_index stands) noElement,
    ← stands.skip.2]
  exact rest

/-- Handling a media element leads the walk to where the sweep is then, or fails with its error. -/
theorem visitor_sweep
    (sound : state.Sound (.element head inner nodeTail :: todo))
    (stands : walk.Stands settings state.level
      (state.children settings (.element head inner nodeTail :: todo)) tail outer) :
    match Change.ofElement .data settings
      (state.level.site (state.siblings (.element head inner nodeTail :: todo))) head inner with
    | .ok change => ∃ found next,
        Enrich.visitor .data settings walk (state.index settings) = .ok (some found, next) ∧
          found + 1 = (state.visit change nodeTail).index settings ∧
          next.Stands settings (state.visit change nodeTail).level
            ((state.visit change nodeTail).children settings todo) tail outer
    | .error failure => ∃ left,
        Enrich.visitor .data settings walk (state.index settings) =
          .error (failure.cause, left) := by
  have site_eq : state.level.site (state.siblings (.element head inner nodeTail :: todo)) =
      state.level.site (state.children settings (.element head inner nodeTail :: todo)) :=
    Level.site_congr Sweep.hasFigcaption_children.symm
  have children_eq : state.children settings (.element head inner nodeTail :: todo) =
      (captionFront settings state.own ++ state.nodes) ++ .element head inner nodeTail ::
        (todo ++ captionBack settings state.own) := rfl
  split
  · rename_i change done
    have gains := Sweep.gains_of_visit (Change.ofElement_handled done)
    have exclusive := sound.exclusive gains
    rw [site_eq] at done
    rw [children_eq] at stands done
    obtain ⟨next, called, stands'⟩ := stands.visitor_of_ok (stands.ofElement_eq.trans done)
    refine ⟨_, next, called, Sweep.index_gain exclusive _, ?_⟩
    rw [Sweep.children_gain exclusive] at stands'
    exact stands'
  · rename_i failure done
    rw [site_eq] at done
    rw [children_eq] at stands done
    exact stands.visitor_of_error (stands.ofElement_eq.trans done)

/-- Entering an element leads the walk to where the sweep of its children starts. -/
theorem Stands.enter_sweep
    (stands : walk.Stands settings state.level
      (state.children settings (.element head inner nodeTail :: todo)) tail outer) :
    (walk.enter (state.index settings) head inner nodeTail).Stands settings
      (state.enter head todo).level inner nodeTail
      (frameAt (captionFront settings state.own ++ state.nodes)
        (todo ++ captionBack settings state.own) walk.place :: walk.place.outer) := by
  have level_eq : (state.enter head todo).level =
      state.level.below head (state.children settings todo) :=
    Level.below_congr Sweep.hasFigcaption_children.symm
  have children_eq : state.children settings (.element head inner nodeTail :: todo) =
      (captionFront settings state.own ++ state.nodes) ++ .element head inner nodeTail ::
        (todo ++ captionBack settings state.own) := rfl
  rw [children_eq] at stands
  rw [level_eq]
  exact stands.enter

/-- Leaving an element leads the walk to where the sweep is then. If the element was moved by its
figcaption, it is walked once more before, and stays as it is. -/
theorem run_leave {below : Sweep} {innerWalk : Enriching}
    (sound : state.Sound (.element head inner nodeTail :: todo))
    (other : head.tag ∉ Media.tags)
    (inside : Swept settings (state.enter head todo) inner below)
    (stands : walk.Stands settings state.level
      (state.children settings (.element head inner nodeTail :: todo)) tail outer)
    (innerStands : innerWalk.Stands settings below.level (below.children settings []) nodeTail
      (frameAt (captionFront settings state.own ++ state.nodes)
        (todo ++ captionBack settings state.own) walk.place :: walk.place.outer))
    (settled : ∀ media ∈ Node.mediaAll (below.children settings []), media.1.Settled)
    (enough : Node.sizes (below.children settings []) < budget) :
    ∃ next budget', run (Enrich.visitor .data settings) Media.tags (budget + 1)
          (state.index settings + 1) (walk.resume innerWalk) =
        run (Enrich.visitor .data settings) Media.tags budget'
          ((below.leave settings nodeTail state).index settings) next ∧
      budget ≤ budget' ∧
      next.Stands settings (below.leave settings nodeTail state).level
        ((below.leave settings nodeTail state).children settings todo) tail outer := by
  have children_eq : state.children settings (.element head inner nodeTail :: todo) =
      (captionFront settings state.own ++ state.nodes) ++ .element head inner nodeTail ::
        (todo ++ captionBack settings state.own) := rfl
  rw [children_eq] at stands
  have exclusive := sound.exclusive (inside.gains_of_leave nodeTail)
  have resumed := stands.resume innerStands
  have index_eq : _ = (below.leave settings nodeTail state).index settings :=
    Sweep.index_gain exclusive (below.level.close (below.children settings []) nodeTail)
  have moved_eq := resumed.children_eq
  rw [Sweep.children_gain exclusive] at resumed
  rcases captionFront_cases settings below.level.caption with kept | ⟨caption, moved, -⟩
  · rw [kept] at index_eq
    refine ⟨walk.resume innerWalk, budget + 1, ?_, by omega, resumed⟩
    rw [← index_eq]
    rfl
  · obtain ⟨isLink, -⟩ := inside.linkInFigure_of_caption (captionFront_moved moved).2
    have unlinked : below.level.link = none := by
      rw [Option.eq_none_iff_forall_ne_some]
      intro link h
      have isFigure := (inside.regular_below.link link h).1
      rw [inside.head_below, isLink] at isFigure
      simp at isFigure
    have closed : below.level.close (below.children settings []) nodeTail =
        .element head (below.children settings []) nodeTail := by
      simp [Level.close, unlinked, inside.head_below]
    have here : (walk.resume innerWalk).place.children[state.index settings + 1]? =
        some (.element head (below.children settings []) nodeTail) := by
      rw [moved_eq, moved, closed, Sweep.index]
      generalize captionFront settings state.own ++ state.nodes = before
      simp
    obtain ⟨next, ran, place_eq, ancestors_eq⟩ :=
      run_step_settled settings here other settled enough
    refine ⟨next, budget, ?_, Nat.le_refl _, resumed.of_place place_eq ancestors_eq⟩
    rw [ran, ← index_eq, moved, Sweep.index]
    simp [Nat.add_comm]

end

/-- **The walk sweeps.** Where all media elements ask for everything at once, the walk does what the
sweep does: what it meets a second time is settled then, and nothing comes of it. -/
theorem run_sweep (todo : List Node) (state : Sweep) (walk : Enriching) (budget : Nat)
    (tame : ∀ media ∈ Node.mediaAll todo, ∀ source, media.1.source? = some source →
      media.1.Tame source)
    (sound : state.Sound todo)
    (stands : walk.Stands settings state.level (state.children settings todo) tail outer)
    (enough : 8 * Node.sizes todo + 4 ≤ budget) :
    Sweep.Ends settings tail outer (Node.sweepAll settings state todo)
      (run (Enrich.visitor .data settings) Media.tags budget (state.index settings) walk) := by
  induction todo using Node.inductionOnAll generalizing state walk budget tail outer with
  | nil =>
    rw [Node.sweepAll_nil]
    exact run_sweep_nil sound stands (by omega)
  | comment text nodeTail rest ih =>
    rw [Node.mediaAll_cons, Node.media_of_noElement rfl, List.nil_append] at tame
    simp only [Node.sizes, Node.size] at enough
    obtain ⟨budget, rfl⟩ : ∃ less, budget = less + 1 := ⟨budget - 1, by omega⟩
    exact run_sweep_skip rfl stands (ih _ walk budget tame sound.skip stands.skip.1 (by omega))
  | instruction text nodeTail rest ih =>
    rw [Node.mediaAll_cons, Node.media_of_noElement rfl, List.nil_append] at tame
    simp only [Node.sizes, Node.size] at enough
    obtain ⟨budget, rfl⟩ : ∃ less, budget = less + 1 := ⟨budget - 1, by omega⟩
    exact run_sweep_skip rfl stands (ih _ walk budget tame sound.skip stands.skip.1 (by omega))
  | element head inner nodeTail rest innerIh ih =>
    rw [Node.sizes, Node.size] at enough
    obtain ⟨budget, rfl⟩ : ∃ less, budget = less + 1 := ⟨budget - 1, by omega⟩
    have here := getElem?_index stands
    rw [Node.mediaAll_cons] at tame
    have later : ∀ media ∈ Node.mediaAll rest, ∀ source, media.1.source? = some source →
        media.1.Tame source := fun media mem => tame media (List.mem_append_right _ mem)
    rw [run, here]
    dsimp only
    by_cases media : head.tag ∈ Media.tags
    · have called := visitor_sweep sound stands
      rw [Node.sweepAll_of_media media, if_pos media]
      split
      · rename_i change done
        simp only [done] at called
        obtain ⟨found, next, called, found_eq, stands'⟩ := called
        rw [called]
        dsimp only
        rw [Option.getD_some, found_eq]
        exact ih (state.visit change nodeTail) next budget later
          (sound.visit media (Change.ofElement_handled done)) stands' (by omega)
      · rename_i failure done
        simp only [done] at called
        obtain ⟨left, called⟩ := called
        rw [called]
        exact rfl
    · rw [Node.media_of_other media] at tame
      have within : ∀ media ∈ Node.mediaAll inner, ∀ source, media.1.source? = some source →
          media.1.Tame source := fun media mem => tame media (List.mem_append_left _ mem)
      have start := stands.enter_sweep
      have entered := innerIh (state.enter head rest)
        (walk.enter (state.index settings) head inner nodeTail) budget within (.enter ..)
        (by rwa [Sweep.children_enter]) (by omega)
      rw [Sweep.index_enter] at entered
      rw [Node.sweepAll_of_other media, if_neg media]
      rcases ran : run (Enrich.visitor .data settings) Media.tags budget 0
          (walk.enter (state.index settings) head inner nodeTail) with ⟨stop, left⟩ | innerWalk
      · rw [ran] at entered
        obtain ⟨cause, swept, failed⟩ := entered.of_error
        rw [swept]
        exact failed
      · rw [ran] at entered
        obtain ⟨below, swept, innerStands⟩ := entered.of_ok
        have inside := Node.swept_of_sweepAll swept
        have small := inside.sizes_below
        obtain ⟨log, level', children', pass, passed⟩ := run_pass_untraced ran start
        have settled : ∀ media ∈ Node.mediaAll (below.children settings []), media.1.Settled := by
          rw [← innerStands.children_eq, passed.children_eq]
          exact pass.settled within
        obtain ⟨budget, rfl⟩ : ∃ less, budget = less + 1 := ⟨budget - 1, by omega⟩
        have enough' : Node.sizes (below.children settings []) < budget := by omega
        obtain ⟨next, budget', ran', less, stands'⟩ :=
          run_leave sound media inside stands innerStands settled enough'
        rw [swept]
        dsimp only
        rw [ran']
        exact ih (below.leave settings nodeTail state) next budget' later
          (inside.sound_leave sound) stands' (by omega)

end Walk

/-- The sweep of a document, before its first step. -/
def Sweep.start (head : Head) : Sweep :=
  ⟨.root head, none, []⟩

theorem Sweep.start_sound (head : Head) (children : List Node) : Sound children (start head) :=
  ⟨Level.root_regular head, by simp [start], by simp [start]⟩

theorem Enrich.le_budget (head : Head) (children : List Node) (tail : String) :
    8 * Node.sizes children + 4 ≤ budget (.element head children tail) := by
  rw [budget, Node.size]
  calc 8 * Node.sizes children + 4 ≤ 64 * (1 + Node.sizes children + 1) * 1 := by omega
    _ ≤ 64 * (1 + Node.sizes children + 1) * (1 + Node.sizes children + 1) :=
      Nat.mul_le_mul_left _ (by omega)

/-- A document whose media elements ask for everything at once is enriched by one sweep. -/
theorem Node.enrich_sweep {settings : Settings} {head : Head} {children : List Node} {tail : String}
    (enabled : settings.enable = true)
    (tame : ∀ media ∈ mediaAll children, ∀ source, media.1.source? = some source →
      media.1.Tame source) :
    match sweepAll settings (.start head) children with
    | .ok last => ((element head children tail).enrich settings).failure = none ∧
        ((element head children tail).enrich settings).tree =
          (element head (last.children settings []) tail).unravelIf settings
    | .error cause => ((element head children tail).enrich settings).failure =
        some (.failed cause) := by
  have stands : (startAt head children tail ([] : List Event)).Stands settings (.root head) children
      tail [] := startAt_stands []
  have placed : (Sweep.start head).children settings children = children := by
    simp [Sweep.children, Sweep.start, captionFront, captionBack]
  have first : (Sweep.start head).index settings = 0 := by
    simp [Sweep.index, Sweep.start, captionFront]
  have ends := Walk.run_sweep children (.start head) (startAt head children tail []) _ tame
    (Sweep.start_sound head children) (by rwa [placed]) (Enrich.le_budget head children tail)
  rw [first] at ends
  rcases ran : Walk.run (Enrich.visitor .data settings) Media.tags
      (Enrich.budget (.element head children tail)) 0 (startAt head children tail []) with
    ⟨stop, left⟩ | walk
  · rw [ran] at ends
    obtain ⟨cause, swept, failed⟩ := ends.of_error
    rw [enrich_of_stop enabled ran, swept]
    exact congrArg some failed
  · rw [ran] at ends
    obtain ⟨last, swept, stands'⟩ := ends.of_ok
    obtain ⟨log, level, children', pass, passed⟩ := Walk.run_pass_untraced ran stands
    have place := passed.place_eq
    have unlinked : level.link = none := pass.link_of_root rfl rfl
    rw [← passed.children_eq, stands'.children_eq] at place
    simp only [Level.placeIn, unlinked, addCaption, pass.level_eq.1] at place
    rw [enrich_of_run enabled ran, swept]
    refine ⟨rfl, ?_⟩
    simp [place, Level.root, Place.root, Place.node, Node.within]

end MediaMarkup

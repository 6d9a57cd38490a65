import MediaMarkup.Proofs.Calls

/-!
The figures of a document, in document order, and what a pass makes of them. Each figure that was
there stays, and between them new ones may come (`Grown`). How the figcaptions of a figure change is
said by `Recaptioned`; a walk that comes back to a figure changes it once more, and
`Refigured.trans` puts both changes into one (`Pass.grown`).
-/

namespace MediaMarkup

/-! ## Figures in document order -/

namespace Node

/-- The head and the children of an element, if it is a figure. -/
def ownFigure (head : Head) (children : List Node) : List (Head × List Node) :=
  if head.tag = "figure" then [(head, children)] else []

mutual

/-- The figures of a node, with or without those in media elements. -/
def figures (inMedia : Bool) : Node → List (Head × List Node)
  | .element head children _ =>
    if head.tag ∈ Media.tags ∧ inMedia = false then []
    else ownFigure head children ++ figuresAll inMedia children
  | _ => []

def figuresAll (inMedia : Bool) : List Node → List (Head × List Node)
  | [] => []
  | node :: rest => figures inMedia node ++ figuresAll inMedia rest

end

/-- The figures of a document that its media elements can stand in; the walk enters the root
whatever it is. -/
def walkedFigures : Node → List (Head × List Node)
  | .element head children _ => ownFigure head children ++ figuresAll false children
  | _ => []

variable {inMedia : Bool} {head : Head} {children : List Node} {tail : String}

@[simp] theorem figuresAll_nil : figuresAll inMedia [] = [] := by
  rw [figuresAll]

@[simp] theorem figuresAll_cons (node : Node) (rest : List Node) :
    figuresAll inMedia (node :: rest) = node.figures inMedia ++ figuresAll inMedia rest := by
  rw [figuresAll]

@[simp] theorem figuresAll_append (xs ys : List Node) :
    figuresAll inMedia (xs ++ ys) = figuresAll inMedia xs ++ figuresAll inMedia ys := by
  induction xs with
  | nil => simp
  | cons node xs ih => simp [ih]

theorem figures_of_media (media : head.tag ∈ Media.tags) :
    (Node.element head children tail).figures false = [] := by
  rw [figures, if_pos ⟨media, rfl⟩]

theorem figures_of_other (other : head.tag ∉ Media.tags) :
    (Node.element head children tail).figures inMedia =
      ownFigure head children ++ figuresAll inMedia children := by
  rw [figures, if_neg fun both => other both.1]

theorem figures_of_noElement {node : Node} (h : node.isElement = false) :
    node.figures inMedia = [] := by
  cases node with
  | element => simp [isElement, head?] at h
  | comment => rw [figures]; simp
  | instruction => rw [figures]; simp

@[simp] theorem figures_withTail (tail : String) (node : Node) :
    (node.withTail tail).figures inMedia = node.figures inMedia := by
  cases node with
  | element => simp only [withTail, figures]
  | comment => rfl
  | instruction => rfl

theorem figures_figcaption (text : String) : (figcaption text).figures inMedia = [] := by
  rw [figcaption, figures_of_other (show "figcaption" ∉ Media.tags by decide), figuresAll_nil]
  rfl

theorem figuresAll_figcaptions {nodes : List Node}
    (h : ∀ node ∈ nodes, ∃ text, node = figcaption text) : figuresAll inMedia nodes = [] := by
  induction nodes with
  | nil => exact figuresAll_nil
  | cons node rest ih =>
    obtain ⟨text, rfl⟩ := h node List.mem_cons_self
    rw [figuresAll_cons, figures_figcaption, ih fun node hn => h node (List.mem_cons_of_mem _ hn),
      List.nil_append]

end Node

/-! ## Lists that grow -/

/-- `Grown R P xs ys`: the members of `xs` are those of `ys` in their order, each of them changed as
`R` says, and the other members of `ys` are as `P` says. -/
inductive Grown {α : Type} (R : α → α → Prop) (P : α → Prop) : List α → List α → Prop
  | nil : Grown R P [] []
  | kept {x y : α} {xs ys : List α} (changed : R x y) (rest : Grown R P xs ys) :
    Grown R P (x :: xs) (y :: ys)
  | new {y : α} {xs ys : List α} (fresh : P y) (rest : Grown R P xs ys) : Grown R P xs (y :: ys)

namespace Grown

variable {α : Type} {R S : α → α → Prop} {P Q : α → Prop} {xs xs' ys ys' zs rest : List α}

theorem of_new (fresh : ∀ y ∈ ys, P y) : Grown R P [] ys := by
  induction ys with
  | nil => exact .nil
  | cons y ys ih =>
    exact .new (fresh y List.mem_cons_self) (ih fun z mem => fresh z (List.mem_cons_of_mem _ mem))

theorem append (first : Grown R P xs ys) (second : Grown R P xs' ys') :
    Grown R P (xs ++ xs') (ys ++ ys') := by
  induction first with
  | nil => exact second
  | kept changed _ ih => exact .kept changed ih
  | new fresh _ ih => exact .new fresh ih

/-- Lists that grew before grow once more, together with what is behind them. -/
theorem append_trans (trans : ∀ x y z, R x y → R y z → R x z) (fresh : ∀ y z, P y → R y z → P z)
    (first : Grown R P xs ys) (second : Grown R P (ys ++ rest) zs) :
    Grown R P (xs ++ rest) zs := by
  generalize whole : ys ++ rest = middle at second
  induction second generalizing xs ys with
  | nil =>
    obtain ⟨rfl, rfl⟩ := List.append_eq_nil_iff.mp whole
    cases first
    exact .nil
  | @kept y z middle zs changed later ih =>
    cases first with
    | nil =>
      rw [List.nil_append] at whole
      subst whole
      exact .kept changed later
    | kept before first =>
      obtain ⟨rfl, rfl⟩ := List.cons_eq_cons.mp whole
      exact .kept (trans _ _ _ before changed) (ih first rfl)
    | new wasNew first =>
      obtain ⟨rfl, rfl⟩ := List.cons_eq_cons.mp whole
      exact .new (fresh _ _ wasNew changed) (ih first rfl)
  | new isNew _ ih => exact .new isNew (ih first whole)

/-- What happens to every member of a list that grew. -/
theorem comp_forall₂ (first : Grown R P xs ys) (second : List.Forall₂ S ys zs)
    (fresh : ∀ y z, P y → S y z → Q z) : Grown (Relation.Comp R S) Q xs zs := by
  induction first generalizing zs with
  | nil => rw [List.forall₂_nil_left_iff.mp second]; exact .nil
  | kept changed _ ih =>
    cases second with
    | cons next second => exact .kept ⟨_, changed, next⟩ (ih second)
  | new isNew _ ih =>
    cases second with
    | cons next second => exact .new (fresh _ _ isNew next) (ih second)

theorem imp (weaker : ∀ x y, R x y → S x y) (grown : Grown R P xs ys) : Grown S P xs ys := by
  induction grown with
  | nil => exact .nil
  | kept changed _ ih => exact .kept (weaker _ _ changed) ih
  | new fresh _ ih => exact .new fresh ih

theorem length_le (grown : Grown R P xs ys) : xs.length ≤ ys.length := by
  induction grown with
  | nil => exact Nat.le_refl _
  | kept _ _ ih => exact Nat.succ_le_succ ih
  | new _ _ ih => exact Nat.le_succ_of_le ih

/-- A list that got no longer is still the same list, member by member. -/
theorem forall₂_of_length (grown : Grown R P xs ys) (same : ys.length = xs.length) :
    List.Forall₂ R xs ys := by
  induction grown with
  | nil => exact .nil
  | kept changed _ ih => exact .cons changed (ih (Nat.succ.inj same))
  | new _ rest _ =>
    have longer := rest.length_le
    rw [List.length_cons] at same
    omega

end Grown

/-! ## The figcaptions of a figure -/

/-- A figure, given by its head and its children, before and after a pass: the figcaptions that it
had are changed as `kept` says. If it had none, it gets the one that it is offered; without an offer
it gets none, but for a figure that is `late`. -/
structure Recaptioned (kept : Node → Node → Prop) (late : Prop) (old new : Head × List Node) :
    Prop where
  head : new.1 = old.1
  kept : Node.figcaptions old.2 ≠ [] →
    List.Forall₂ kept (Node.figcaptions old.2) (Node.figcaptions new.2)
  given : Node.figcaptions old.2 = [] → ∀ text, old.2.findSome? Node.captionOffered? = some text →
    Node.figcaptions new.2 = [figcaption text]
  unasked : Node.figcaptions old.2 = [] → old.2.findSome? Node.captionOffered? = none →
    Node.figcaptions new.2 = [] ∨ late ∧ ∃ text, Node.figcaptions new.2 = [figcaption text]

/-- A figure that a pass adds: it has one figcaption or none. -/
def NewFigure (figure : Head × List Node) : Prop :=
  figure.1 = .new "figure" [] "" ∧
    ∃ caption : Option String, Node.figcaptions figure.2 = (caption.map figcaption).toList

/-- A figure before and after a pass, together with the media elements in it. A second visit of them
can be late if a title has a directive about the alt text. -/
structure Refigured (settings : Settings) (again : Prop) (old new : Head × List Node) : Prop where
  media : List.Forall₂ (Relation.TransGen (Visited settings)) (Node.mediaAll old.2)
    (Node.mediaAll new.2)
  captions : Recaptioned KeptCaption (again ∧ ∃ media ∈ Node.mediaAll old.2, ¬media.1.KeepsAlt)
    old new

/-- What a figure is offered is asked for by a media element in it. -/
theorem Node.captionAsked?_of_offered {nodes : List Node} {text : String}
    (offered : nodes.findSome? captionOffered? = some text) :
    ∃ media ∈ mediaAll nodes, media.1.captionAsked? = some text := by
  have asks {node : Node} (asked : node.captionAsked? = some text) :
      ∃ media ∈ node.media, media.1.captionAsked? = some text := by
    cases node with
    | element head children tail =>
      obtain ⟨media, asked⟩ : head.tag ∈ Media.tags ∧ head.captionAsked? = some text := by
        simpa [captionAsked?] using asked
      exact ⟨(head, children), by rw [media_of_media media]; exact List.mem_cons_self, asked⟩
    | comment => cases asked
    | instruction => cases asked
  obtain ⟨node, mem, offered⟩ := List.exists_of_findSome?_eq_some offered
  unfold captionOffered? at offered
  split at offered
  · rename_i isLink
    obtain ⟨child, inside, asked⟩ := List.exists_of_findSome?_eq_some offered
    obtain ⟨media, here, asked⟩ := asks asked
    refine ⟨media, mem_mediaAll.mpr ⟨node, mem, ?_⟩, asked⟩
    cases node with
    | element head children tail =>
      have other : head.tag ∉ Media.tags := by
        have link : head.tag = "a" := by simpa [hasTag, tag?, head?] using isLink
        rw [link]
        decide
      rw [media_of_other other, mem_mediaAll]
      exact ⟨child, inside, here⟩
    | comment => cases isLink
    | instruction => cases isLink
  · obtain ⟨media, here, asked⟩ := asks offered
    exact ⟨media, mem_mediaAll.mpr ⟨node, mem, here⟩, asked⟩

namespace Refigured

variable {settings : Settings} {again : Prop} {old mid new : Head × List Node}

/-- A media element that asks for a caption after it was handled had a directive about its alt
text. -/
theorem late_of_mid (first : Refigured settings again old mid) {media : Head × List Node}
    (mem : media ∈ Node.mediaAll mid.2)
    (asks : ¬(media.1.captionAsked? = none ∧ media.1.KeepsAlt)) :
    ∃ media ∈ Node.mediaAll old.2, ¬media.1.KeepsAlt := by
  obtain ⟨before, present, visited⟩ := forall₂_mem_right first.media media mem
  exact ⟨before, present, fun keeps => asks (Visited.unasked_of_transGen visited keeps)⟩

theorem trans (back : again) (first : Refigured settings again old mid)
    (second : Refigured settings again mid new) : Refigured settings again old new where
  media := (forall₂_comp first.media second.media).imp fun _ _ ⟨_, before, after⟩ =>
    before.trans after
  captions.head := second.captions.head.trans first.captions.head
  captions.kept captioned := by
    have before := first.captions.kept captioned
    have captioned' : Node.figcaptions mid.2 ≠ [] := by
      intro none
      rw [none, List.forall₂_nil_right_iff] at before
      exact captioned before
    exact (forall₂_comp before (second.captions.kept captioned')).imp
      fun _ _ ⟨_, before, after⟩ => before.trans after
  captions.given uncaptioned text offered := by
    have given := first.captions.given uncaptioned text offered
    have kept := second.captions.kept (by simp [given])
    rw [given] at kept
    exact KeptCaption.eq_of_new kept
  captions.unasked uncaptioned unoffered := by
    rcases first.captions.unasked uncaptioned unoffered with none | ⟨late, text, given⟩
    · cases offered : mid.2.findSome? Node.captionOffered? with
      | none =>
        refine (second.captions.unasked none offered).imp id ?_
        rintro ⟨⟨-, media, mem, keyed⟩, given⟩
        exact ⟨⟨back, first.late_of_mid mem fun quiet => keyed quiet.2⟩, given⟩
      | some text =>
        obtain ⟨media, mem, asks⟩ := Node.captionAsked?_of_offered offered
        have late := first.late_of_mid mem fun quiet => by simp [asks] at quiet
        exact .inr ⟨⟨back, late⟩, text, second.captions.given none text offered⟩
    · have kept := second.captions.kept (by simp [given])
      rw [given] at kept
      exact .inr ⟨late, text, KeptCaption.eq_of_new kept⟩

end Refigured

theorem NewFigure.recaptioned {late : Prop} {old new : Head × List Node}
    (isNew : NewFigure old) (changed : Recaptioned KeptCaption late old new) : NewFigure new := by
  obtain ⟨head_eq, caption, figcaptions_eq⟩ := isNew
  refine ⟨changed.head.trans head_eq, ?_⟩
  cases caption with
  | some text =>
    have kept := changed.kept (by simp [figcaptions_eq])
    rw [figcaptions_eq] at kept
    exact ⟨some text, KeptCaption.eq_of_new kept⟩
  | none =>
    cases offered : old.2.findSome? Node.captionOffered? with
    | some text => exact ⟨some text, changed.given figcaptions_eq text offered⟩
    | none =>
      rcases changed.unasked figcaptions_eq offered with uncaptioned | ⟨-, text, given⟩
      · exact ⟨none, uncaptioned⟩
      · exact ⟨some text, given⟩

/-! ## A pass -/

/-- A new figure puts its caption where an old one gets it. -/
theorem figureShell_eq (settings : Settings) (caption : Option String) :
    figureShell settings caption =
      ⟨.new "figure" [] "", captionFront settings (caption.map figcaption),
        captionBack settings (caption.map figcaption), ""⟩ := by
  unfold figureShell captionFront captionBack
  cases settings.captionsAbove <;> rfl

theorem newFigure_attach (settings : Settings) (caption : Option String) {node : Node}
    (noCaption : node.hasTag "figcaption" = false) :
    NewFigure ((figureShell settings caption).head,
      (figureShell settings caption).before ++ node :: (figureShell settings caption).after) := by
  rw [figureShell_eq]
  refine ⟨rfl, caption, ?_⟩
  have none : Node.figcaptions ([] ++ [node]) = [] := Node.figcaptions_of_ne noCaption
  cases caption with
  | none => simpa [captionFront, captionBack] using none
  | some text => simpa using Node.figcaptions_addCaption none settings text

/-- The figures in the slot of a media element are new. -/
theorem Change.Handled.figures_slot {settings : Settings} {site : Site} {head : Head}
    {children : List Node} {change : Change}
    (handled : Handled .data settings site head children change)
    (media : head.tag ∈ Media.tags) (tail : String) :
    ∀ figure ∈ (change.slot.withTail tail).figures false, NewFigure figure := by
  obtain ⟨head', children', media_eq, media'⟩ := handled.media_eq media
  have inner : change.media.hasTag "figcaption" = false ∧
      ∀ figure ∈ change.media.figures false, NewFigure figure := by
    rw [media_eq, Node.figures_of_media media']
    exact ⟨Node.isFigcaption_media media' children' "", by simp⟩
  rw [Node.figures_withTail]
  refine (Node.within_shells (motive := fun node => node.hasTag "figcaption" = false ∧
    ∀ figure ∈ node.figures false, NewFigure figure) (fun _ => handled.mem_shells) ?_ inner).2
  rintro frame node (⟨href, rfl⟩ | ⟨caption, rfl⟩) ⟨noCaption, new⟩
  · have other : (anchor href).tag ∉ Media.tags := show "a" ∉ Media.tags by decide
    refine ⟨(shell_anchor_isShell href).isFigcaption_attach node, ?_⟩
    rw [shell, Frame.attach, Node.figures_of_other other]
    simpa [Node.ownFigure, anchor, Head.new] using new
  · have isShell := figureShell_isShell settings caption
    have isFigure := figureShell_tag settings caption
    have other : (figureShell settings caption).head.tag ∉ Media.tags := by
      rw [isFigure]
      decide
    have before : Node.figuresAll false (figureShell settings caption).before = [] :=
      Node.figuresAll_figcaptions fun node h => isShell.figcaptions node (List.mem_append_left _ h)
    have after : Node.figuresAll false (figureShell settings caption).after = [] :=
      Node.figuresAll_figcaptions fun node h => isShell.figcaptions node (List.mem_append_right _ h)
    refine ⟨isShell.isFigcaption_attach node, fun figure mem => ?_⟩
    rw [Frame.attach, Node.figures_of_other other, Node.ownFigure, if_pos isFigure,
      Node.figuresAll_append, Node.figuresAll_cons, before, after, List.nil_append, List.append_nil,
      List.singleton_append, List.mem_cons] at mem
    rcases mem with rfl | mem
    · exact newFigure_attach settings caption noCaption
    · exact new figure mem

theorem figuresAll_captionFront {settings : Settings} {caption : Option Node}
    (h : ∀ node ∈ caption, ∃ text, node = figcaption text) :
    Node.figuresAll false (captionFront settings caption) = [] :=
  Node.figuresAll_figcaptions fun node hn => h node (mem_captionFront hn)

theorem figuresAll_captionBack {settings : Settings} {caption : Option Node}
    (h : ∀ node ∈ caption, ∃ text, node = figcaption text) :
    Node.figuresAll false (captionBack settings caption) = [] :=
  Node.figuresAll_figcaptions fun node hn => h node (mem_captionBack hn)

/-- An element that is closed again is the figure that it was. -/
theorem Level.figures_close {level : Level} (regular : level.Regular)
    (other : level.head.tag ∉ Media.tags) (children : List Node) (tail : String) :
    (level.close children tail).figures false =
      Node.ownFigure level.head children ++ Node.figuresAll false children := by
  unfold close
  cases h : level.link with
  | none => exact Node.figures_of_other other
  | some link =>
    obtain ⟨-, href, rfl⟩ := regular.link link h
    have isLink : (anchor href).tag ∉ Media.tags := show "a" ∉ Media.tags by decide
    dsimp only
    rw [Node.figures_of_other isLink, Node.figuresAll_cons, Node.figures_of_other other,
      Node.figuresAll_nil, List.append_nil]
    rfl

namespace Pass

variable {settings : Settings} {level last below : Level} {before todo children inner inner' :
  List Node} {head : Head} {log : List Head} {again : Prop}

/-- What a pass over the children of a figure makes of it. -/
theorem refigured (pass : Pass .data settings level [] todo log last children)
    (isFigure : level.head.tag = "figure") :
    Refigured settings again (level.head, todo) (level.head, children) where
  media := by
    obtain ⟨media, eq, related⟩ := pass.media_eq
    rw [Node.mediaAll_nil, List.nil_append] at eq
    rw [eq]
    exact related
  captions.head := rfl
  captions.kept captioned := by
    have has : hasFigcaption ([] ++ todo) = true := by
      rwa [List.nil_append, ← Bool.not_eq_false, Node.hasFigcaption_eq_false]
    obtain ⟨kept, eq, related⟩ := pass.figcaptions_kept isFigure has
    rw [Node.figcaptions_nil, List.nil_append] at eq
    rw [eq]
    exact related
  captions.given uncaptioned text offered := by
    have eq := pass.figcaptions_offered isFigure (Node.hasFigcaption_eq_false.mpr uncaptioned)
    rw [eq]
    simp [offered]
  captions.unasked uncaptioned unoffered := by
    have eq := pass.figcaptions_offered isFigure (Node.hasFigcaption_eq_false.mpr uncaptioned)
    rw [eq]
    simp [unoffered]

/-- What a pass over the children of an element makes of the element and of the figures in it. -/
theorem grown_closed {siblings : List Node}
    (inside : Pass .data settings (level.below head siblings) [] inner log below inner')
    (other : head.tag ∉ Media.tags) (tail : String)
    (grown : Grown (Refigured settings again) NewFigure (Node.figuresAll false inner)
      (Node.figuresAll false inner')) :
    Grown (Refigured settings again) NewFigure ((Node.element head inner tail).figures false)
      ((below.close inner' tail).figures false) := by
  have head_eq := inside.head_below
  rw [Level.figures_close inside.regular_below (head_eq ▸ other), head_eq,
    Node.figures_of_other other]
  refine .append ?_ grown
  unfold Node.ownFigure
  split
  · rename_i isFigure
    exact .kept (inside.refigured isFigure) .nil
  · exact .nil

/-- A pass keeps the figures in their order and adds new ones. -/
theorem grown (pass : Pass .data settings level before todo log last children)
    (once : level.rewalks settings before todo = true → again) :
    ∃ figures, Node.figuresAll false children = Node.figuresAll false before ++ figures ∧
      Grown (Refigured settings again) NewFigure (Node.figuresAll false todo) figures := by
  induction pass with
  | done => exact ⟨[], by simp, by simpa using .nil⟩
  | @skip level last before todo children node log noElement rest ih =>
    rw [← Level.rewalks_skip noElement] at once
    obtain ⟨figures, eq, grown⟩ := ih once
    have none : node.figures false = [] := Node.figures_of_noElement noElement
    refine ⟨figures, ?_, ?_⟩
    · simpa [none] using eq
    · simpa [none] using grown
  | @visit level last before todo children inner head tail change log media handled rest ih =>
    have own := level.own_figcaption handled
    have new := handled.figures_slot media tail
    rw [← handled.rewalks_visit media] at once
    obtain ⟨figures, eq, grown⟩ := ih once
    rw [Node.figuresAll_append, figuresAll_captionBack own, List.append_nil] at grown
    refine ⟨(change.slot.withTail tail).figures false ++ figures, ?_, ?_⟩
    · simpa [figuresAll_captionFront own] using eq
    · rw [Node.figuresAll_cons, Node.figures_of_media media]
      exact (Grown.of_new new).append grown
  | @enter level last below before todo children inner inner' head tail log log' other inside kept
      rest innerIh ih =>
    have regular := inside.regular_below
    rw [inside.rewalks_enter other kept, Bool.or_eq_true] at once
    obtain ⟨figures, eq, grown⟩ := innerIh fun back => once (.inl back)
    obtain ⟨figures', eq', grown'⟩ := ih fun back => once (.inr back)
    rw [Node.figuresAll_append, figuresAll_captionBack regular.caption, List.append_nil] at grown'
    rw [Node.figuresAll_nil, List.nil_append] at eq
    rw [← eq] at grown
    refine ⟨(below.close inner' tail).figures false ++ figures', ?_, ?_⟩
    · simpa using eq'
    · rw [Node.figuresAll_cons]
      exact (inside.grown_closed other tail grown).append grown'
  | @again level last below before todo children inner inner' head tail caption log log' other
      inside moved rest innerIh ih =>
    have back : again := once (inside.rewalks_again other moved).1
    have front : Node.figuresAll false (captionFront settings below.caption) = [] :=
      figuresAll_captionFront inside.regular_below.caption
    rw [moved, Node.figuresAll_cons, Node.figuresAll_nil, List.append_nil] at front
    obtain ⟨figures, eq, grown⟩ := innerIh fun _ => back
    obtain ⟨figures', eq', grown'⟩ := ih fun _ => back
    rw [Node.figuresAll_nil, List.nil_append] at eq
    rw [← eq] at grown
    refine ⟨figures', ?_, ?_⟩
    · simpa [front] using eq'
    · rw [Node.figuresAll_cons] at grown' ⊢
      exact .append_trans (fun _ _ _ => Refigured.trans back)
        (fun _ _ isNew changed => isNew.recaptioned changed.captions)
        (inside.grown_closed other tail grown) grown'

end Pass

end MediaMarkup

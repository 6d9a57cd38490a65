import MediaMarkup.Proofs.Asked
import MediaMarkup.Proofs.Forall2
import MediaMarkup.Proofs.Level

/-!
The media elements that a pass is about: those below the root that lie in no other one, in document
order. A pass keeps them in this order, and changes each of them only by handling it, once or more
often (`Pass.media_eq`).
-/

namespace MediaMarkup

namespace Node

mutual

/-- The heads and the children of the media elements of a node that lie in no other one. -/
def media : Node → List (Head × List Node)
  | .element head children _ =>
    if head.tag ∈ Media.tags then [(head, children)] else mediaAll children
  | _ => []

def mediaAll : List Node → List (Head × List Node)
  | [] => []
  | node :: rest => media node ++ mediaAll rest

end

variable {head : Head} {children : List Node} {tail : String}

@[simp] theorem mediaAll_nil : mediaAll [] = [] := by
  rw [mediaAll]

@[simp] theorem mediaAll_cons (node : Node) (rest : List Node) :
    mediaAll (node :: rest) = node.media ++ mediaAll rest := by
  rw [mediaAll]

@[simp] theorem mediaAll_append (xs ys : List Node) :
    mediaAll (xs ++ ys) = mediaAll xs ++ mediaAll ys := by
  induction xs with
  | nil => simp
  | cons node xs ih => simp [ih]

theorem mem_mediaAll {nodes : List Node} {one : Head × List Node} :
    one ∈ mediaAll nodes ↔ ∃ node ∈ nodes, one ∈ node.media := by
  induction nodes with
  | nil => simp
  | cons node nodes ih => simp [ih]

theorem media_of_media (media : head.tag ∈ Media.tags) :
    (Node.element head children tail).media = [(head, children)] := by
  rw [Node.media, if_pos media]

theorem media_of_other (other : head.tag ∉ Media.tags) :
    (Node.element head children tail).media = mediaAll children := by
  rw [Node.media, if_neg other]

theorem media_of_noElement {node : Node} (h : node.isElement = false) : node.media = [] := by
  cases node with
  | element => simp [isElement, head?] at h
  | comment => rw [media]; simp
  | instruction => rw [media]; simp

@[simp] theorem media_withTail (tail : String) (node : Node) :
    (node.withTail tail).media = node.media := by
  cases node with
  | element => simp only [withTail, media]
  | comment => rfl
  | instruction => rfl

theorem media_figcaption (text : String) : (figcaption text).media = [] := by
  rw [figcaption, media_of_other (show "figcaption" ∉ Media.tags by decide), mediaAll_nil]

theorem mediaAll_figcaptions {nodes : List Node}
    (h : ∀ node ∈ nodes, ∃ text, node = figcaption text) : mediaAll nodes = [] := by
  induction nodes with
  | nil => exact mediaAll_nil
  | cons node rest ih =>
    obtain ⟨text, rfl⟩ := h node List.mem_cons_self
    rw [mediaAll_cons, media_figcaption, ih fun node hn => h node (List.mem_cons_of_mem _ hn),
      List.nil_append]

end Node

theorem mediaAll_captionFront {settings : Settings} {caption : Option Node}
    (h : ∀ node ∈ caption, ∃ text, node = figcaption text) :
    Node.mediaAll (captionFront settings caption) = [] :=
  Node.mediaAll_figcaptions fun node hn => h node (mem_captionFront hn)

theorem mediaAll_captionBack {settings : Settings} {caption : Option Node}
    (h : ∀ node ∈ caption, ∃ text, node = figcaption text) :
    Node.mediaAll (captionBack settings caption) = [] :=
  Node.mediaAll_figcaptions fun node hn => h node (mem_captionBack hn)

/-- What is put around a node holds no media element. -/
theorem Frame.IsShell.media_attach {frame : Frame} (isShell : frame.IsShell) (node : Node) :
    (frame.attach node).media = node.media := by
  have noMedia : frame.head.tag ∉ Media.tags := by
    rcases isShell.tag with h | h <;> rw [h] <;> decide
  have before := Node.mediaAll_figcaptions fun node h =>
    isShell.figcaptions node (List.mem_append_left _ h)
  have after := Node.mediaAll_figcaptions fun node h =>
    isShell.figcaptions node (List.mem_append_right _ h)
  rw [attach, Node.media_of_other noMedia, Node.mediaAll_append, Node.mediaAll_cons, before, after,
    List.nil_append, List.append_nil]

theorem Node.media_within {shells : List Frame} (isShell : ∀ frame ∈ shells, frame.IsShell)
    (node : Node) : (node.within shells).media = node.media :=
  Node.within_shells (motive := fun outer => outer.media = node.media) isShell
    (fun _ inner isShell same => (isShell.media_attach inner).trans same) rfl

/-! ## Handling one element -/

/-- A media element before and after it was handled at some site. -/
def Visited (settings : Settings) (old new : Head × List Node) : Prop :=
  ∃ site change, Change.Handled .data settings site old.1 old.2 change ∧
    change.media = .element new.1 new.2 ""

/-- The slot of a media element holds it alone, as it was left. -/
theorem Change.Handled.media_slot {settings : Settings} {site : Site} {head : Head}
    {children : List Node} {change : Change}
    (handled : Handled .data settings site head children change)
    (media : head.tag ∈ Media.tags) (tail : String) :
    ∃ new, (change.slot.withTail tail).media = [new] ∧ Visited settings (head, children) new := by
  obtain ⟨head', children', media_eq, media'⟩ := handled.media_eq media
  refine ⟨(head', children'), ?_, site, change, handled, media_eq⟩
  rw [Node.media_withTail, slot, Node.media_within handled.isShell, media_eq,
    Node.media_of_media media']

/-- An element that is closed again holds the media elements of its children. -/
theorem Level.media_close {level : Level} (regular : level.Regular)
    (other : level.head.tag ∉ Media.tags) (children : List Node) (tail : String) :
    (level.close children tail).media = Node.mediaAll children := by
  unfold close
  cases h : level.link with
  | none => exact Node.media_of_other other
  | some link =>
    obtain ⟨-, href, rfl⟩ := regular.link link h
    have isLink : (anchor href).tag ∉ Media.tags := show "a" ∉ Media.tags by decide
    dsimp only
    rw [Node.media_of_other isLink, Node.mediaAll_cons, Node.media_of_other other,
      Node.mediaAll_nil, List.append_nil]

/-! ## A pass -/

namespace Pass

variable {format : Format} {settings : Settings} {level last : Level}
  {before todo children : List Node} {log : List Head}

/-- An element that was walked holds the media elements of its children. -/
theorem media_below {below : Level} {siblings inner inner' : List Node} {head : Head}
    (inside : Pass format settings (level.below head siblings) [] inner log below inner')
    (other : head.tag ∉ Media.tags) (tail : String) :
    (below.close inner' tail).media = Node.mediaAll inner' := by
  rw [← inside.head_below] at other
  exact below.media_close inside.regular_below other inner' tail

/-- A pass handles every media element that it has before it, at least once, and leaves them in
their order. -/
theorem media_eq (pass : Pass .data settings level before todo log last children) :
    ∃ media, Node.mediaAll children = Node.mediaAll before ++ media ∧
      List.Forall₂ (Relation.TransGen (Visited settings)) (Node.mediaAll todo) media := by
  induction pass with
  | done => exact ⟨[], by simp, by simp⟩
  | @skip level last before todo children node log noElement rest ih =>
    obtain ⟨media, eq, related⟩ := ih
    refine ⟨media, ?_, ?_⟩
    · simpa [Node.media_of_noElement noElement] using eq
    · simpa [Node.media_of_noElement noElement] using related
  | @visit level last before todo children inner head tail change log media handled rest ih =>
    have own := level.own_figcaption handled
    obtain ⟨new, slot, visited⟩ := handled.media_slot media tail
    obtain ⟨media', eq, related⟩ := ih
    refine ⟨new :: media', ?_, ?_⟩
    · simpa [mediaAll_captionFront own, slot] using eq
    · rw [Node.mediaAll_append, mediaAll_captionBack own, List.append_nil] at related
      rw [Node.mediaAll_cons, Node.media_of_media media]
      exact .cons (.single visited) related
  | @enter level last below before todo children inner inner' head tail log log' other inside kept
      rest innerIh ih =>
    have regular := inside.regular_below
    have closed := inside.media_below other tail
    obtain ⟨media, eq, related⟩ := innerIh
    obtain ⟨media', eq', related'⟩ := ih
    refine ⟨media ++ media', ?_, ?_⟩
    · simpa [closed, eq] using eq'
    · rw [Node.mediaAll_append, mediaAll_captionBack regular.caption, List.append_nil] at related'
      rw [Node.mediaAll_cons, Node.media_of_other other]
      exact List.rel_append related related'
  | @again level last below before todo children inner inner' head tail caption log log' other
      inside moved rest innerIh ih =>
    have regular := inside.regular_below
    have closed := inside.media_below other tail
    have front : Node.mediaAll (captionFront settings below.caption) = [] :=
      mediaAll_captionFront regular.caption
    rw [moved, Node.mediaAll_cons, Node.mediaAll_nil, List.append_nil] at front
    obtain ⟨media, eq, related⟩ := innerIh
    obtain ⟨media', eq', related'⟩ := ih
    refine ⟨media', ?_, ?_⟩
    · simpa [front] using eq'
    · rw [Node.mediaAll_nil, List.nil_append] at eq
      rw [Node.mediaAll_cons, closed, eq] at related'
      rw [Node.mediaAll_cons, Node.media_of_other other]
      exact forall₂_transGen_append related related'

/-- Without media elements a pass changes nothing. -/
theorem eq_of_noMedia (pass : Pass format settings level before todo log last children)
    (noMedia : Node.mediaAll todo = []) : last = level ∧ children = before ++ todo := by
  induction pass with
  | done => simp
  | skip _ _ ih =>
    rw [Node.mediaAll_cons, List.append_eq_nil_iff] at noMedia
    simpa using ih noMedia.2
  | visit media =>
    rw [Node.mediaAll_cons, Node.media_of_media media] at noMedia
    cases noMedia
  | @enter level last below before todo children inner inner' head tail log log' other inside kept
      rest innerIh ih =>
    rw [Node.mediaAll_cons, Node.media_of_other other, List.append_eq_nil_iff] at noMedia
    obtain ⟨rfl, rfl⟩ := innerIh noMedia.1
    have noBack : captionBack settings (level.below head (before ++ todo)).caption = [] := by
      simp [captionBack, Level.below]
    rw [noBack, List.append_nil] at ih
    simpa [Level.close, Level.below] using ih noMedia.2
  | again other inside moved rest innerIh =>
    rw [Node.mediaAll_cons, Node.media_of_other other, List.append_eq_nil_iff] at noMedia
    obtain ⟨rfl, -⟩ := innerIh noMedia.1
    simp [captionFront, Level.below] at moved

end Pass

end MediaMarkup

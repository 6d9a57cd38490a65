import MediaMarkup.Proofs.Asked
import MediaMarkup.Proofs.LevelRun
import MediaMarkup.Proofs.Reduction

/-!
What enriching leaves of a document. `Node.essence` takes out of a document all that enriching may
add or change: figures and links below the root are dissolved into their parents, figcaptions go,
and of a media element only its place is kept. Main statement: enriching without unravelling keeps
the essence (`essence_enrich`), so every other node, its attributes and every text stay, once and in
their order.
-/

namespace MediaMarkup

/-! ## The essence of a document -/

/-- What stands for a media element. -/
def Node.placeholder : Node := .element (.new Kind.image.tag [] "") [] ""

/-- Of a media element its place is kept, figcaptions go, and figures and links leave their
content. -/
def Reduction.essence : Reduction where
  text := id
  element head content :=
    if head.tag ∈ Media.tags then ⟨"", [Node.placeholder]⟩
    else if head.tag = "figcaption" then .empty
    else if head.tag = "figure" ∨ head.tag = "a" then content
    else content.asElement head
  text_empty := id_eq ""

/-- A document without what enriching may add or change below its root. -/
def Node.essence (tree : Node) : Node :=
  tree.reduced .essence

namespace Essence

open Node

theorem reduce_figcaption (text : String) : reduce .essence (figcaption text) = .empty := by
  rw [figcaption, reduce_element]
  rfl

theorem reduceAll_figcaptions {nodes : List Node}
    (h : ∀ node ∈ nodes, ∃ text, node = figcaption text) :
    reduceAll .essence nodes = .empty := by
  induction nodes with
  | nil => exact reduceAll_nil
  | cons node rest ih =>
    obtain ⟨text, rfl⟩ := h node List.mem_cons_self
    rw [reduceAll_cons, reduce_figcaption, Content.empty_append]
    exact ih fun node hn => h node (List.mem_cons_of_mem _ hn)

theorem reduce_media {head : Head} (media : head.tag ∈ Media.tags) (children : List Node)
    (tail : String) :
    reduce .essence (.element head children tail) = ⟨"", [placeholder]⟩ ++ .ofText tail := by
  have left (content : Content) :
      Reduction.essence.element head content = ⟨"", [placeholder]⟩ := if_pos media
  rw [reduce_element, left]
  rfl

/-- A link or a figure leaves its content and its tail. -/
theorem reduce_wrapper {head : Head} (wrapper : head.tag = "a" ∨ head.tag = "figure")
    (children : List Node) (tail : String) :
    reduce .essence (.element head children tail) =
      .ofText head.text ++ reduceAll .essence children ++ .ofText tail := by
  have noMedia : head.tag ∉ Media.tags := by
    rcases wrapper with h | h <;> rw [h] <;> decide
  have noCaption : head.tag ≠ "figcaption" := by
    rcases wrapper with h | h <;> rw [h] <;> decide
  have left (content : Content) : Reduction.essence.element head content = content := by
    simp only [Reduction.essence, if_neg noMedia, if_neg noCaption, if_pos wrapper.symm]
  rw [reduce_element, left]
  rfl

/-- A new element leaves what it was put around. -/
theorem reduce_attach {frame : Frame} (isShell : frame.IsShell) (node : Node) :
    reduce .essence (frame.attach node) = reduce .essence node := by
  have before := reduceAll_figcaptions fun node h =>
    isShell.figcaptions node (List.mem_append_left _ h)
  have after := reduceAll_figcaptions fun node h =>
    isShell.figcaptions node (List.mem_append_right _ h)
  rw [Frame.attach, reduce_wrapper isShell.tag, isShell.text, isShell.tail, reduceAll_append,
    reduceAll_cons, before, after, Content.append_empty, Content.empty_append,
    Content.append_ofText_empty]
  exact Content.empty_append _

theorem reduce_within {shells : List Frame} (isShell : ∀ frame ∈ shells, frame.IsShell)
    (node : Node) : reduce .essence (node.within shells) = reduce .essence node :=
  within_shells (motive := fun outer => reduce .essence outer = reduce .essence node) isShell
    (fun _ inner isShell same => (reduce_attach isShell inner).trans same) rfl

theorem reduceAll_captionFront {settings : Settings} {caption : Option Node}
    (h : ∀ node ∈ caption, ∃ text, node = figcaption text) :
    reduceAll .essence (captionFront settings caption) = .empty :=
  reduceAll_figcaptions fun node hn => h node (mem_captionFront hn)

theorem reduceAll_captionBack {settings : Settings} {caption : Option Node}
    (h : ∀ node ∈ caption, ∃ text, node = figcaption text) :
    reduceAll .essence (captionBack settings caption) = .empty :=
  reduceAll_figcaptions fun node hn => h node (mem_captionBack hn)

/-- The slot of a media element leaves its place and the element's tail. -/
theorem reduce_slot {settings : Settings} {site : Site} {head : Head} {children : List Node}
    {change : Change} (handled : Change.Handled .data settings site head children change)
    (media : head.tag ∈ Media.tags) (tail : String) :
    reduce .essence (change.slot.withTail tail) =
      reduce .essence (.element head children tail) := by
  obtain ⟨head', children', media_eq, media'⟩ := handled.media_eq media
  have noTail : change.slot.withoutTail = change.slot := by
    rw [withoutTail, ← handled.slot_tail, withTail_tail]
  rw [reduce_withTail, noTail, Change.slot, reduce_within handled.isShell, media_eq,
    reduce_media media', reduce_media media, Content.append_ofText_empty]
  rfl

/-- An element that is closed again leaves what it left before, if its children do. -/
theorem reduce_close {level : Level} (regular : level.Regular) {children children' : List Node}
    (tail : String) (same : reduceAll .essence children' = reduceAll .essence children) :
    reduce .essence (level.close children' tail) =
      reduce .essence (.element level.head children tail) := by
  have element_eq (tail : String) : reduce .essence (.element level.head children' tail) =
      reduce .essence (.element level.head children tail) := by
    rw [reduce_element, reduce_element, same]
  unfold Level.close
  cases h : level.link with
  | none => exact element_eq tail
  | some link =>
    obtain ⟨-, href, rfl⟩ := regular.link link h
    have text_eq : (anchor href).text = "" := rfl
    have split : reduce .essence (.element level.head children tail) =
        reduce .essence (.element level.head children "") ++ .ofText tail :=
      reduce_withTail tail (.element level.head children "")
    rw [reduce_wrapper (.inl rfl), reduceAll_singleton, element_eq, split, text_eq]
    exact congrArg (· ++ _) (Content.empty_append _)

end Essence

/-! ## A pass keeps the essence -/

open Essence in
/-- The children of a level leave the same before and after a pass. -/
theorem Pass.reduceAll_eq {settings : Settings} {level last : Level}
    {before todo children : List Node} {log : List Head}
    (pass : Pass .data settings level before todo log last children) :
    Node.reduceAll .essence children = Node.reduceAll .essence (before ++ todo) := by
  induction pass with
  | done => rw [List.append_nil]
  | skip _ _ ih => rw [ih, List.append_assoc, List.singleton_append]
  | @visit level last before todo children inner head tail change log media handled rest ih =>
    have own := level.own_figcaption handled
    rw [ih]
    simp only [Node.reduceAll_append, Node.reduceAll_cons, Node.reduceAll_nil,
      reduceAll_captionFront own, reduceAll_captionBack own, reduce_slot handled media,
      Content.empty_append, Content.append_empty, Content.append_assoc]
  | @enter level last below before todo children inner inner' head tail log log' other inside kept
      rest innerIh ih =>
    have regular := inside.regular_below
    have closed := reduce_close regular tail innerIh
    rw [List.nil_append, inside.head_below] at closed
    rw [ih]
    simp only [Node.reduceAll_append, Node.reduceAll_cons, Node.reduceAll_nil, closed,
      reduceAll_captionBack regular.caption, Content.append_empty, Content.append_assoc]
  | @again level last below before todo children inner inner' head tail caption log log' other
      inside moved rest innerIh ih =>
    have regular := inside.regular_below
    have closed := reduce_close regular tail innerIh
    rw [List.nil_append, inside.head_below] at closed
    have front : Node.reduceAll .essence (captionFront settings below.caption) = .empty :=
      reduceAll_captionFront regular.caption
    rw [moved, Node.reduceAll_singleton] at front
    rw [ih]
    simp only [List.cons_append, Node.reduceAll_append, Node.reduceAll_cons, closed, front,
      Content.empty_append]

/-- **Nothing is lost, doubled or moved.** Enriching without unravelling keeps the essence of a
document. -/
theorem essence_enrich (settings : Settings) (tree : Node)
    (noUnravelling : settings.unravelParagraphs = false)
    (finished : (tree.enrich settings).failure = none) :
    (tree.enrich settings).tree.essence = tree.essence := by
  cases enabled : settings.enable with
  | false => rw [Node.enrich_of_disabled enabled]
  | true =>
    cases tree with
    | comment text tail => rw [Node.enrich_of_noElement rfl]
    | instruction text tail => rw [Node.enrich_of_noElement rfl]
    | element head children tail =>
      obtain ⟨last, children', pass, tree_eq⟩ := Node.enrich_pass enabled finished
      rw [tree_eq, Node.unravelIf, noUnravelling]
      exact Node.reduced_congr head tail pass.reduceAll_eq

/-- A paragraph with a comment and an image, and text behind each of them. -/
def illustratedParagraph : Node :=
  .around "p" [.comment "note" "before", (Node.picture "[x.png]" "^caption").withTail "behind"]

def keepingParagraphs : Settings := { Settings.default with unravelParagraphs := false }

/-- The image gets a figure with a caption and a link, and all else stays around it. -/
theorem essence_enrich_illustratedParagraph :
    keepingParagraphs.unravelParagraphs = false ∧
      (illustratedParagraph.enrich keepingParagraphs).failure = none ∧
      (illustratedParagraph.enrich keepingParagraphs).tree.essence =
        .around "p" [.comment "note" "before", Node.placeholder.withTail "behind"] := by
  have finished : (illustratedParagraph.enrich keepingParagraphs).failure = none := by
    decide +kernel
  refine ⟨rfl, finished, ?_⟩
  rw [essence_enrich keepingParagraphs illustratedParagraph rfl finished]
  rfl

end MediaMarkup

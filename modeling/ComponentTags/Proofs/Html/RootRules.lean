import ComponentTags.Html.Construction
import ComponentTags.Proofs.Html.Root

/-!
# No rule takes the root away

One lemma for each part of the rules, in the order of the rules: what it leads to from a document that holds
its root is such a document again. A rule that is one of a few operations keeps the root because these
operations do, whatever it makes of the mode. Together the lemmas say it of every mode and every token
(`Rooted.rule`), of foreign content (`Rooted.foreignRule`), and of as many rounds as there are
(`Rooted.applyIn`).
-/

namespace ComponentTags.Html

namespace Builder

variable {b : Builder} {r : NodeId} {token : Token} {mode : Mode}

/-! ## The head -/

theorem Rooted.openText (h : b.Rooted r) (t : Tag) (mode : TextMode) : (b.openText t mode).1.Rooted r :=
  h.openTag t

theorem Rooted.startInHead (h : b.Rooted r) (t : Tag) : (b.startInHead t).1.Rooted r := by
  unfold Builder.startInHead
  split
  · exact h.openText t _
  · exact h.openText t _
  · exact h.openText t _
  · exact h.openText t _
  · exact h.openText t _
  · exact h.openTag t
  · exact h.insertTag t

theorem Rooted.closeTemplate (h : b.Rooted r) : b.closeTemplate.Rooted r :=
  h.closeTag "template"

theorem Rooted.endTemplate (h : b.Rooted r) : b.endTemplate.1.Rooted r := by
  unfold Builder.endTemplate
  split
  · exact h.closeTemplate
  · exact h

theorem Rooted.initialRule (h : b.Rooted r) (token : Token) : (b.initialRule token).1.Rooted r := by
  unfold Builder.initialRule
  split
  · exact h.insertCommentAt _ _
  · split
    · exact h
    · exact h
  · exact h

theorem Rooted.beforeHtmlRule (h : b.Rooted r) (token : Token) :
    (b.beforeHtmlRule token).1.Rooted r := by
  unfold Builder.beforeHtmlRule
  dsimp only
  split
  · exact h.insertCommentAt _ _
  · split
    · exact h
    · exact (h.openRoot []).againIn _
  · split
    · exact h.openRoot _
    · exact (h.openRoot []).againIn _
  · split
    · exact (h.openRoot []).againIn _
    · exact h
  · exact (h.openRoot []).againIn _

theorem Rooted.openHead (h : b.Rooted r) (t : Tag) : (b.openHead t).Rooted r := by
  obtain ⟨hopened, hhead⟩ := h.openElement { tag := "head" } t.attributes
  exact ⟨hopened.document, hopened.opened, fun _ hnode => Option.some.inj hnode ▸ hhead⟩

theorem Rooted.beforeHeadRule (h : b.Rooted r) (token : Token) :
    (b.beforeHeadRule token).1.Rooted r := by
  have hopened : (b.openHead { name := "head" }).Rooted r := h.openHead _
  unfold Builder.beforeHeadRule
  dsimp only
  split
  · exact h.insertComment _
  · split
    · exact h
    · exact hopened
  · split
    · exact h.mergeRoot _
    · exact h.openHead _
    · exact hopened
  · split
    · exact hopened
    · exact h
  · exact hopened

theorem Rooted.inHeadRule (h : b.Rooted r) (token : Token) : (b.inHeadRule token).1.Rooted r := by
  have hclosed : (b.change List.tail).Rooted r := h.closeCurrentElement
  unfold Builder.inHeadRule
  dsimp only
  split
  · exact h.insertComment _
  · split
    · exact h.insertChar _
    · exact hclosed
  · split
    · exact h.mergeRoot _
    split
    · exact h
    split
    · exact h.startInHead _
    · exact hclosed
  · split
    · exact hclosed
    split
    · exact h.endTemplate
    split
    · exact hclosed
    · exact h
  · exact hclosed

theorem Rooted.startInClosedHead (h : b.Rooted r) (t : Tag) : (b.startInClosedHead t).1.Rooted r := by
  unfold Builder.startInClosedHead
  split
  · exact h.startInHead t
  · next node hnode =>
    -- the head is not the root, so it may be open while the rule is applied
    have hopened : (b.change (⟨node, { tag := "head" }, false⟩ :: ·)).Rooted r :=
      ⟨h.document, h.opened.cons (h.head node hnode), h.head⟩
    exact (hopened.startInHead t).remove node

theorem Rooted.afterHeadRule (h : b.Rooted r) (token : Token) : (b.afterHeadRule token).1.Rooted r := by
  have hopened : (b.openImplied "body").Rooted r := h.openImplied "body"
  unfold Builder.afterHeadRule
  dsimp only
  split
  · exact h.insertComment _
  · split
    · exact h.insertChar _
    · exact hopened
  · split
    · exact h.mergeRoot _
    split
    · exact h
    split
    · exact h.openTag _
    split
    · exact h.openTag _
    split
    · exact h.startInClosedHead _
    · exact hopened
  · split
    · exact h.endTemplate
    split
    · exact hopened
    · exact h
  · exact hopened

theorem Rooted.textRule (h : b.Rooted r) (token : Token) : (b.textRule token).1.Rooted r := by
  cases token with
  | character c => exact h.insertChar c
  | finish => exact h.closeCurrentElement.againIn _
  | endTag t => exact h.closeCurrentElement.withMode _
  | startTag _ | comment _ | doctype _ | slip => exact h

/-! ## The body -/

theorem Rooted.startForeign (h : b.Rooted r) (name : Name) (t : Tag) : (b.startForeign name t).Rooted r := by
  unfold Builder.startForeign
  dsimp only
  split
  · exact (h.insertElement name _).1
  · exact (h.openElement name _).1

theorem Rooted.endParagraph (h : b.Rooted r) : b.endParagraph.Rooted r :=
  h.change OpenElements.closeOpenParagraph_sublist

theorem Rooted.closeCurrent (h : b.Rooted r) (tag : String) : (b.closeCurrent tag).Rooted r := by
  unfold Builder.closeCurrent
  split
  · exact h.closeCurrentElement
  · exact h

theorem Rooted.closeInScope (h : b.Rooted r) (boundary : Name → Bool) (tag : String) :
    (b.closeInScope boundary tag).Rooted r := by
  unfold Builder.closeInScope
  split
  · exact h.closeTag tag
  · exact h

theorem Rooted.endItem (h : b.Rooted r) (tags : List String) : (b.endItem tags).Rooted r := by
  unfold Builder.endItem
  dsimp only
  split
  · split
    · exact h.closeTag _
    · exact h
  · exact h

theorem Rooted.insertEmpty (h : b.Rooted r) (t : Tag) : (b.insertEmpty t).Rooted r :=
  h.reopenFormatting.insertTag t

/-- The body gives way to a frameset, but not the root around it. -/
theorem Rooted.startFrameset (h : b.Rooted r) (t : Tag) : (b.startFrameset t).Rooted r := by
  unfold Builder.startFrameset
  split
  · exact h
  split
  · exact h
  · next body hbody =>
    have hbelow : Below r body := h.opened.below_of_body? hbody
    have hclosed : Rooted { b with
        document := b.document.detach body, opened := b.opened.drop (b.opened.length - 1) } r :=
      ⟨h.document.detach hbelow.2, h.opened.sublist (List.drop_sublist _ _), h.head⟩
    exact hclosed.openTag t

theorem Rooted.startSelect (h : b.Rooted r) (t : Tag) : (b.startSelect t).Rooted r :=
  h.reopenFormatting.openTag t

theorem Rooted.endForm (h : b.Rooted r) : b.endForm.Rooted r := by
  unfold Builder.endForm
  split
  · exact h.closeInScope _ _
  split
  · exact h
  · dsimp only
    split
    · exact (h.closeWhile _).remove _
    · exact h

theorem Rooted.startInBody (h : b.Rooted r) (t : Tag) : (b.startInBody t).1.Rooted r := by
  unfold Builder.startInBody
  -- what a role does is told by the role alone
  generalize StartRole.ofTag t.name = role
  cases role with
  | root => exact h.mergeRoot t
  | headContent => exact h.startInHead t
  | body =>
    dsimp only
    split
    · split
      · exact h
      · exact ⟨h.document.addAttributes _ _, h.opened, h.head⟩
    · exact h
  | frameset => exact h.startFrameset t
  | block => exact h.endParagraph.openTag t
  | heading =>
    dsimp only
    split
    · exact h.endParagraph.closeCurrentElement.openTag t
    · exact h.endParagraph.openTag t
  | preformatted => exact h.endParagraph.openTag t
  | form =>
    dsimp only
    split
    · exact h.endParagraph.openTag t
    split
    · exact h
    · exact h.endParagraph.openTag t
  | listItem => exact (h.endItem _).endParagraph.openTag t
  | definition => exact (h.endItem _).endParagraph.openTag t
  | plaintext => exact h.endParagraph.openTag t
  | button => exact (h.closeInScope _ _).reopenFormatting.openTag t
  | link => exact h.closeLink.reopenFormatting.openFormatting t
  | formatting => exact h.reopenFormatting.openFormatting t
  | nobr =>
    dsimp only
    split
    · exact (h.reopenFormatting.closeFormatting _).reopenFormatting.openFormatting t
    · exact h.reopenFormatting.openFormatting t
  | marked => exact h.reopenFormatting.openTag t
  | table =>
    dsimp only
    split
    · exact h.openTag t
    · exact h.endParagraph.openTag t
  | empty => exact h.insertEmpty t
  | input =>
    dsimp only
    split
    · exact h.reopenFormatting.insertTag t
    · exact h.insertEmpty t
  | quietEmpty => exact h.insertTag t
  | rule => exact h.endParagraph.insertTag t
  | image => exact h.insertEmpty _
  | textarea => exact h.openTag t
  | xmp => exact h.endParagraph.reopenFormatting.openTag t
  | iframe => exact h.openTag t
  | rawText => exact h.openTag t
  | select => exact h.startSelect t
  | choice => exact (h.closeCurrent _).reopenFormatting.openTag t
  | rubyBase =>
    dsimp only
    split
    · exact (h.closeWhile _).openTag t
    · exact h.openTag t
  | rubyText =>
    dsimp only
    split
    · exact (h.closeWhile _).openTag t
    · exact h.openTag t
  | foreign space => exact h.startForeign _ t
  | stray => exact h
  | other => exact h.reopenFormatting.openTag t

theorem Rooted.endInBody (h : b.Rooted r) (t : Tag) : (b.endInBody t).1.Rooted r := by
  unfold Builder.endInBody
  generalize EndRole.ofTag t.name = role
  cases role with
  | template => exact h.endTemplate
  | body =>
    dsimp only
    split
    · exact h
    · exact h
  | root =>
    dsimp only
    split
    · exact h
    · exact h
  | block => exact h.closeInScope _ _
  | form => exact h.endForm
  | paragraph =>
    dsimp only
    split
    · exact h.endParagraph
    · exact (h.openImplied _).closeCurrentElement
  | listItem => exact h.closeInScope _ _
  | definition => exact h.closeInScope _ _
  | heading =>
    dsimp only
    split
    · exact h.closeThrough _
    · exact h
  | formatting => exact h.closeFormatting _
  | marked =>
    dsimp only
    split
    · exact h.closeTag _
    · exact h
  | lineBreak => exact h.insertEmpty _
  | other => exact h.closeOther _

theorem Rooted.finishTemplate (h : b.Rooted r) : b.finishTemplate.1.Rooted r := by
  unfold Builder.finishTemplate
  split
  · exact h.closeTemplate
  · exact h

theorem Rooted.inBodyRule (h : b.Rooted r) (token : Token) : (b.inBodyRule token).1.Rooted r := by
  unfold Builder.inBodyRule
  split
  · split
    · exact h
    · dsimp only
      split
      · exact h.reopenFormatting.insertChar _
      · exact h.reopenFormatting.insertChar _
  · exact h.insertComment _
  · exact h.startInBody _
  · exact h.endInBody _
  · split
    · exact h
    · exact h.finishTemplate
  · exact h
  · exact h

/-! ## Tables -/

theorem Rooted.foster (h : b.Rooted r) (token : Token) : (b.foster token).1.Rooted r := by
  have hfostering : Rooted { b with fostering := true } r := h
  exact hfostering.inBodyRule token

theorem Rooted.clearToTable (h : b.Rooted r) : b.clearToTable.Rooted r :=
  h.closeWhile _

theorem Rooted.clearToRowHolder (h : b.Rooted r) : b.clearToRowHolder.Rooted r :=
  h.closeWhile _

theorem Rooted.clearToCellHolder (h : b.Rooted r) : b.clearToCellHolder.Rooted r :=
  h.closeWhile _

theorem Rooted.startInTable (h : b.Rooted r) (t : Tag) : (b.startInTable t).1.Rooted r := by
  unfold Builder.startInTable
  split
  · exact h.clearToTable.openTag t
  · exact h.clearToTable.openTag t
  · exact (h.clearToTable.openImplied _).againIn _
  · exact h.clearToTable.openTag t
  · exact h.clearToTable.openTag t
  · exact h.clearToTable.openTag t
  · exact (h.clearToTable.openImplied _).againIn _
  · exact (h.clearToTable.openImplied _).againIn _
  · exact (h.clearToTable.openImplied _).againIn _
  · split
    · exact h.closeTag _
    · exact h
  · exact h.startInHead t
  · exact h.startInHead t
  · exact h.startInHead t
  · split
    · exact h.insertTag t
    · exact h.foster _
  · split
    · exact h
    · exact (h.insertElement _ _).1
  · exact h.foster _

theorem Rooted.endInTable (h : b.Rooted r) (t : Tag) : (b.endInTable t).1.Rooted r := by
  unfold Builder.endInTable
  split
  · split
    · exact h.closeTag _
    · exact h
  all_goals first
    | exact h
    | exact h.endTemplate
    | exact h.foster _

theorem Rooted.inTableRule (h : b.Rooted r) (token : Token) : (b.inTableRule token).1.Rooted r := by
  unfold Builder.inTableRule
  split
  · split
    · exact h
    · exact h.foster _
  · exact h.insertComment _
  · exact h.startInTable _
  · exact h.endInTable _
  · exact h.inBodyRule _
  · exact h
  · exact h

theorem Rooted.foldl {f : Builder → Char → Builder} (hf : ∀ b c, b.Rooted r → (f b c).Rooted r)
    (h : b.Rooted r) (text : List Char) : (text.foldl f b).Rooted r := by
  induction text generalizing b with
  | nil => exact h
  | cons c text ih => exact ih (hf b c h)

theorem Rooted.placeTableText (h : b.Rooted r) : b.placeTableText.Rooted r := by
  have hread : Rooted { b with tableText := "" } r := h
  unfold Builder.placeTableText
  dsimp only
  split
  · exact hread.foldl (fun _ c hb => hb.insertChar c) _
  · exact hread.foldl (fun _ c hb => hb.foster (.character c)) _

theorem Rooted.inTableTextRule (h : b.Rooted r) (token : Token) :
    (b.inTableTextRule token).1.Rooted r := by
  unfold Builder.inTableTextRule
  split
  · split
    · exact h
    · exact h
  · exact h.placeTableText

theorem Rooted.endCaption (h : b.Rooted r) (next : Verdict) : (b.endCaption next).1.Rooted r := by
  unfold Builder.endCaption
  split
  · exact h.closeTag _
  · exact h

theorem Rooted.inCaptionRule (h : b.Rooted r) (token : Token) : (b.inCaptionRule token).1.Rooted r := by
  unfold Builder.inCaptionRule
  split
  · split
    all_goals first
      | exact h.endCaption _
      | exact h.inBodyRule _
  · split
    all_goals first
      | exact h
      | exact h.endCaption _
      | exact h.inBodyRule _
  · exact h.inBodyRule _

theorem Rooted.inColumnGroupRule (h : b.Rooted r) (token : Token) :
    (b.inColumnGroupRule token).1.Rooted r := by
  have hotherwise : (if b.opened.currentIsHtml "colgroup" then (b.change List.tail).againIn .inTable
      else b.done).1.Rooted r := by
    split
    · exact h.closeCurrentElement
    · exact h
  unfold Builder.inColumnGroupRule
  dsimp only
  split
  · split
    · exact h.insertChar _
    · exact hotherwise
  · exact h.insertComment _
  · split
    · exact h.mergeRoot _
    · exact h.insertTag _
    · exact h.startInHead _
    · exact hotherwise
  · split
    · split
      · exact h.closeCurrentElement
      · exact h
    · exact h
    · exact h.endTemplate
    · exact hotherwise
  · exact h.inBodyRule _
  · exact h
  · exact h

theorem Rooted.endTableBody (h : b.Rooted r) (next : Verdict) : (b.endTableBody next).1.Rooted r :=
  h.clearToRowHolder.closeCurrentElement

theorem Rooted.inTableBodyRule (h : b.Rooted r) (token : Token) :
    (b.inTableBodyRule token).1.Rooted r := by
  have hleave : (if OpenElements.inScope (·.isTableBoundary)
      (fun e : Entry => e.name.isOneOf ["table", "tbody", "tfoot"]) b.opened then b.endTableBody .again
      else b.done).1.Rooted r := by
    split
    · exact h.endTableBody _
    · exact h
  unfold Builder.inTableBodyRule
  dsimp only
  split
  · split
    · exact h.clearToRowHolder.openTag _
    · exact (h.clearToRowHolder.openImplied _).againIn _
    · exact (h.clearToRowHolder.openImplied _).againIn _
    iterate 6 exact hleave
    exact h.inTableRule _
  · split
    iterate 3
      split
      · exact h.endTableBody _
      · exact h
    · exact hleave
    iterate 8 exact h
    exact h.inTableRule _
  · exact h.inTableRule _

theorem Rooted.endRow (h : b.Rooted r) (next : Verdict) : (b.endRow next).1.Rooted r := by
  unfold Builder.endRow
  split
  · exact h.clearToCellHolder.closeCurrentElement
  · exact h

theorem Rooted.inRowRule (h : b.Rooted r) (token : Token) : (b.inRowRule token).1.Rooted r := by
  unfold Builder.inRowRule
  split
  · split
    iterate 2 exact h.clearToCellHolder.openTag _
    iterate 7 exact h.endRow _
    exact h.inTableRule _
  · split
    iterate 2 exact h.endRow _
    iterate 3
      split
      · exact h.endRow _
      · exact h
    iterate 7 exact h
    exact h.inTableRule _
  · exact h.inTableRule _

theorem Rooted.endCell (h : b.Rooted r) (isEnd : Name → Bool) (next : Verdict) :
    (b.endCell isEnd next).1.Rooted r :=
  h.closeThrough isEnd

theorem Rooted.inCellRule (h : b.Rooted r) (token : Token) : (b.inCellRule token).1.Rooted r := by
  unfold Builder.inCellRule
  split
  · split
    iterate 9
      split
      · exact h.endCell _ _
      · exact h
    exact h.inBodyRule _
  · split
    iterate 7
      split
      · exact h.endCell _ _
      · exact h
    iterate 5 exact h
    exact h.inBodyRule _
  · exact h.inBodyRule _

/-! ## Selection lists -/

theorem Rooted.closeGroup (h : b.Rooted r) : b.closeGroup.Rooted r :=
  (h.closeCurrent "option").closeCurrent "optgroup"

theorem Rooted.leaveSelect (h : b.Rooted r) : b.leaveSelect.1.Rooted r := by
  unfold Builder.leaveSelect
  split
  · exact h.closeTag _
  · exact h

theorem Rooted.endSelect (h : b.Rooted r) : b.endSelect.Rooted r := by
  unfold Builder.endSelect
  split
  · exact h.closeTag _
  · exact h

theorem Rooted.inSelectRule (h : b.Rooted r) (token : Token) : (b.inSelectRule token).1.Rooted r := by
  unfold Builder.inSelectRule
  split
  · split
    · exact h
    · exact h.insertChar _
  · exact h.insertComment _
  · split
    · exact h.mergeRoot _
    · exact (h.closeCurrent _).openTag _
    · exact h.closeGroup.openTag _
    · exact h.closeGroup.insertTag _
    · exact h.endSelect
    iterate 3 exact h.leaveSelect
    iterate 2 exact h.startInHead _
    exact h
  · split
    · split
      · exact h.closeCurrentElement.closeCurrent _
      · exact h.closeCurrent _
    · exact h.closeCurrent _
    · exact h.endSelect
    · exact h.endTemplate
    · exact h
  · exact h.inBodyRule _
  · exact h
  · exact h

theorem Rooted.inSelectInTableRule (h : b.Rooted r) (token : Token) :
    (b.inSelectInTableRule token).1.Rooted r := by
  unfold Builder.inSelectInTableRule
  dsimp only
  split
  · split
    · exact h.closeTag _
    · exact h.inSelectRule _
  · split
    · split
      · exact h.closeTag _
      · exact h
    · exact h.inSelectRule _
  · exact h.inSelectRule _

/-! ## Framesets and what follows the body -/

theorem Rooted.afterBodyRule (h : b.Rooted r) (token : Token) : (b.afterBodyRule token).1.Rooted r := by
  unfold Builder.afterBodyRule
  split
  · split
    · exact h.inBodyRule _
    · exact h
  · exact h.insertCommentAt _ _
  · split
    · exact h.mergeRoot _
    · exact h
  · split
    · exact h
    · exact h
  · exact h
  · exact h
  · exact h

theorem Rooted.afterAfterBodyRule (h : b.Rooted r) (token : Token) :
    (b.afterAfterBodyRule token).1.Rooted r := by
  unfold Builder.afterAfterBodyRule
  split
  · split
    · exact h.inBodyRule _
    · exact h
  · exact h.insertCommentAt _ _
  · split
    · exact h.mergeRoot _
    · exact h
  · exact h
  · exact h
  · exact h
  · exact h

theorem Rooted.endFrameset (h : b.Rooted r) : b.endFrameset.Rooted r := by
  unfold Builder.endFrameset
  split
  · exact h
  · dsimp only
    split
    · exact h.closeCurrentElement
    · exact h.closeCurrentElement

theorem Rooted.inFramesetRule (h : b.Rooted r) (token : Token) : (b.inFramesetRule token).1.Rooted r := by
  unfold Builder.inFramesetRule
  split
  · split
    · exact h.insertChar _
    · exact h
  · exact h.insertComment _
  · split
    · exact h.mergeRoot _
    · exact h.openTag _
    · exact h.insertTag _
    · exact h.startInHead _
    · exact h
  · split
    · exact h.endFrameset
    · exact h
  · exact h
  · exact h
  · exact h

theorem Rooted.afterFramesetRule (h : b.Rooted r) (token : Token) :
    (b.afterFramesetRule token).1.Rooted r := by
  unfold Builder.afterFramesetRule
  split
  · split
    · exact h.insertChar _
    · exact h
  · exact h.insertComment _
  · split
    · exact h.mergeRoot _
    · exact h.startInHead _
    · exact h
  · split
    · exact h
    · exact h
  · exact h
  · exact h
  · exact h

theorem Rooted.afterAfterFramesetRule (h : b.Rooted r) (token : Token) :
    (b.afterAfterFramesetRule token).1.Rooted r := by
  unfold Builder.afterAfterFramesetRule
  split
  · split
    · exact h.inBodyRule _
    · exact h
  · exact h.insertCommentAt _ _
  · split
    · exact h.mergeRoot _
    · exact h.startInHead _
    · exact h
  · exact h
  · exact h
  · exact h
  · exact h

/-! ## All rules -/

theorem Rooted.inTemplateRule (h : b.Rooted r) (token : Token) : (b.inTemplateRule token).1.Rooted r := by
  unfold Builder.inTemplateRule
  split
  · exact h.inBodyRule _
  · exact h.inBodyRule _
  · split
    · exact h.startInHead _
    · split
      all_goals exact h
  · split
    · exact h.endTemplate
    · exact h
  · exact h.finishTemplate
  · exact h
  · exact h

/-- The rule of a mode keeps the root, whatever the mode and the token. -/
theorem Rooted.rule (h : b.Rooted r) (mode : Mode) (token : Token) : (b.rule mode token).1.Rooted r := by
  cases mode with
  | initial => exact h.initialRule token
  | beforeHtml => exact h.beforeHtmlRule token
  | beforeHead => exact h.beforeHeadRule token
  | inHead => exact h.inHeadRule token
  | afterHead => exact h.afterHeadRule token
  | inBody => exact h.inBodyRule token
  | text => exact h.textRule token
  | inTable => exact h.inTableRule token
  | inTableText => exact h.inTableTextRule token
  | inCaption => exact h.inCaptionRule token
  | inColumnGroup => exact h.inColumnGroupRule token
  | inTableBody => exact h.inTableBodyRule token
  | inRow => exact h.inRowRule token
  | inCell => exact h.inCellRule token
  | inSelect => exact h.inSelectRule token
  | inSelectInTable => exact h.inSelectInTableRule token
  | inTemplate => exact h.inTemplateRule token
  | afterBody => exact h.afterBodyRule token
  | inFrameset => exact h.inFramesetRule token
  | afterFrameset => exact h.afterFramesetRule token
  | afterAfterBody => exact h.afterAfterBodyRule token
  | afterAfterFrameset => exact h.afterAfterFramesetRule token

theorem Rooted.breakOut (h : b.Rooted r) (token : Token) : (b.breakOut token).1.Rooted r :=
  (h.closeWhile _).rule _ token

/-- The elements that are left to look at are the outermost of those that are open. -/
theorem Rooted.endInForeign {es : OpenElements} (h : b.Rooted r) (t : Tag) (first : Bool)
    (hes : es.Sublist b.opened) : (b.endInForeign t first es).1.Rooted r := by
  fun_induction Builder.endInForeign b t first es with
  | case1 => exact h
  | case2 => exact h
  | case3 => exact h.rule _ _
  | case4 => exact ⟨h.document, h.opened.sublist ((List.sublist_cons_self _ _).trans hes), h.head⟩
  | case5 _ _ _ _ _ _ ih => exact ih ((List.sublist_cons_self _ _).trans hes)

theorem Rooted.foreignRule (h : b.Rooted r) (token : Token) : (b.foreignRule token).1.Rooted r := by
  unfold Builder.foreignRule
  split
  · split
    · exact h.insertChar _
    · split
      · exact h.insertChar _
      · exact h.insertChar _
  · exact h.insertComment _
  · split
    · exact h.breakOut _
    · exact h.startForeign _ _
  · split
    · exact h.breakOut _
    · exact h.endInForeign _ _ (List.Sublist.refl _)
  · exact h
  · exact h
  · exact h

/-! ## Rounds -/

/-- However often a token is looked at again, the root stays. -/
theorem Rooted.applyIn (h : b.Rooted r) (token : Token) (rounds : Nat) :
    (b.applyIn token rounds).1.Rooted r := by
  induction rounds generalizing b with
  | zero => exact h
  | succ rounds ih =>
    have hround : (if b.isForeign token then b.foreignRule token else b.rule b.mode token).1.Rooted r := by
      split
      · exact h.foreignRule token
      · exact h.rule b.mode token
    unfold Builder.applyIn
    generalize (if b.isForeign token then b.foreignRule token else b.rule b.mode token) = outcome at hround
    obtain ⟨after, verdict⟩ := outcome
    cases verdict with
    | done => exact hround
    | again => exact ih hround
    | text mode => exact hround

end Builder

end ComponentTags.Html

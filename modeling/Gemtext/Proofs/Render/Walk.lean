import Gemtext.Convert
import Gemtext.Proofs.Markdown.Shape

/-!
# The walk over a tree, call by call

`Node.renderIn` and the functions beside it are written in a monad that may fail.  Here they are
taken apart: `Yields` says what a step answers and which state it leaves, and a node is rendered in
one of four ways (`Node.Rendered`): by one call, as a container that closes over the contents of
its children, as a list, or as a table.
-/

namespace Gemtext

/-! ## Steps that end without error -/

section

variable {σ α β : Type}

/-- From state `s` the step ends with the answer `a` and in state `s'`. -/
def Yields (x : Rendering σ α) (s : σ) (a : α) (s' : σ) : Prop :=
  x.run s = (.ok a, s')

variable {s s' : σ} {a : α}

/-- What is returned is the answer, and the state stays. -/
@[simp]
theorem yields_pure {b : α} : Yields (pure b : Rendering σ α) s a s' ↔ a = b ∧ s' = s := by
  have hrun : (pure b : Rendering σ α).run s = (.ok b, s) := rfl
  rw [Yields, hrun, Prod.mk.injEq, Except.ok.injEq]
  exact and_congr eq_comm eq_comm

/-- A call does not fail. -/
@[simp]
theorem yields_liftM {call : StateM σ α} :
    Yields (liftM call : Rendering σ α) s a s' ↔ call s = (a, s') := by
  have hrun : (liftM call : Rendering σ α).run s = (.ok (call s).1, (call s).2) := rfl
  rw [Yields, hrun, Prod.mk.injEq, Except.ok.injEq, Prod.ext_iff]

@[simp]
theorem yields_mk {call : StateM σ (Except TableError α)} :
    Yields (ExceptT.mk call) s a s' ↔ call s = (.ok a, s') := Iff.rfl

/-- The state that the step leaves. -/
theorem Yields.state {x : Rendering σ α} (h : Yields x s a s') : (x.run s).2 = s' := by
  rw [h]

/-- A step ends if its first part does, and the second one from there. -/
theorem yields_bind {x : Rendering σ α} {f : α → Rendering σ β} {b : β} {s'' : σ} :
    Yields (x >>= f) s b s'' ↔ ∃ a s', Yields x s a s' ∧ Yields (f a) s' b s'' := by
  have hbind : (x >>= f).run s = ExceptT.bindCont f (x.run s).1 (x.run s).2 := rfl
  rw [Yields, hbind]
  constructor
  · intro h
    cases hx : x.run s with
    | mk answer s' =>
      rw [hx] at h
      -- an error of the first part is one of the whole
      cases answer with
      | ok a => exact ⟨a, s', hx, h⟩
      | error cause => cases h
  · rintro ⟨a, s', hx, hf⟩
    rw [Yields] at hx
    rw [hx]
    exact hf

/-- So the whole goes on as its second part from there. -/
theorem Yields.run_bind {x : Rendering σ α} (h : Yields x s a s') (f : α → Rendering σ β) :
    (x >>= f).run s = (f a).run s' := by
  have hbind : (x >>= f).run s = ExceptT.bindCont f (x.run s).1 (x.run s).2 := rfl
  rw [hbind, h]
  rfl

/-- Behind an error nothing is done. -/
theorem run_bind_of_error {x : Rendering σ α} {cause : TableError}
    (h : x.run s = (.error cause, s')) (f : α → Rendering σ β) :
    (x >>= f).run s = (.error cause, s') := by
  have hbind : (x >>= f).run s = ExceptT.bindCont f (x.run s).1 (x.run s).2 := rfl
  rw [hbind, h]
  rfl

end

namespace Markdown

namespace Node

variable {σ : Type}

/-! ## The calls of a node -/

/-- The call for a node that is not made of the contents of its children. -/
def leafCall? (r : Renderer σ) (kind : NodeKind) (children : List Node) :
    Option (StateM σ Content) :=
  match kind with
  | .frontMatter _ => some (pure [])
  | .thematicBreak => some r.thematicBreak
  | .codeBlock info literal =>
    some (r.codeBlock literal (if info.isEmpty then none else some info))
  | .htmlBlock literal => some (r.htmlBlock literal)
  | .text text => some (r.text text)
  | .softBreak => some r.softBreak
  | .lineBreak => some r.lineBreak
  | .code literal => some (r.code literal)
  | .htmlInline literal => some (r.htmlInline literal)
  | .image url => some (r.image url (innerTexts children))
  | _ => none

/-- What is called before the children of a container. -/
def openCall (r : Renderer σ) (kind : NodeKind) : StateM σ Unit :=
  match kind with
  | .heading _ => r.enterHeading
  | _ => pure ()

/-- What is called with the contents of the children of a container; some containers are nothing
but these contents. -/
def closeCall (r : Renderer σ) (tight : Bool) (kind : NodeKind) (children : List Node)
    (content : Content) : StateM σ Content :=
  match kind with
  | .paragraph => if tight then r.blockText content else r.paragraph content
  | .heading depth => r.heading content depth
  | .blockQuote => r.blockQuote content
  | .emphasis => r.emphasis content
  | .strong => r.strong content
  | .link url => r.link url content (innerTexts children)
  | _ => pure content

/-- What is called for an item of a list. -/
def itemCall (r : Renderer σ) (kind : NodeKind) (content : Content) (level : Nat) :
    StateM σ Content :=
  match kind with
  | .taskItem symbol => r.taskListItem content level symbol.isSome
  | _ => r.listItem content level

/-- What is called for a row of a table. -/
def rowCall (r : Renderer σ) (kind : NodeKind) (cells : Content) : StateM σ Content :=
  if kind = .tableRow true then r.tableHead cells else r.tableRow cells

/-- Whether nodes of the kind close over the contents of their children. -/
def isContainer (kind : NodeKind) : Bool :=
  match kind with
  | .document | .paragraph | .heading _ | .blockQuote | .item | .taskItem _ | .tableRow _
  | .tableCell | .emphasis | .strong | .strikethrough | .superscript | .link _ => true
  | _ => false

/-- There are four kinds of nodes. -/
theorem kind_cases (r : Renderer σ) (kind : NodeKind) (children : List Node) :
    (∃ call, leafCall? r kind children = some call) ∨ isContainer kind ∨
      (∃ shape, kind = .list shape) ∨ ∃ alignments, kind = .table alignments := by
  cases kind <;> simp [leafCall?, isContainer]

section

variable {r : Renderer σ} {tight : Bool} {level : Nat} {kind : NodeKind} {children : List Node}

/-- A node that is not made of the contents of its children is one call. -/
theorem renderIn_leaf {call : StateM σ Content} (h : leafCall? r kind children = some call) :
    renderIn r tight level (mk kind children) = liftM call := by
  cases kind <;> cases h <;> rfl

/-- A document is nothing but its blocks. -/
theorem renderIn_document :
    renderIn r tight level (mk .document children) = renderAll r level children := by
  simp [renderIn]

/-- A container is rendered between two calls. -/
theorem renderIn_container (h : isContainer kind) :
    renderIn r tight level (mk kind children) = (do
      liftM (openCall r kind)
      let content ← renderAll r level children
      liftM (closeCall r tight kind children content)) := by
  cases kind with
  | paragraph => cases tight <;> simp [renderIn, openCall, closeCall]
  | document | heading | blockQuote | item | taskItem | tableRow | tableCell | emphasis | strong
    | strikethrough | superscript | link => simp [renderIn, openCall, closeCall]
  | _ => cases h

theorem renderItems_cons {items : List Node} :
    renderItems r tight level (mk kind children :: items) = (do
      let parts ← renderItemParts r tight level children
      let content ← liftM (itemCall r kind parts.content level)
      let entries ← renderItems r tight level items
      pure (⟨content, parts.nested⟩ :: entries)) := by
  rw [renderItems]
  cases kind <;> rfl

theorem renderRows_cons {alignments : List Alignment} {rows : List Node} :
    renderRows r alignments level (mk kind children :: rows) = (do
      let cells ← renderCells r (kind = .tableRow true) alignments level children
      let row ← liftM (rowCall r kind cells)
      let others ← renderRows r alignments level rows
      pure (row ++ others)) := by
  simp only [renderRows, rowCall]
  split <;> rfl

/-! ## What an answer comes from -/

variable {s s' : σ} {content : Content}

/-- The four ways in which a node is rendered. -/
inductive Rendered (r : Renderer σ) (tight : Bool) (level : Nat) (kind : NodeKind)
    (children : List Node) (s : σ) (content : Content) (s' : σ) : Prop
  | leaf {call : StateM σ Content} (hkind : leafCall? r kind children = some call)
    (hcall : call s = (content, s'))
  | container {inner : Content} {between : σ} (hkind : isContainer kind)
    (hchildren : Yields (renderAll r level children) (openCall r kind s).2 inner between)
    (hcall : closeCall r tight kind children inner between = (content, s'))
  | list {shape : ListShape} {entries : List ListEntry} {between : σ}
    (hkind : kind = .list shape)
    (hitems : Yields (renderItems r shape.tight (level + 1) children) s entries between)
    (hcall : r.list entries shape.ordered (level + 1) shape.start between = (content, s'))
  | table {alignments : List ColumnAlignment} {rows drawn : Content} {between : σ}
    (hkind : kind = .table alignments)
    (hrows : Yields
      (renderRows r (alignments.map ColumnAlignment.toAlignment) level children) s rows between)
    (hcall : r.table between = (.ok drawn, s')) (hcontent : content = rows ++ drawn)

/-- A node that is rendered is rendered in one of the four ways. -/
theorem rendered_of_yields (h : Yields (renderIn r tight level (mk kind children)) s content s') :
    Rendered r tight level kind children s content s' := by
  by_cases hcontainer : isContainer kind
  · rw [renderIn_container hcontainer] at h
    simp only [yields_bind, yields_liftM] at h
    obtain ⟨_, opened, hopen, inner, between, hchildren, hcall⟩ := h
    rw [show opened = (openCall r kind s).2 by rw [hopen]] at hchildren
    exact .container hcontainer hchildren hcall
  · -- the other nodes are lists, tables and what is one call
    cases kind with
    | list shape =>
      rw [renderIn, yields_bind] at h
      obtain ⟨entries, between, hitems, hcall⟩ := h
      exact .list rfl hitems (yields_liftM.1 hcall)
    | table alignments =>
      simp only [renderIn, yields_bind, yields_mk, yields_pure] at h
      obtain ⟨rows, between, hrows, drawn, _, hcall, hcontent, rfl⟩ := h
      exact .table rfl hrows hcall hcontent
    | document | paragraph | heading | blockQuote | item | taskItem | tableRow | tableCell
      | emphasis | strong | strikethrough | superscript | link => exact absurd rfl hcontainer
    | _ =>
      rw [renderIn_leaf rfl, yields_liftM] at h
      exact .leaf rfl h

/-- Rows that are kept for later write nothing, so a table is what its last call answers. -/
theorem run_renderIn_table (tight : Bool) {columns : List ColumnAlignment} {rows : List Node}
    (h : Yields (renderRows r (columns.map ColumnAlignment.toAlignment) level rows) s [] s') :
    (renderIn r tight level (mk (.table columns) rows)).run s = r.table s' := by
  rw [renderIn, h.run_bind]
  simp only [List.nil_append, bind_pure]
  rfl

@[simp]
theorem yields_renderAll_nil :
    Yields (renderAll r level []) s content s' ↔ content = [] ∧ s' = s := by
  rw [renderAll, yields_pure]

/-- The nodes are rendered in order, each from where the one before it ended. -/
theorem yields_renderAll_cons {node : Node} {nodes : List Node} :
    Yields (renderAll r level (node :: nodes)) s content s' ↔
      ∃ first s₁, Yields (renderIn r false level node) s first s₁ ∧
        ∃ others, Yields (renderAll r level nodes) s₁ others s' ∧ content = first ++ others := by
  simp only [renderAll, yields_bind, yields_pure]
  simp

/-- Nodes in a row are rendered one after the other. -/
theorem yields_renderAll_append {xs ys : List Node} {others : Content} {s'' : σ}
    (hx : Yields (renderAll r level xs) s content s')
    (hy : Yields (renderAll r level ys) s' others s'') :
    Yields (renderAll r level (xs ++ ys)) s (content ++ others) s'' := by
  induction xs generalizing s content with
  | nil =>
    obtain ⟨rfl, rfl⟩ := yields_renderAll_nil.1 hx
    exact hy
  | cons x xs ih =>
    obtain ⟨first, s₁, hfirst, more, hmore, rfl⟩ := yields_renderAll_cons.1 hx
    exact yields_renderAll_cons.2
      ⟨first, s₁, hfirst, more ++ others, ih hmore, List.append_assoc ..⟩

@[simp]
theorem yields_renderItems_nil {entries : List ListEntry} :
    Yields (renderItems r tight level []) s entries s' ↔ entries = [] ∧ s' = s := by
  rw [renderItems, yields_pure]

/-- An item is rendered from its children, and then the items behind it. -/
theorem yields_renderItems_cons {items : List Node} {entries : List ListEntry} :
    Yields (renderItems r tight level (mk kind children :: items)) s entries s' ↔
      ∃ parts s₁, Yields (renderItemParts r tight level children) s parts s₁ ∧
        ∃ content s₂, itemCall r kind parts.content level s₁ = (content, s₂) ∧
          ∃ others, Yields (renderItems r tight level items) s₂ others s' ∧
            entries = ⟨content, parts.nested⟩ :: others := by
  simp only [renderItems_cons, yields_bind, yields_liftM, yields_pure]
  simp

@[simp]
theorem yields_renderItemParts_nil {parts : ListEntry} :
    Yields (renderItemParts r tight level []) s parts s' ↔ parts = ⟨[], []⟩ ∧ s' = s := by
  rw [renderItemParts, yields_pure]

/-- The content of a child of an item, put before that of the other children. -/
def addPart (node : Node) (content : Content) (others : ListEntry) : ListEntry :=
  if node.isList then ⟨others.content, content ++ others.nested⟩
  else ⟨content ++ others.content, others.nested⟩

/-- The children of an item are rendered in order. -/
theorem yields_renderItemParts_cons {node : Node} {nodes : List Node} {parts : ListEntry} :
    Yields (renderItemParts r tight level (node :: nodes)) s parts s' ↔
      ∃ content s₁, Yields (renderIn r tight level node) s content s₁ ∧
        ∃ others, Yields (renderItemParts r tight level nodes) s₁ others s' ∧
          parts = addPart node content others := by
  cases hlist : node.isList <;>
  · simp only [renderItemParts, addPart, hlist, yields_bind, if_true, if_false,
      Bool.false_eq_true, yields_pure]
    simp

@[simp]
theorem yields_renderRows_nil {alignments : List Alignment} :
    Yields (renderRows r alignments level []) s content s' ↔ content = [] ∧ s' = s := by
  rw [renderRows, yields_pure]

/-- A row is rendered from its cells, and then the rows behind it. -/
theorem yields_renderRows_cons {alignments : List Alignment} {rows : List Node} :
    Yields (renderRows r alignments level (mk kind children :: rows)) s content s' ↔
      ∃ cells s₁,
        Yields (renderCells r (kind = .tableRow true) alignments level children) s cells s₁ ∧
        ∃ row s₂, rowCall r kind cells s₁ = (row, s₂) ∧
          ∃ others, Yields (renderRows r alignments level rows) s₂ others s' ∧
            content = row ++ others := by
  simp only [renderRows_cons, yields_bind, yields_liftM, yields_pure]
  simp

@[simp]
theorem yields_renderCells_nil {isHead : Bool} {alignments : List Alignment} :
    Yields (renderCells r isHead alignments level []) s content s' ↔ content = [] ∧ s' = s := by
  rw [renderCells, yields_pure]

/-- A cell is rendered from its children, and then the cells behind it. -/
theorem yields_renderCells_cons {isHead : Bool} {alignments : List Alignment} {cells : List Node} :
    Yields (renderCells r isHead alignments level (mk kind children :: cells)) s content s' ↔
      ∃ inner s₁, Yields (renderAll r level children) s inner s₁ ∧
        ∃ cell s₂, r.tableCell inner (alignments.headD .left) isHead s₁ = (cell, s₂) ∧
          ∃ others, Yields (renderCells r isHead alignments.tail level cells) s₂ others s' ∧
            content = cell ++ others := by
  simp only [renderCells, yields_bind, yields_liftM, yields_pure]
  simp

/-! What stands behind the first item, row or cell goes on from the state that it leaves. -/

/-- One item leaves what its call leaves. -/
theorem state_renderItems_one {parts : ListEntry}
    (h : Yields (renderItemParts r tight level children) s parts s') :
    ((renderItems r tight level [mk kind children]).run s).2 =
      (itemCall r kind parts.content level s').2 :=
  (yields_renderItems_cons.2
    ⟨parts, s', h, _, _, rfl, [], yields_renderItems_nil.2 ⟨rfl, rfl⟩, rfl⟩).state

/-- One row leaves what its call leaves. -/
theorem state_renderRows_one {alignments : List Alignment}
    (h : Yields (renderCells r (kind = .tableRow true) alignments level children) s content s') :
    ((renderRows r alignments level [mk kind children]).run s).2 = (rowCall r kind content s').2 :=
  (yields_renderRows_cons.2
    ⟨content, s', h, _, _, rfl, [], yields_renderRows_nil.2 ⟨rfl, rfl⟩, rfl⟩).state

/-- One cell leaves what its call leaves. -/
theorem state_renderCells_one {isHead : Bool} {alignments : List Alignment}
    (h : Yields (renderAll r level children) s content s') :
    ((renderCells r isHead alignments level [mk kind children]).run s).2 =
      (r.tableCell content (alignments.headD .left) isHead s').2 :=
  (yields_renderCells_cons.2
    ⟨content, s', h, _, _, rfl, [], yields_renderCells_nil.2 ⟨rfl, rfl⟩, rfl⟩).state

end

end Node

end Markdown

/-- A rendered tree: what the walk answers from the first state, and what is handed out at the
end. -/
theorem renderTree_eq_ok {c : Conversion} {level : Nat} {tree : Markdown.Node} {r : Rendition} :
    renderTree c level tree = .ok r ↔
      ∃ s, Yields (tree.renderIn (gemtextRenderer c) false level) .initial r.body s ∧
        r.trailing = (Render.finish c s).1 ∧ r.footnoteCount = s.footnotes.counter := by
  constructor
  · intro h
    cases hrun : (tree.render (gemtextRenderer c) level).run RenderState.initial with
    | mk result state =>
      rw [renderTree, hrun] at h
      -- only the walk can fail; what comes behind it hands out the footnotes
      cases result with
      | error cause => cases h
      | ok body =>
        cases h
        exact ⟨state, hrun, rfl, rfl⟩
  · rintro ⟨s, hbody, htrailing, hcount⟩
    have hrun : (tree.render (gemtextRenderer c) level).run RenderState.initial = (.ok r.body, s) :=
      hbody
    rw [renderTree, hrun]
    dsimp only
    rw [← htrailing, ← hcount]

end Gemtext

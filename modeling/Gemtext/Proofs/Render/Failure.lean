import Gemtext.Standard.Library
import Gemtext.Proofs.Render.Grids

/-!
# When rendering fails

`Markdown.Node.gridsIn` follows a walk and lists the texts of the tables, in the order of the
document.  A step fails at the first table that exceeds the limit, with that table as the cause, and
if none does it ends without error (`FailsAtFirst`).  So a tree is rendered just if there is no
limit or all of its tables keep to it (`renderTree_eq_error`), and nothing else can go wrong.
-/

namespace Gemtext

/-! ## Tables in a tree -/

namespace Markdown

namespace Node

/-- Whether the node, if it is a table, has a header with a cell and rows below it, and no table
within a cell. -/
def fitsTable : Node → Bool
  | mk kind children =>
    match kind, children with
    | .table _, [] => false
    | .table _, head :: rows =>
      head.kind = .tableRow true && !head.children.isEmpty && head.children.all tableFree &&
        rows.all fun row => row.kind = .tableRow false && row.children.all tableFree
    | _, _ => true

/-- A table fits if its header has a cell, rows stand below it, and no cell holds a table. -/
theorem fitsTable_cons {columns : List ColumnAlignment} {head : Node} {rows : List Node} :
    fitsTable (mk (.table columns) (head :: rows)) ↔
      head.kind = .tableRow true ∧ head.children ≠ [] ∧ head.children.all tableFree ∧
        ∀ row ∈ rows, row.kind = .tableRow false ∧ row.children.all tableFree := by
  simp only [fitsTable, Bool.and_eq_true, Bool.not_eq_true', List.isEmpty_eq_false_iff,
    decide_eq_true_eq, List.all_eq_true, and_assoc]

/-- Whether all tables of the tree have a header with a cell and rows below it, and no table within
a cell. -/
def fitsTables (tree : Node) : Bool :=
  everywhere fitsTable tree

mutual

/-- The texts of the tables of a node that is rendered from the state `s`. -/
def gridsIn (c : Conversion) (level : Nat) (s : RenderState) : Node → List Grid
  | mk kind children =>
    match kind with
    | .list shape => gridsItems c shape.tight (level + 1) s children
    | .table alignments =>
      [.ofRows (gridRows c (alignments.map ColumnAlignment.toAlignment) level s children)]
    | _ =>
      if isContainer kind then gridsAll c level (openCall (gemtextRenderer c) kind s).2 children
      else []

/-- The texts of the tables of nodes one after the other. -/
def gridsAll (c : Conversion) (level : Nat) (s : RenderState) : List Node → List Grid
  | [] => []
  | node :: nodes =>
    let s' := ((renderIn (gemtextRenderer c) false level node).run s).2
    gridsIn c level s node ++ gridsAll c level s' nodes

/-- The texts of the tables of the items of a list. -/
def gridsItems (c : Conversion) (tight : Bool) (level : Nat) (s : RenderState) :
    List Node → List Grid
  | [] => []
  | mk _ children :: items =>
    let s' := ((renderItemParts (gemtextRenderer c) tight level children).run s).2
    gridsItemParts c tight level s children ++ gridsItems c tight level s' items

/-- The texts of the tables of the children of an item. -/
def gridsItemParts (c : Conversion) (tight : Bool) (level : Nat) (s : RenderState) :
    List Node → List Grid
  | [] => []
  | node :: nodes =>
    let s' := ((renderIn (gemtextRenderer c) tight level node).run s).2
    gridsIn c level s node ++ gridsItemParts c tight level s' nodes

end

section

variable {c : Conversion} {level : Nat} {s : RenderState} {kind : NodeKind} {children : List Node}

/-- What has no children holds no table. -/
theorem gridsIn_leaf {call : StateM RenderState Content}
    (h : leafCall? (gemtextRenderer c) kind children = some call) :
    gridsIn c level s (mk kind children) = [] := by
  cases kind <;> cases h <;> simp [gridsIn, isContainer]

/-- The tables of a container are those of its children. -/
theorem gridsIn_container (h : isContainer kind) :
    gridsIn c level s (mk kind children) =
      gridsAll c level (openCall (gemtextRenderer c) kind s).2 children := by
  cases kind <;> simp_all [gridsIn, isContainer]

end

/-- The texts of the tables of a tree, in the order of the document. -/
def grids (c : Conversion) (level : Nat) (tree : Node) : List Grid :=
  gridsIn c level .initial tree

end Node

end Markdown

/-! ## Steps that fail at a table -/

/-- The step fails at the first of the grids that exceeds the limit; if there is none, it ends
without error, and no row of a table is being gathered then. -/
def FailsAtFirst {α : Type} (c : Conversion) (grids : List Grid) (x : Rendering RenderState α)
    (s : RenderState) : Prop :=
  match grids.find? (·.exceeds c) with
  | some g => ∃ s', x.run s = (.error (g.cause c), s')
  | none => ∃ a s', Yields x s a s' ∧ s'.alignments = []

namespace FailsAtFirst

variable {α β : Type} {c : Conversion} {grids others : List Grid} {s : RenderState}

/-- What a step answers and which state it leaves decides. -/
theorem of_run_eq {x y : Rendering RenderState α} {s' : RenderState} (h : x.run s = y.run s')
    (hy : FailsAtFirst c grids y s') : FailsAtFirst c grids x s := by
  unfold FailsAtFirst Yields at hy ⊢
  rwa [h]

/-- What is returned at once does not fail. -/
theorem of_pure (a : α) (hs : s.alignments = []) : FailsAtFirst c [] (pure a) s :=
  ⟨a, s, yields_pure.2 ⟨rfl, rfl⟩, hs⟩

/-- Nor does a call that only changes the state. -/
theorem of_call {call : StateM RenderState α} (hs : (call s).2.alignments = []) :
    FailsAtFirst c [] (liftM call) s :=
  ⟨(call s).1, (call s).2, yields_liftM.2 rfl, hs⟩

/-- Of two steps, the second one is made if the first one ends without error. -/
theorem bind {x : Rendering RenderState α} {f : α → Rendering RenderState β}
    (hx : FailsAtFirst c grids x s)
    (hf : ∀ a, (x.run s).2.alignments = [] → FailsAtFirst c others (f a) (x.run s).2) :
    FailsAtFirst c (grids ++ others) (x >>= f) s := by
  unfold FailsAtFirst at hx
  -- the first step fails, or the second one goes on from where it ended
  cases hfirst : grids.find? (·.exceeds c) with
  | some g =>
    rw [hfirst] at hx
    obtain ⟨s', hx⟩ := hx
    rw [FailsAtFirst, List.find?_append, hfirst]
    exact ⟨s', run_bind_of_error hx f⟩
  | none =>
    rw [hfirst] at hx
    obtain ⟨a, s', hx, hs'⟩ := hx
    rw [hx.state] at hf
    have hrest : FailsAtFirst c others (x >>= f) s := (hf a hs').of_run_eq (hx.run_bind f)
    rwa [FailsAtFirst, List.find?_append, hfirst, Option.none_or]

/-- A call before a step. -/
theorem call_bind {call : StateM RenderState α} {f : α → Rendering RenderState β}
    (hf : FailsAtFirst c grids (f (call s).1) (call s).2) :
    FailsAtFirst c grids (liftM call >>= f) s :=
  hf.of_run_eq (Yields.run_bind (yields_liftM.2 rfl) f)

/-- A step that cannot fail, behind another one. -/
theorem bind_of_nil {x : Rendering RenderState α} {f : α → Rendering RenderState β}
    (hx : FailsAtFirst c grids x s)
    (hf : ∀ a, (x.run s).2.alignments = [] → FailsAtFirst c [] (f a) (x.run s).2) :
    FailsAtFirst c grids (x >>= f) s := by
  rw [← List.append_nil grids]
  exact hx.bind hf

end FailsAtFirst

namespace Render

open Markdown Node

variable {c : Conversion} {s : RenderState}

/-- Opening a node gathers no row. -/
theorem alignments_openCall (kind : NodeKind) (hs : s.alignments = []) :
    (openCall (gemtextRenderer c) kind s).2.alignments = [] :=
  (sameTable_openCall c s kind).alignments.trans hs

/-- Nor does closing it. -/
theorem alignments_closeCall (tight : Bool) (kind : NodeKind) (children : List Node)
    (content : Content) (hs : s.alignments = []) :
    (closeCall (gemtextRenderer c) tight kind children content s).2.alignments = [] :=
  (sameTable_closeCall c s tight kind children content).alignments.trans hs

/-- A table that cannot be drawn ends the rendering with its error. -/
theorem table_of_draw_eq_error {t : Table} {cause : TableError} (ht : s.table = some t)
    (hdraw : t.draw = .error cause) : table c s = (.error cause, { s with table := none }) := by
  simp [table, ht, hdraw]

/-- A table that is drawn stands before its link lines. -/
theorem table_of_draw_eq_ok {t : Table} {drawn : Text} (ht : s.table = some t)
    (hdraw : t.draw = .ok drawn) :
    table c s =
      (.ok (drawnTable c drawn s.tableLinks), { s with table := none, tableLinks := [] }) := by
  simp only [table, ht, hdraw, drawnTable]

/-- A table fails if it exceeds the limit, after its rows are rendered. -/
theorem failsAtFirst_table {tight : Bool} {level : Nat} {alignments : List ColumnAlignment}
    {children : List Node} (hfits : fitsTable (mk (.table alignments) children))
    (hs : s.alignments = []) :
    FailsAtFirst c (gridsIn c level s (mk (.table alignments) children))
      (renderIn (gemtextRenderer c) tight level (mk (.table alignments) children)) s := by
  cases children with
  | nil => cases hfits
  | cons head rows =>
    obtain ⟨hhead, hcells, hfree, hrows⟩ := fitsTable_cons.1 hfits
    obtain ⟨glyphs, s₁, -, hyields, hempty, htable, -⟩ := exists_yields_header_renderRows (c := c)
      (alignments.map ColumnAlignment.toAlignment) level hhead hfree hrows hs
    have hheader : (Grid.ofRows (gridRows c (alignments.map ColumnAlignment.toAlignment) level s
        (head :: rows))).header ≠ [] := by
      refine List.ne_nil_of_length_pos ?_
      rw [gridRows, Grid.ofRows, length_rowTexts]
      exact List.length_pos_iff.2 hcells
    rw [gridsIn, FailsAtFirst, List.find?_singleton]
    -- the table that was gathered holds the texts of the grid, and only drawing it can fail
    generalize hgrid : Grid.ofRows (gridRows c (alignments.map ColumnAlignment.toAlignment) level s
      (head :: rows)) = g at hheader htable
    have ht : (g.toTable c glyphs (columnAlignments
        (alignments.map ColumnAlignment.toAlignment) head.children.length)).Gathers c g :=
      g.gathers_toTable
    generalize g.toTable c glyphs _ = t at ht htable
    have hrun := run_renderIn_table tight hyields
    cases hdraw : t.draw with
    | error cause =>
      obtain ⟨hexceeds, rfl⟩ := (ht.draw_eq_error hheader).1 hdraw
      rw [if_pos hexceeds]
      exact ⟨_, hrun.trans (table_of_draw_eq_error htable hdraw)⟩
    | ok drawn =>
      have hwithin : ¬g.exceeds c := by
        intro hexceeds
        have herror := (ht.draw_eq_error hheader).2 ⟨hexceeds, rfl⟩
        rw [hdraw] at herror
        cases herror
      rw [if_neg hwithin]
      exact ⟨_, _, hrun.trans (table_of_draw_eq_ok htable hdraw), hempty⟩

mutual

/-- A node fails at the first of its tables that exceeds the limit. -/
theorem failsAtFirst_renderIn {tight : Bool} {level : Nat} {node : Node}
    {s : RenderState} (hfits : node.fitsTables) (hs : s.alignments = []) :
    FailsAtFirst c (gridsIn c level s node)
      (renderIn (gemtextRenderer c) tight level node) s := by
  obtain ⟨kind, children⟩ := node
  obtain ⟨htable, hchildren⟩ := everywhere_mk.1 hfits
  rw [everywhereAll_eq_all] at hchildren
  -- the state that the children begin with is the one that `gridsIn` goes on from
  rcases kind_cases (gemtextRenderer c) kind children with
    ⟨call, hleaf⟩ | hcontainer | ⟨shape, rfl⟩ | ⟨alignments, rfl⟩
  · -- a node without children holds no table
    rw [renderIn_leaf hleaf, gridsIn_leaf hleaf]
    exact .of_call (by rw [state_leafCall hleaf, hs])
  · -- opening and closing change the state, but gather no row
    rw [renderIn_container hcontainer, gridsIn_container hcontainer]
    refine .call_bind (.bind_of_nil
      (failsAtFirst_renderAll hchildren (alignments_openCall kind hs)) fun content hempty => ?_)
    exact .of_call (alignments_closeCall tight kind children content hempty)
  · -- a list has the tables of its items
    rw [renderIn, gridsIn]
    exact .bind_of_nil (failsAtFirst_renderItems hchildren hs) fun entries hempty => .of_call hempty
  · -- only a table can fail by itself
    exact failsAtFirst_table htable hs

/-- Nodes one after the other fail at the first table that exceeds the limit. -/
theorem failsAtFirst_renderAll {level : Nat} {nodes : List Node}
    {s : RenderState} (hfits : nodes.all fitsTables) (hs : s.alignments = []) :
    FailsAtFirst c (gridsAll c level s nodes)
      (renderAll (gemtextRenderer c) level nodes) s := by
  cases nodes with
  | nil =>
    rw [renderAll, gridsAll]
    exact .of_pure _ hs
  | cons node nodes =>
    rw [List.all_cons, Bool.and_eq_true] at hfits
    rw [renderAll, gridsAll]
    refine .bind (failsAtFirst_renderIn hfits.1 hs) fun content hempty => ?_
    exact .bind_of_nil (failsAtFirst_renderAll hfits.2 hempty) fun others => .of_pure _

/-- So do the items of a list. -/
theorem failsAtFirst_renderItems {tight : Bool} {level : Nat} {items : List Node}
    {s : RenderState} (hfits : items.all fitsTables) (hs : s.alignments = []) :
    FailsAtFirst c (gridsItems c tight level s items)
      (renderItems (gemtextRenderer c) tight level items) s := by
  cases items with
  | nil =>
    rw [renderItems, gridsItems]
    exact .of_pure _ hs
  | cons item items =>
    obtain ⟨kind, children⟩ := item
    rw [List.all_cons, Bool.and_eq_true] at hfits
    have hchildren := (everywhere_mk.1 hfits.1).2
    rw [everywhereAll_eq_all] at hchildren
    rw [renderItems_cons, gridsItems]
    -- the children come first, then the items behind
    refine .bind (failsAtFirst_renderItemParts hchildren hs) fun parts hempty => ?_
    refine .call_bind ?_
    rw [state_itemCall]
    exact .bind_of_nil (failsAtFirst_renderItems hfits.2 hempty) fun entries => .of_pure _

/-- So do the children of an item. -/
theorem failsAtFirst_renderItemParts {tight : Bool} {level : Nat} {nodes : List Node}
    {s : RenderState} (hfits : nodes.all fitsTables) (hs : s.alignments = []) :
    FailsAtFirst c (gridsItemParts c tight level s nodes)
      (renderItemParts (gemtextRenderer c) tight level nodes) s := by
  cases nodes with
  | nil =>
    rw [renderItemParts, gridsItemParts]
    exact .of_pure _ hs
  | cons node nodes =>
    rw [List.all_cons, Bool.and_eq_true] at hfits
    rw [renderItemParts, gridsItemParts]
    refine .bind (failsAtFirst_renderIn hfits.1 hs) fun content hempty => ?_
    refine .bind_of_nil (failsAtFirst_renderItemParts hfits.2 hempty) fun others hempty => ?_
    split <;> exact .of_pure _ hempty

end

end Render

/-! ## The tree -/

/-- With a limit, a table exceeds it if it needs more; without one, no table does. -/
theorem find?_exceeds (c : Conversion) (grids : List Grid) :
    grids.find? (·.exceeds c) =
      if 0 < c.maxTableWidth then grids.find? fun g =>
        c.maxTableWidth < 3 * (g.header.length - 1) + 4 + min g.header.length (g.need c.measure)
      else none := by
  split
  · rename_i hlimit
    congr 1
    funext g
    rw [Grid.exceeds, decide_eq_true hlimit, Bool.true_and, Grid.leastWidth, Grid.decoration]
  · rename_i hlimit
    exact List.find?_eq_none.2 fun g _ => by simp [Grid.exceeds, hlimit]

/-- Rendering fails just if there is a limit and a table cannot be drawn within it: its rules and
the spaces beside them, with one place for each column or what all columns need, take more.  The
error is that of the first such table of the document, and there is no other error. -/
theorem renderTree_eq_error {c : Conversion} {level : Nat} {tree : Markdown.Node}
    (hshape : tree.fitsTables) {cause : ConvertError} :
    renderTree c level tree = .error cause ↔
      0 < c.maxTableWidth ∧
        ∃ g, (tree.grids c level).find? (fun g =>
            c.maxTableWidth <
              3 * (g.header.length - 1) + 4 + min g.header.length (g.need c.measure)) = some g ∧
          cause = .table (.maxWidthTooSmall c.maxTableWidth
            (g.header.length + (3 * (g.header.length - 1) + 4))) := by
  -- the walk over the tree fails at the first grid that exceeds the limit
  have hwalk : FailsAtFirst c (tree.grids c level)
      (tree.render (gemtextRenderer c) level) .initial :=
    Render.failsAtFirst_renderIn hshape rfl
  -- exceeding it is what the statement says of the grid
  have hfind := find?_exceeds c (tree.grids c level)
  unfold FailsAtFirst at hwalk
  cases hfirst : (tree.grids c level).find? (·.exceeds c) with
  | some g =>
    rw [hfirst] at hwalk hfind
    obtain ⟨s', hrun⟩ := hwalk
    -- there is a grid that exceeds the limit, so there is a limit
    have hlimit : 0 < c.maxTableWidth := by
      by_contra hnone
      rw [if_neg hnone] at hfind
      cases hfind
    rw [if_pos hlimit] at hfind
    rw [renderTree, hrun, ← hfind]
    simp [hlimit, Grid.cause, Grid.decoration, eq_comm]
  | none =>
    rw [hfirst] at hwalk hfind
    -- no grid exceeds it, so the walk comes to its end
    obtain ⟨content, s', hrun, -⟩ := hwalk
    rw [Yields] at hrun
    rw [renderTree, hrun]
    simp only [reduceCtorEq, false_iff]
    rintro ⟨hlimit, g, hg, -⟩
    rw [if_pos hlimit, hg] at hfind
    cases hfind

open Markdown in
/-- The first table keeps to the limit, since its row of two cells is skipped, and the second one,
in a quotation, does not. -/
theorem renderTree_eq_error_quoted :
    let c := { Conversion.standard with maxTableWidth := 8 }
    let cell (x : Char) := Node.mk .tableCell [.mk (.text [x]) []]
    let small := Node.mk (.table [.none])
      [.mk (.tableRow true) [cell 'a'], .mk (.tableRow false) [cell 'b', cell 'c']]
    let large := Node.mk (.table [.none, .none, .none])
      [.mk (.tableRow true) [cell 'a', cell 'b', cell 'c']]
    let tree := Node.mk .document [small, .mk .blockQuote [large]]
    tree.fitsTables ∧ renderTree c 0 tree = .error (.table (.maxWidthTooSmall 8 13)) := by
  intro c cell small large tree
  have hshape : tree.fitsTables := by decide
  -- the small table fits in eight places, and the one in the quotation does not
  have hfirst : (tree.grids c 0).find? (fun g =>
      c.maxTableWidth < 3 * (g.header.length - 1) + 4 + min g.header.length (g.need c.measure)) =
        some ⟨[['a'], ['b'], ['c']], []⟩ := by
    decide +kernel
  exact ⟨hshape, (renderTree_eq_error hshape).2 ⟨by decide, _, hfirst, rfl⟩⟩

end Gemtext

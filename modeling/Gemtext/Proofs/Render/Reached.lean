import Gemtext.Proofs.Render.Links
import Gemtext.Proofs.Render.TableFree
import Mathlib.Logic.Relation

/-!
# Where a walk comes to

`Spot.Leads` follows the recursion of the walk: from what is being rendered to what is rendered next
inside it or behind its first part, with the state that the renderer has then.  `Reaches` is any
number of such steps.  If a walk ends without error, so does all that it comes to (`Reaches.ends`).

When the gemtext renderer comes to a table, nothing of an earlier table is left in its state
(`rested_of_reaches_table`): rows clear their alignments, and a table that is drawn takes its link
lines along.
-/

namespace Gemtext

/-- A step ends in one way only. -/
theorem Yields.unique {σ α : Type} {x : Rendering σ α} {s s₁ s₂ : σ} {a b : α}
    (ha : Yields x s a s₁) (hb : Yields x s b s₂) : a = b ∧ s₁ = s₂ := by
  rw [Yields, ha, Prod.mk.injEq, Except.ok.injEq] at hb
  exact hb

namespace Markdown

/-- Something that is rendered from a state on: a node, or nodes in one of the groups that the walk
takes together. -/
inductive Spot (σ : Type) where
  | node (tight : Bool) (level : Nat) (node : Node) (s : σ)
  | nodes (level : Nat) (nodes : List Node) (s : σ)
  | items (tight : Bool) (level : Nat) (items : List Node) (s : σ)
  | parts (tight : Bool) (level : Nat) (nodes : List Node) (s : σ)
  | rows (alignments : List Alignment) (level : Nat) (rows : List Node) (s : σ)
  | cells (isHead : Bool) (alignments : List Alignment) (level : Nat) (cells : List Node) (s : σ)

namespace Spot

open Node

variable {σ : Type} {r : Renderer σ}

/-- Rendering ends without error. -/
def Ends (r : Renderer σ) : Spot σ → Prop
  | .node tight level n s => ∃ content s', Yields (renderIn r tight level n) s content s'
  | .nodes level ns s => ∃ content s', Yields (renderAll r level ns) s content s'
  | .items tight level ns s => ∃ entries s', Yields (renderItems r tight level ns) s entries s'
  | .parts tight level ns s => ∃ entry s', Yields (renderItemParts r tight level ns) s entry s'
  | .rows alignments level ns s =>
    ∃ content s', Yields (renderRows r alignments level ns) s content s'
  | .cells isHead alignments level ns s =>
    ∃ content s', Yields (renderCells r isHead alignments level ns) s content s'

/-- One step of the walk, inside what is rendered or behind the first part of it. -/
inductive Leads (r : Renderer σ) : Spot σ → Spot σ → Prop
  | children {tight level kind children s} (hkind : isContainer kind) :
    Leads r (.node tight level (.mk kind children) s)
      (.nodes level children (openCall r kind s).2)
  | list {tight level shape children s} :
    Leads r (.node tight level (.mk (.list shape) children) s)
      (.items shape.tight (level + 1) children s)
  | table {tight level columns children s} :
    Leads r (.node tight level (.mk (.table columns) children) s)
      (.rows (columns.map ColumnAlignment.toAlignment) level children s)
  | first {level node nodes s} : Leads r (.nodes level (node :: nodes) s) (.node false level node s)
  | others {level node nodes s content s'}
    (hfirst : Yields (renderIn r false level node) s content s') :
    Leads r (.nodes level (node :: nodes) s) (.nodes level nodes s')
  | item {tight level kind children items s} :
    Leads r (.items tight level (.mk kind children :: items) s) (.parts tight level children s)
  | otherItems {tight level kind children items s parts s'}
    (hitem : Yields (renderItemParts r tight level children) s parts s') :
    Leads r (.items tight level (.mk kind children :: items) s)
      (.items tight level items (itemCall r kind parts.content level s').2)
  | part {tight level node nodes s} :
    Leads r (.parts tight level (node :: nodes) s) (.node tight level node s)
  | otherParts {tight level node nodes s content s'}
    (hpart : Yields (renderIn r tight level node) s content s') :
    Leads r (.parts tight level (node :: nodes) s) (.parts tight level nodes s')
  | row {alignments level kind children rows s} :
    Leads r (.rows alignments level (.mk kind children :: rows) s)
      (.cells (kind = .tableRow true) alignments level children s)
  | otherRows {alignments level kind children rows s cells s'}
    (hrow : Yields (renderCells r (kind = .tableRow true) alignments level children) s cells s') :
    Leads r (.rows alignments level (.mk kind children :: rows) s)
      (.rows alignments level rows (rowCall r kind cells s').2)
  | cell {isHead alignments level kind children cells s} :
    Leads r (.cells isHead alignments level (.mk kind children :: cells) s)
      (.nodes level children s)
  | otherCells {isHead alignments level kind children cells s content s'}
    (hcell : Yields (renderAll r level children) s content s') :
    Leads r (.cells isHead alignments level (.mk kind children :: cells) s)
      (.cells isHead alignments.tail level cells
        (r.tableCell content (alignments.headD .left) isHead s').2)

/-- What is rendered in a walk that ends without error ends without error. -/
theorem Leads.ends {p q : Spot σ} (h : Leads r p q) (hp : p.Ends r) : q.Ends r := by
  -- what stands before the place that is reached has ended in the state that it begins with
  cases h
  all_goals obtain ⟨answer, s₁, hyields⟩ := hp
  case children hkind =>
    rw [renderIn_container hkind] at hyields
    obtain ⟨_, opened, hopen, hyields⟩ := yields_bind.1 hyields
    obtain ⟨content, s₂, hinner, -⟩ := yields_bind.1 hyields
    rw [yields_liftM] at hopen
    rw [show opened = _ from congrArg Prod.snd hopen.symm] at hinner
    exact ⟨content, s₂, hinner⟩
  case list =>
    obtain ⟨entries, s₂, hitems, -⟩ := yields_bind.1 hyields
    exact ⟨entries, s₂, hitems⟩
  case table =>
    obtain ⟨rows, s₂, hrows, -⟩ := yields_bind.1 hyields
    exact ⟨rows, s₂, hrows⟩
  case first =>
    obtain ⟨content, s₂, hfirst, -⟩ := yields_renderAll_cons.1 hyields
    exact ⟨content, s₂, hfirst⟩
  case others hfirst =>
    obtain ⟨_, _, hfirst', content, hothers, -⟩ := yields_renderAll_cons.1 hyields
    rw [← (hfirst.unique hfirst').2] at hothers
    exact ⟨content, s₁, hothers⟩
  case item =>
    obtain ⟨parts, s₂, hparts, -⟩ := yields_renderItems_cons.1 hyields
    exact ⟨parts, s₂, hparts⟩
  case otherItems hitem =>
    obtain ⟨_, _, hitem', _, _, hcall, entries, hothers, -⟩ := yields_renderItems_cons.1 hyields
    obtain ⟨rfl, rfl⟩ := hitem.unique hitem'
    rw [show _ = _ from congrArg Prod.snd hcall]
    exact ⟨entries, s₁, hothers⟩
  case part =>
    obtain ⟨content, s₂, hpart, -⟩ := yields_renderItemParts_cons.1 hyields
    exact ⟨content, s₂, hpart⟩
  case otherParts hpart =>
    obtain ⟨_, _, hpart', parts, hothers, -⟩ := yields_renderItemParts_cons.1 hyields
    rw [← (hpart.unique hpart').2] at hothers
    exact ⟨parts, s₁, hothers⟩
  case row =>
    obtain ⟨cells, s₂, hcells, -⟩ := yields_renderRows_cons.1 hyields
    exact ⟨cells, s₂, hcells⟩
  case otherRows hrow =>
    obtain ⟨_, _, hrow', _, _, hcall, content, hothers, -⟩ := yields_renderRows_cons.1 hyields
    obtain ⟨rfl, rfl⟩ := hrow.unique hrow'
    rw [show _ = _ from congrArg Prod.snd hcall]
    exact ⟨content, s₁, hothers⟩
  case cell =>
    obtain ⟨content, s₂, hcell, -⟩ := yields_renderCells_cons.1 hyields
    exact ⟨content, s₂, hcell⟩
  case otherCells hcell =>
    obtain ⟨_, _, hcell', _, _, hcall, content, hothers, -⟩ := yields_renderCells_cons.1 hyields
    obtain ⟨rfl, rfl⟩ := hcell.unique hcell'
    rw [show _ = _ from congrArg Prod.snd hcall]
    exact ⟨content, s₁, hothers⟩

end Spot

/-- The walk comes from the one to the other. -/
abbrev Reaches {σ : Type} (r : Renderer σ) : Spot σ → Spot σ → Prop :=
  Relation.ReflTransGen (Spot.Leads r)

/-- What is reached in a rendering that ends without error ends so itself. -/
theorem Reaches.ends {σ : Type} {r : Renderer σ} {p q : Spot σ} (h : Reaches r p q)
    (hp : p.Ends r) : q.Ends r := by
  induction h with
  | refl => exact hp
  | tail _ hstep ih => exact hstep.ends ih

/-- Whether no table of the tree stands in a cell of another one. -/
def Node.tablesApart (tree : Node) : Bool :=
  tree.everywhere fun node => !node.kind.isTable || node.children.all Node.tableFree

end Markdown

namespace Render

open Markdown Node Spot

variable {c : Conversion} {s : RenderState}

/-! ## What tables leave -/

/-- Nothing of a table is left in the state. -/
structure Rested (s : RenderState) : Prop extends Idle s where
  table : s.table = none

theorem Rested.of_sameTable {s' : RenderState} (h : s.SameTable s') (hs : Rested s) : Rested s' :=
  ⟨.of_sameTable h hs.toIdle, h.table.trans hs.table⟩

/-- Every row clears the alignments of its cells. -/
theorem alignments_renderRows {alignments : List Alignment} {level : Nat} {rows : List Node}
    {s s' : RenderState} {content : Content} (hs : s.alignments = [])
    (h : Yields (renderRows (gemtextRenderer c) alignments level rows) s content s') :
    s'.alignments = [] := by
  induction rows generalizing s content with
  | nil => rwa [(yields_renderRows_nil.1 h).2]
  | cons row rows ih =>
    obtain ⟨kind, children⟩ := row
    obtain ⟨cells, s₁, -, row, s₂, hcall, others, hothers, -⟩ := yields_renderRows_cons.1 h
    refine ih ?_ hothers
    rw [show s₂ = _ from congrArg Prod.snd hcall.symm, rowCall]
    split <;> rfl

mutual

/-- Whatever is rendered without error, nothing is left of a table. -/
theorem rested_renderIn {tight : Bool} {level : Nat} {node : Node} {s s' : RenderState}
    {content : Content} (hs : Rested s)
    (h : Yields (renderIn (gemtextRenderer c) tight level node) s content s') : Rested s' := by
  obtain ⟨kind, children⟩ := node
  cases rendered_of_yields h with
  | leaf hleaf hcall => rwa [show s' = s by rw [← state_leafCall hleaf s, hcall]]
  | @container inner between _ hinner hcall =>
    have hbetween := rested_renderAll (.of_sameTable (sameTable_openCall c s kind) hs) hinner
    have hclose := sameTable_closeCall c between tight kind children inner
    rw [hcall] at hclose
    exact .of_sameTable hclose hbetween
  | list _ hitems hcall =>
    cases hcall
    exact rested_renderItems hs hitems
  | @table _ rows drawn between _ hrows hcall _ =>
    have hstate := state_table c between
    rw [show table c between = (.ok drawn, s') from hcall] at hstate
    -- the alignments are gone with the last row, and the table with drawing it
    have hempty := alignments_renderRows hs.alignments hrows
    rw [show s' = _ from hstate]
    exact ⟨⟨hempty, rfl⟩, rfl⟩

/-- Nodes one after the other leave nothing of a table. -/
theorem rested_renderAll {level : Nat} {nodes : List Node} {s s' : RenderState} {content : Content}
    (hs : Rested s)
    (h : Yields (renderAll (gemtextRenderer c) level nodes) s content s') : Rested s' := by
  cases nodes with
  | nil => rwa [(yields_renderAll_nil.1 h).2]
  | cons node nodes =>
    obtain ⟨_, s₁, hfirst, _, hothers, -⟩ := yields_renderAll_cons.1 h
    exact rested_renderAll (rested_renderIn hs hfirst) hothers

/-- Nor do the items of a list. -/
theorem rested_renderItems {tight : Bool} {level : Nat} {items : List Node} {s s' : RenderState}
    {entries : List ListEntry} (hs : Rested s)
    (h : Yields (renderItems (gemtextRenderer c) tight level items) s entries s') : Rested s' := by
  cases items with
  | nil => rwa [(yields_renderItems_nil.1 h).2]
  | cons item items =>
    obtain ⟨kind, children⟩ := item
    obtain ⟨parts, s₁, hparts, content, s₂, hcall, _, hothers, -⟩ := yields_renderItems_cons.1 h
    have hstate := state_itemCall c s₁ kind parts.content level
    rw [hcall] at hstate
    refine rested_renderItems ?_ hothers
    rw [show s₂ = s₁ from hstate]
    exact rested_renderItemParts hs hparts

/-- Nor do the children of an item. -/
theorem rested_renderItemParts {tight : Bool} {level : Nat} {nodes : List Node}
    {s s' : RenderState} {parts : ListEntry} (hs : Rested s)
    (h : Yields (renderItemParts (gemtextRenderer c) tight level nodes) s parts s') :
    Rested s' := by
  cases nodes with
  | nil => rwa [(yields_renderItemParts_nil.1 h).2]
  | cons node nodes =>
    obtain ⟨_, s₁, hfirst, _, hothers, -⟩ := yields_renderItemParts_cons.1 h
    exact rested_renderItemParts (rested_renderIn hs hfirst) hothers

end

/-! ## Where tables stand -/

/-- What a walk over a tree keeps on its way to a table: nothing is left of another table, or there
is no table below. -/
def Clear : Spot RenderState → Prop
  | .node _ _ n s => Rested s ∧ n.tablesApart ∨ n.tableFree
  | .nodes _ ns s => Rested s ∧ ns.all tablesApart ∨ ns.all tableFree
  | .items _ _ ns s => Rested s ∧ ns.all tablesApart ∨ ns.all tableFree
  | .parts _ _ ns s => Rested s ∧ ns.all tablesApart ∨ ns.all tableFree
  | .rows _ _ ns _ => ns.all tableFree
  | .cells _ _ _ ns _ => ns.all tableFree

/-- Tables that are apart in a node are apart in its children. -/
theorem tablesApart_children {kind : NodeKind} {children : List Node}
    (h : (mk kind children).tablesApart) : children.all tablesApart := by
  have hchildren := (everywhere_mk.1 h).2
  rwa [everywhereAll_eq_all] at hchildren

/-- Below a node without tables there is none. -/
theorem tableFree_children {kind : NodeKind} {children : List Node}
    (h : (mk kind children).tableFree) : children.all tableFree := by
  have hchildren := (everywhere_mk.1 h).2
  rwa [everywhereAll_eq_all] at hchildren

/-- A step of the walk keeps clear: a table ends before the next node, and leads to none inside. -/
theorem clear_of_leads {p q : Spot RenderState} (h : Leads (gemtextRenderer c) p q)
    (hp : Clear p) : Clear q := by
  have hcons {f : Node → Bool} {n : Node} {ns : List Node} (hall : (n :: ns).all f) :
      f n ∧ ns.all f := by
    rwa [List.all_cons, Bool.and_eq_true] at hall
  cases h with
  | @children _ _ kind _ s hkind =>
    exact hp.imp (.imp (.of_sameTable (sameTable_openCall c s kind)) tablesApart_children)
      tableFree_children
  | list => exact hp.imp (.imp_right tablesApart_children) tableFree_children
  | table =>
    -- the rows of a table are free of tables
    rcases hp with ⟨-, hapart⟩ | hfree
    · have htable := (everywhere_mk.1 hapart).1
      rwa [Node.kind, NodeKind.isTable, Bool.not_true, Bool.false_or] at htable
    · exact tableFree_children hfree
  | first => exact hp.imp (.imp_right fun h => (hcons h).1) fun h => (hcons h).1
  | others hfirst =>
    exact hp.imp (fun h => ⟨rested_renderIn h.1 hfirst, (hcons h.2).2⟩) fun h => (hcons h).2
  | item =>
    exact hp.imp (.imp_right fun h => tablesApart_children (hcons h).1)
      fun h => tableFree_children (hcons h).1
  | @otherItems _ level kind _ _ _ parts s' hitem =>
    refine hp.imp (fun h => ⟨?_, (hcons h.2).2⟩) fun h => (hcons h).2
    rw [state_itemCall]
    exact rested_renderItemParts h.1 hitem
  | part => exact hp.imp (.imp_right fun h => (hcons h).1) fun h => (hcons h).1
  | otherParts hpart =>
    exact hp.imp (fun h => ⟨rested_renderIn h.1 hpart, (hcons h.2).2⟩) fun h => (hcons h).2
  | row => exact tableFree_children (hcons hp).1
  | otherRows => exact (hcons hp).2
  | cell => exact .inr (tableFree_children (hcons hp).1)
  | otherCells => exact (hcons hp).2

/-- So does the whole way. -/
theorem clear_of_reaches {p q : Spot RenderState} (h : Reaches (gemtextRenderer c) p q)
    (hp : Clear p) : Clear q := by
  induction h with
  | refl => exact hp
  | tail _ hstep ih => exact clear_of_leads hstep ih

/-- Where the walk comes to a table, nothing is left of another one. -/
theorem rested_of_reaches_table {tight tight' : Bool} {level level' : Nat} {tree : Node}
    {columns : List ColumnAlignment} {rows : List Node} {s s' : RenderState}
    (happart : tree.tablesApart) (hs : Rested s)
    (h : Reaches (gemtextRenderer c) (.node tight level tree s)
      (.node tight' level' (mk (.table columns) rows) s')) : Rested s' := by
  rcases clear_of_reaches h (.inl ⟨hs, happart⟩) with ⟨hrested, -⟩ | hfree
  · exact hrested
  · cases (everywhere_mk.1 hfree).1

end Render

end Gemtext

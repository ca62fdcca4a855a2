import Gemtext.Proofs.Render.Walk
import Gemtext.Render.Trace

/-!
# The order of the calls

The walk calls the renderer for the nodes of a tree in post-order.  `Node.postOrder` lists the
nodes of a tree in this order, whatever they are called for, and `Visit.call?` tells for a node by
itself, from the kinds of the nodes around it, which call it gets.  The calls that the tracing
renderer records are these (`exists_calls_render`), although lists, items and tables are rendered by
recursions of their own.
-/

namespace Gemtext

/-- The call with its contents left out. -/
def Call.bare : Call → Call
  | emphasis _ => emphasis []
  | strong _ => strong []
  | link url _ inner => link url [] inner
  | paragraph _ => paragraph []
  | blockText _ => blockText []
  | heading _ level => heading [] level
  | blockQuote _ => blockQuote []
  | listItem _ level => listItem [] level
  | taskListItem _ level checked => taskListItem [] level checked
  | list items ordered level start => list (items.map fun _ => ([], [])) ordered level start
  | tableCell _ alignment head => tableCell [] alignment head
  | tableHead _ => tableHead []
  | tableRow _ => tableRow []
  | call => call

namespace Markdown

/-- Whether nodes of the kind are lists. -/
def NodeKind.isList : NodeKind → Bool
  | list _ => true
  | _ => false

/-! ## Post-order -/

/-- A node of a tree, seen from where it stands. -/
structure Visit where
  /-- The kinds of the nodes around it, from the inside out. -/
  around : List NodeKind
  /-- How many nodes stand before it below the same node. -/
  position : Nat
  node : Node

mutual

/-- The nodes of a tree in post-order: all that stands below a node, and then the node.  What
stands below an image is left out. -/
def Node.postOrder (around : List NodeKind) (position : Nat) : Node → List Visit
  | .mk kind children =>
    match kind with
    | .image _ => [⟨around, position, .mk kind children⟩]
    | _ => Node.postOrderAll (kind :: around) 0 children ++ [⟨around, position, .mk kind children⟩]

/-- The nodes of several trees in post-order, one tree after the other. -/
def Node.postOrderAll (around : List NodeKind) (position : Nat) : List Node → List Visit
  | [] => []
  | node :: nodes =>
    Node.postOrder around position node ++ Node.postOrderAll around (position + 1) nodes

end

/-! ## The call of a node

What a node is called for depends on the nodes around it, given from the inside out. -/

/-- Whether the innermost node is a list. -/
def inList : List NodeKind → Bool
  | .list _ :: _ => true
  | _ => false

/-- Whether the innermost node is an item of a tight list. -/
def inTightItem : List NodeKind → Bool
  | .item :: .list shape :: _ => shape.tight
  | .taskItem _ :: .list shape :: _ => shape.tight
  | _ => false

/-- Whether the innermost node is a table. -/
def inTable : List NodeKind → Bool
  | .table _ :: _ => true
  | _ => false

/-- If the innermost node is a row of a table: the columns of the table, and whether the row is the
header. -/
def inRow? : List NodeKind → Option (List ColumnAlignment × Bool)
  | .tableRow isHead :: .table columns :: _ => some (columns, isHead)
  | _ => none

/-- How many lists there are around a node, when there are `start` around the whole tree. -/
def listDepth (start : Nat) (around : List NodeKind) : Nat :=
  start + around.countP NodeKind.isList

/-- The call that a node gets by itself, in a tree with `start` lists around it; its contents are
left out.  Items, rows and cells get one in a list or in a table only. -/
def Visit.call? (start : Nat) (v : Visit) : Option Call :=
  match v.node.kind with
  | .document | .frontMatter _ | .strikethrough | .superscript => none
  | .text s => some (.text s)
  | .softBreak => some .softBreak
  | .lineBreak => some .lineBreak
  | .code s => some (.code s)
  | .htmlInline s => some (.htmlInline s)
  | .emphasis => some (.emphasis [])
  | .strong => some (.strong [])
  | .link url => some (.link url [] (Node.innerTexts v.node.children))
  | .image url => some (.image url (Node.innerTexts v.node.children))
  | .paragraph => some (if inTightItem v.around then .blockText [] else .paragraph [])
  | .heading level => some (.heading [] level)
  | .thematicBreak => some .thematicBreak
  | .codeBlock info literal =>
    some (.codeBlock literal (if info.isEmpty then none else some info))
  | .htmlBlock s => some (.htmlBlock s)
  | .blockQuote => some (.blockQuote [])
  | .list shape =>
    let items := v.node.children.map fun _ => ([], [])
    some (.list items shape.ordered (listDepth start v.around + 1) shape.start)
  | .item => if inList v.around then some (.listItem [] (listDepth start v.around)) else none
  | .taskItem symbol =>
    if inList v.around then some (.taskListItem [] (listDepth start v.around) symbol.isSome)
    else none
  | .table _ => some .table
  | .tableRow isHead =>
    if inTable v.around then some (if isHead then .tableHead [] else .tableRow []) else none
  | .tableCell =>
    (inRow? v.around).map fun (columns, isHead) =>
      .tableCell [] ((columns[v.position]?.map ColumnAlignment.toAlignment).getD .left) isHead

end Markdown

/-! ## Steps that record calls -/

/-- Whatever was recorded before, the step ends without error and records the given calls, apart
from their contents. -/
def Records {α : Type} (x : Rendering (List Call) α) (expected : List Call) : Prop :=
  ∀ calls, ∃ a new, Yields x calls a (calls ++ new) ∧ new.map Call.bare = expected

namespace Records

variable {α β : Type} {x : Rendering (List Call) α} {f : α → Rendering (List Call) β}
  {first second : List Call}

theorem pure (a : α) : Records (pure a) [] := fun _ =>
  ⟨a, [], by simp, rfl⟩

theorem record (call : Call) : Records (liftM (Trace.record call)) [call.bare] := fun _ =>
  ⟨_, [call], yields_liftM.2 rfl, rfl⟩

/-- The second step may rely on what the first one answers. -/
theorem bind_of (hx : Records x first)
    (hf : ∀ before a after, Yields x before a after → Records (f a) second) :
    Records (x >>= f) (first ++ second) := by
  intro calls
  obtain ⟨a, new, hyields, rfl⟩ := hx calls
  obtain ⟨b, others, hothers, rfl⟩ := hf _ _ _ hyields (calls ++ new)
  refine ⟨b, new ++ others, yields_bind.2 ⟨a, _, hyields, ?_⟩, List.map_append⟩
  rwa [← List.append_assoc]

/-- Steps record their calls one after the other. -/
theorem bind (hx : Records x first) (hf : ∀ a, Records (f a) second) :
    Records (x >>= f) (first ++ second) :=
  hx.bind_of fun _ a _ _ => hf a

/-- The second step may record nothing more. -/
theorem bind_silent (hx : Records x first) (hf : ∀ a, Records (f a) []) :
    Records (x >>= f) first := by
  rw [← List.append_nil first]
  exact hx.bind hf

end Records

namespace Render

open Markdown Node

/-- Whether the call of the innermost node takes the nodes directly inside it together. -/
def groups (around : List NodeKind) : Bool :=
  inList around || inTable around || (inRow? around).isSome

variable {start position : Nat} {around : List NodeKind} {kind : NodeKind}
  {children : List Node}

/-- Outside a table nothing is a row. -/
theorem inRow?_cons_of_not_inTable (h : inTable around = false) :
    inRow? (kind :: around) = none := by
  unfold inRow?
  split
  next heq =>
    cases heq
    cases h
  next => rfl

/-- Outside a list nothing is an item. -/
theorem inTightItem_cons_of_not_inList (h : inList around = false) :
    inTightItem (kind :: around) = false := by
  unfold inTightItem
  split
  next heq =>
    cases heq
    cases h
  next heq =>
    cases heq
    cases h
  next => rfl

/-- Nor is it an item where nodes are not taken together. -/
theorem inTightItem_cons_of_not_groups (h : groups around = false) :
    inTightItem (kind :: around) = false := by
  simp only [groups, Bool.or_eq_false_iff] at h
  exact inTightItem_cons_of_not_inList h.1.1

theorem listDepth_cons_list {shape : ListShape} :
    listDepth start (.list shape :: around) = listDepth start around + 1 := by
  rw [listDepth, List.countP_cons_of_pos rfl, ← Nat.add_assoc, listDepth]

/-- Only lists count. -/
theorem listDepth_cons_of_not_isList (h : kind.isList = false) :
    listDepth start (kind :: around) = listDepth start around := by
  rw [listDepth, List.countP_cons_of_neg (by simp [h]), listDepth]

/-- The nodes directly inside a container are not grouped by it. -/
theorem groups_cons_container (h : isContainer kind) (hfree : groups around = false) :
    groups (kind :: around) = false := by
  simp only [groups, Bool.or_eq_false_iff] at hfree
  rw [groups, inRow?_cons_of_not_inTable hfree.1.2]
  cases kind <;> first | rfl | cases h

/-- Items, rows and cells that are not grouped get no call. -/
theorem call?_of_not_groups (h : kind.isItem ∨ kind.isRow ∨ kind = .tableCell)
    (hfree : groups around = false) :
    Visit.call? start ⟨around, position, mk kind children⟩ = none := by
  simp only [groups, Bool.or_eq_false_iff, Option.isSome_eq_false_iff, Option.isNone_iff_eq_none]
    at hfree
  cases kind <;> simp_all [Visit.call?, Node.kind, NodeKind.isItem, NodeKind.isRow]

/-- Where nothing is grouped, a container gets the call that closes it. -/
theorem records_closeCall (h : isContainer kind) (hfree : groups around = false)
    (content : Content) :
    Records (liftM (closeCall traceRenderer (inTightItem around) kind children content))
      (Visit.call? start ⟨around, position, mk kind children⟩).toList := by
  cases kind with
  | paragraph =>
    simp only [Visit.call?, Node.kind]
    cases inTightItem around <;> exact .record _
  | heading | blockQuote | emphasis | strong | link => exact .record _
  | document | strikethrough | superscript => exact .pure content
  | item | taskItem | tableRow | tableCell =>
    rw [call?_of_not_groups (by simp [NodeKind.isItem, NodeKind.isRow]) hfree]
    exact .pure content
  | _ => cases h

/-- A node without children makes its own call. -/
theorem records_leafCall {call : StateM (List Call) Content}
    (h : leafCall? traceRenderer kind children = some call) :
    Records (liftM call) (Visit.call? start ⟨around, position, mk kind children⟩).toList := by
  cases kind with
  | frontMatter =>
    cases h
    exact .pure []
  | thematicBreak | codeBlock | htmlBlock | text | softBreak | lineBreak | code | htmlInline
    | image =>
    cases h
    exact .record _
  | _ => cases h

theorem filterMap_call?_singleton (v : Visit) :
    [v].filterMap (Visit.call? start) = (v.call? start).toList := by
  cases hcall : v.call? start <;> simp [hcall]

/-- The calls for a node of any kind but an image: those below it, and then its own. -/
theorem filterMap_postOrder_mk (h : ∀ url, kind ≠ .image url) :
    ((mk kind children).postOrder around position).filterMap (Visit.call? start) =
      (postOrderAll (kind :: around) 0 children).filterMap (Visit.call? start) ++
        (Visit.call? start ⟨around, position, mk kind children⟩).toList := by
  have hvisits : (mk kind children).postOrder around position =
      postOrderAll (kind :: around) 0 children ++ [⟨around, position, mk kind children⟩] := by
    cases kind <;> first | rfl | exact absurd rfl (h _)
  rw [hvisits, List.filterMap_append, filterMap_call?_singleton]

/-- Nothing is visited below a leaf. -/
theorem postOrder_leaf {call : StateM (List Call) Content}
    (h : leafCall? traceRenderer kind children = some call)
    (hfits : fitsChildren (mk kind children)) :
    (mk kind children).postOrder around position = [⟨around, position, mk kind children⟩] := by
  cases kind with
  | image => rfl
  | frontMatter | thematicBreak | codeBlock | htmlBlock | text | softBreak | lineBreak | code
    | htmlInline =>
    obtain rfl : children = [] := by simpa [fitsChildren, NodeKind.isLeaf] using hfits
    rfl
  | _ => cases h

/-- Every item makes an entry. -/
theorem length_of_yields_renderItems {σ : Type} {r : Renderer σ} {tight : Bool} {level : Nat}
    {items : List Node} {entries : List ListEntry} {s s' : σ}
    (h : Yields (renderItems r tight level items) s entries s') :
    entries.length = items.length := by
  induction items generalizing entries s with
  | nil => rw [(yields_renderItems_nil.1 h).1, List.length_nil, List.length_nil]
  | cons item items ih =>
    obtain ⟨kind, children⟩ := item
    obtain ⟨parts, s₁, -, content, s₂, -, others, hothers, rfl⟩ := yields_renderItems_cons.1 h
    rw [List.length_cons, List.length_cons, ih hothers]

/-- The call for a list, whatever its items were rendered to. -/
theorem records_list {shape : ListShape} {entries : List ListEntry}
    (h : entries.length = children.length) :
    Records
      (liftM (traceRenderer.list entries shape.ordered (listDepth start around + 1) shape.start))
      (Visit.call? start ⟨around, position, mk (.list shape) children⟩).toList := by
  have hitems : ((entries.map fun e => (e.content.plainText, e.nested.plainText)).map
      fun _ => (([], []) : Text × Text)) = children.map fun _ => ([], []) := by
    rw [List.map_map, Function.comp_def, List.map_const', List.map_const', h]
  have hrecord := Records.record (.list
    (entries.map fun e => (e.content.plainText, e.nested.plainText)) shape.ordered
    (listDepth start around + 1) shape.start)
  rw [Call.bare, hitems] at hrecord
  exact hrecord

/-- An item makes its own call in a list. -/
theorem records_itemCall {shape : ListShape} {content : Content} (h : kind.isItem) :
    Records
      (liftM (itemCall traceRenderer kind content (listDepth start (.list shape :: around))))
      (Visit.call? start ⟨.list shape :: around, position, mk kind children⟩).toList := by
  cases kind with
  | item | taskItem => exact .record _
  | _ => cases h

/-- So does a row in a table. -/
theorem records_rowCall {columns : List ColumnAlignment} (isHead : Bool) {cells : Content} :
    Records (liftM (rowCall traceRenderer (.tableRow isHead) cells))
      (Visit.call? start
        ⟨.table columns :: around, position, mk (.tableRow isHead) children⟩).toList := by
  cases isHead <;> exact .record _

/-- So does a cell in a row, with the alignment of its column. -/
theorem records_tableCell {columns : List ColumnAlignment} {isHead : Bool} {content : Content} :
    Records
      (liftM (traceRenderer.tableCell content
        (((columns.map ColumnAlignment.toAlignment).drop position).headD .left) isHead))
      (Visit.call? start
        ⟨.tableRow isHead :: .table columns :: around, position,
          mk .tableCell children⟩).toList := by
  rw [List.headD_eq_head?_getD, List.head?_drop, List.getElem?_map]
  exact .record _

theorem records_table : Records (ExceptT.mk traceRenderer.table) [.table] := fun _ =>
  ⟨_, [.table], yields_mk.2 rfl, rfl⟩

/-! ## The walk -/

mutual

/-- A node records the calls of the nodes below it, and then its own. -/
theorem records_renderIn (around : List NodeKind) {node : Node} (h : node.wellShaped)
    (hfree : groups around = false) (position : Nat) :
    Records (renderIn traceRenderer (inTightItem around) (listDepth start around) node)
      ((node.postOrder around position).filterMap (Visit.call? start)) := by
  obtain ⟨kind, children⟩ := node
  obtain ⟨hfits, hchildren⟩ := everywhere_mk.1 h
  rw [everywhereAll_eq_all] at hchildren
  rcases kind_cases traceRenderer kind children with
    ⟨call, hleaf⟩ | hcontainer | ⟨shape, rfl⟩ | ⟨columns, rfl⟩
  · rw [renderIn_leaf hleaf, postOrder_leaf hleaf hfits, filterMap_call?_singleton]
    exact records_leafCall hleaf
  · have hdepth : listDepth start (kind :: around) = listDepth start around :=
      listDepth_cons_of_not_isList (by cases kind <;> first | rfl | cases hcontainer)
    -- the tracing renderer records nothing when a node is opened
    have hopen : liftM (openCall traceRenderer kind) = (pure () : Rendering (List Call) Unit) := by
      cases kind <;> rfl
    rw [renderIn_container hcontainer, hopen, pure_bind,
      filterMap_postOrder_mk (by rintro url rfl; cases hcontainer)]
    refine .bind ?_ fun content => records_closeCall hcontainer hfree content
    have hinner := records_renderAll (kind :: around) hchildren
      (groups_cons_container hcontainer hfree) (inTightItem_cons_of_not_groups hfree) 0
    rwa [hdepth] at hinner
  · have hitems := records_renderItems around shape hchildren hfits 0
    rw [listDepth_cons_list] at hitems
    rw [renderIn, filterMap_postOrder_mk (by simp)]
    -- the call of a list shows how many entries there are, one for each item
    exact hitems.bind_of fun _ entries _ hentries =>
      records_list (length_of_yields_renderItems hentries)
  · have hrows := records_renderRows around columns hchildren (all_isRow_of_fitsChildren hfits).1 0
    rw [listDepth_cons_of_not_isList rfl] at hrows
    rw [renderIn, filterMap_postOrder_mk (by simp)]
    refine hrows.bind fun rows => ?_
    exact .bind_silent records_table fun drawn => .pure _

/-- Nodes record their calls one after the other. -/
theorem records_renderAll (around : List NodeKind) {nodes : List Node} (h : nodes.all wellShaped)
    (hfree : groups around = false) (htight : inTightItem around = false) (position : Nat) :
    Records (renderAll traceRenderer (listDepth start around) nodes)
      ((postOrderAll around position nodes).filterMap (Visit.call? start)) := by
  cases nodes with
  | nil =>
    rw [renderAll]
    exact .pure []
  | cons node nodes =>
    rw [List.all_cons, Bool.and_eq_true] at h
    rw [renderAll, postOrderAll, List.filterMap_append, ← htight]
    refine .bind (records_renderIn around h.1 hfree position) fun content => ?_
    have hothers := records_renderAll around h.2 hfree htight (position + 1)
    exact .bind_silent hothers fun others => .pure _

/-- So do the items of a list. -/
theorem records_renderItems (around : List NodeKind) (shape : ListShape) {items : List Node}
    (h : items.all wellShaped) (hitems : items.all fun item => item.kind.isItem)
    (position : Nat) :
    Records (renderItems traceRenderer shape.tight (listDepth start (.list shape :: around)) items)
      ((postOrderAll (.list shape :: around) position items).filterMap (Visit.call? start)) := by
  cases items with
  | nil =>
    rw [renderItems]
    exact .pure []
  | cons item items =>
    obtain ⟨kind, children⟩ := item
    rw [List.all_cons, Bool.and_eq_true] at h hitems
    have hchildren := (everywhere_mk.1 h.1).2
    rw [everywhereAll_eq_all] at hchildren
    have hfree : groups (kind :: .list shape :: around) = false := by
      cases kind <;> first | rfl | cases hitems.1
    have htight : inTightItem (kind :: .list shape :: around) = shape.tight := by
      cases kind <;> first | rfl | cases hitems.1
    -- the children of an item stand below the item, so nothing is grouped any more
    have hparts := records_renderItemParts (kind :: .list shape :: around) hchildren hfree 0
    rw [htight, listDepth_cons_of_not_isList (by cases kind <;> first | rfl | cases hitems.1)]
      at hparts
    have himage (url : Text) : kind ≠ .image url := by
      rintro rfl
      cases hitems.1
    rw [renderItems_cons, postOrderAll, List.filterMap_append, filterMap_postOrder_mk himage,
      List.append_assoc]
    refine hparts.bind fun parts => .bind (records_itemCall hitems.1) fun content => ?_
    have hothers := records_renderItems around shape h.2 hitems.2 (position + 1)
    exact .bind_silent hothers fun entries => .pure _

/-- So do the children of an item. -/
theorem records_renderItemParts (around : List NodeKind) {nodes : List Node}
    (h : nodes.all wellShaped) (hfree : groups around = false) (position : Nat) :
    Records (renderItemParts traceRenderer (inTightItem around) (listDepth start around) nodes)
      ((postOrderAll around position nodes).filterMap (Visit.call? start)) := by
  cases nodes with
  | nil =>
    rw [renderItemParts]
    exact .pure _
  | cons node nodes =>
    rw [List.all_cons, Bool.and_eq_true] at h
    rw [renderItemParts, postOrderAll, List.filterMap_append]
    refine .bind (records_renderIn around h.1 hfree position) fun content => ?_
    refine .bind_silent (records_renderItemParts around h.2 hfree (position + 1)) fun others => ?_
    split <;> exact .pure _

/-- So do the rows of a table. -/
theorem records_renderRows (around : List NodeKind) (columns : List ColumnAlignment)
    {rows : List Node} (h : rows.all wellShaped) (hrows : rows.all fun row => row.kind.isRow)
    (position : Nat) :
    Records
      (renderRows traceRenderer (columns.map ColumnAlignment.toAlignment)
        (listDepth start (.table columns :: around)) rows)
      ((postOrderAll (.table columns :: around) position rows).filterMap (Visit.call? start)) := by
  cases rows with
  | nil =>
    rw [renderRows]
    exact .pure []
  | cons row rows =>
    obtain ⟨kind, cells⟩ := row
    rw [List.all_cons, Bool.and_eq_true] at h hrows
    obtain ⟨hcells, hbelow⟩ := everywhere_mk.1 h.1
    rw [everywhereAll_eq_all] at hbelow
    have hothers := records_renderRows around columns h.2 hrows.2 (position + 1)
    cases kind with
    | tableRow isHead =>
      have hrow := records_renderCells around columns isHead hbelow hcells 0
      rw [listDepth_cons_of_not_isList rfl, List.drop_zero] at hrow
      rw [renderRows_cons, postOrderAll, List.filterMap_append, filterMap_postOrder_mk (by simp),
        List.append_assoc]
      -- a row is the header if its node says so
      have hisHead : decide (NodeKind.tableRow isHead = .tableRow true) = isHead := by simp
      rw [hisHead]
      refine hrow.bind fun cells => .bind (records_rowCall isHead) fun row => ?_
      exact .bind_silent hothers fun others => .pure _
    | _ => cases hrows.1

/-- So do the cells of a row, each with the alignment that is left for it. -/
theorem records_renderCells (around : List NodeKind) (columns : List ColumnAlignment)
    (isHead : Bool) {cells : List Node} (h : cells.all wellShaped)
    (hcells : cells.all fun cell => cell.kind = .tableCell) (position : Nat) :
    Records
      (renderCells traceRenderer isHead ((columns.map ColumnAlignment.toAlignment).drop position)
        (listDepth start (.tableRow isHead :: .table columns :: around)) cells)
      ((postOrderAll (.tableRow isHead :: .table columns :: around) position cells).filterMap
        (Visit.call? start)) := by
  cases cells with
  | nil =>
    rw [renderCells]
    exact .pure []
  | cons cell cells =>
    obtain ⟨kind, children⟩ := cell
    rw [List.all_cons, Bool.and_eq_true] at h hcells
    have hchildren := (everywhere_mk.1 h.1).2
    rw [everywhereAll_eq_all] at hchildren
    obtain rfl : kind = .tableCell := of_decide_eq_true hcells.1
    have hinner := records_renderAll
      (.tableCell :: .tableRow isHead :: .table columns :: around) hchildren rfl rfl 0
    rw [listDepth_cons_of_not_isList rfl] at hinner
    have hothers := records_renderCells around columns isHead h.2 hcells.2 (position + 1)
    rw [renderCells, postOrderAll, List.filterMap_append, filterMap_postOrder_mk (by simp),
      List.append_assoc]
    refine hinner.bind fun content => .bind records_tableCell fun cell => ?_
    rw [List.tail_drop]
    exact .bind_silent hothers fun others => .pure _

end

/-- A tree inside `level` lists is walked to its end, and the calls that are recorded on the way are
those of its nodes in post-order. -/
theorem exists_calls_render {tree : Node} (h : tree.wellShaped) (level : Nat) (calls : List Call) :
    ∃ content new,
      (tree.render traceRenderer level).run calls = (.ok content, calls ++ new) ∧
        new.map Call.bare = (tree.postOrder [] 0).filterMap (Visit.call? level) :=
  records_renderIn [] h rfl 0 calls

/-- The box `a` in a tight list, with the item of a numbered loose list below it, and a table of one
column with the header `b`. -/
theorem exists_calls_render_nested :
    let text := mk (.text ['a']) []
    let nested := mk (.list ⟨true, false, 3⟩) [mk .item [mk .paragraph [text]]]
    let boxes := mk (.list ⟨false, true, 1⟩) [mk (.taskItem none) [mk .paragraph [text], nested]]
    let header := mk (.tableRow true) [mk .tableCell [mk (.image ['b']) [text]]]
    let tree := mk .document [boxes, mk (.table [.right]) [header]]
    tree.wellShaped ∧
      ∃ content new,
        (tree.render traceRenderer 4).run [] = (.ok content, [] ++ new) ∧
          new.map Call.bare =
            [.text ['a'], .blockText [],
              .text ['a'], .paragraph [], .listItem [] 6, .list [([], [])] true 6 3,
              .taskListItem [] 5 false, .list [([], [])] false 5 1,
              .image ['b'] ['a'], .tableCell [] .right true, .tableHead [], .table] :=
  ⟨rfl, exists_calls_render rfl 4 []⟩

end Render

end Gemtext

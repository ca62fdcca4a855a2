import Gemtext.Proofs.Content.Marks
import Gemtext.Render.Gemtext

/-!
# The marks of rendered blocks

Items, lists and quotations cut their content into lines, mark them and join them.  All marks but
boundaries and hard breaks come out of that in order (`filter_listItem`, `filter_list`,
`filter_blockQuote`).  A line of a list comes from one of its items (`mem_listLines`).
-/

namespace Gemtext

namespace Render

open Content

/-- A line of a list is that of an item, behind its marker, or belongs to a list in an item. -/
theorem mem_listLines {indent : Text} {ordered : Bool} {number : Nat} {items : List ListEntry}
    {line : Content} (h : line ∈ listLines indent ordered number items) :
    ∃ e ∈ items, line ∈ e.nested.lines ∨
      ∃ k, line = Content.ofText (indent ++ listMarker ordered k) ++ e.content.trim := by
  induction items generalizing number with
  | nil => simp [listLines] at h
  | cons e items ih =>
    rw [listLines, List.cons_append, List.mem_cons, List.mem_append] at h
    rcases h with rfl | h | h
    · exact ⟨e, List.mem_cons_self, .inr ⟨number, rfl⟩⟩
    · exact ⟨e, List.mem_cons_self, .inl (List.mem_filter.1 h).1⟩
    · obtain ⟨e', he', hline⟩ := ih h
      exact ⟨e', List.mem_cons_of_mem _ he', hline⟩

variable {q : Atom → Bool} (hq : ∀ x, q (.char x) = false)
include hq

/-- Markers are text. -/
theorem filter_marked (c : Conversion) (marker : Text) (content : Content) :
    (marked c marker content).filter q = content.filter q := by
  unfold marked
  split
  · rfl
  · rw [wrapped, List.filter_append, List.filter_append, filter_ofText hq, List.append_nil,
      List.nil_append]

/-- A heading puts text around its content. -/
theorem filter_headingLine (content : Content) (level : Nat) :
    (headingLine content level).filter q = content.filter q := by
  rw [headingLine, List.filter_append, List.filter_append, filter_ofText hq, filter_ofText hq,
    filter_trim hq, List.append_nil, List.nil_append]

/-! ## Lists -/

/-- An item keeps the marks of its content, flattened. -/
theorem filter_listItem (content : Content) :
    (listItem content).filter q = content.flattenBlocks.filter q := by
  rw [listItem, List.filter_append, filter_joinWith hq, flatMap_filter_of_not_isBlank hq,
    List.flatMap_map]
  simp only [filter_trim hq, flatMap_filter_lines hq]
  simp [hq]

/-- So does an item with a box. -/
theorem filter_taskListItem (c : Conversion) (content : Content) (checked : Bool) :
    (taskListItem c content checked).filter q = content.flattenBlocks.filter q := by
  rw [taskListItem, filter_listItem hq, filter_flattenBlocks hq, List.filter_append,
    filter_ofText (by simp [hq]), filter_trim (by simp [hq]), List.nil_append,
    filter_flattenBlocks (by simp [hq]), filter_flattenBlocks hq]
  congr 1
  funext atom
  grind

/-- The lines of a list have the marks of its entries. -/
theorem flatMap_filter_listLines (indent : Text) (ordered : Bool) (number : Nat)
    (items : List ListEntry) :
    ((listLines indent ordered number items).flatMap fun line => line.filter q) =
      items.flatMap fun e => e.content.filter q ++ e.nested.filter q := by
  induction items generalizing number with
  | nil => rfl
  | cons entry items ih =>
    rw [listLines, List.cons_append, List.flatMap_cons, List.flatMap_append, ih,
      flatMap_filter_of_not_isBlank hq, flatMap_filter_lines hq, List.filter_append,
      filter_ofText hq, filter_trim hq, List.flatMap_cons, List.nil_append, List.append_assoc]

/-- So does the list. -/
theorem filter_list (c : Conversion) (items : List ListEntry) (ordered : Bool) (level start : Nat) :
    (list c items ordered level start).filter q =
      items.flatMap fun e => e.content.filter q ++ e.nested.filter q := by
  rw [list, List.filter_append, filter_joinWith hq, flatMap_filter_listLines hq, filter_ofText hq,
    List.append_nil]

/-! ## Quotations -/

/-- The marker of a quotation is text. -/
theorem filter_quoteLine (line : Content) : (quoteLine line).filter q = line.filter q := by
  unfold quoteLine
  split <;> simp [hq]

omit hq in
/-- Empty lines that are left out have no marks. -/
theorem flatMap_filter_squeezeEmpty (afterEmpty : Bool) (lines : List Content) :
    ((squeezeEmpty afterEmpty lines).flatMap fun line => line.filter q) =
      lines.flatMap fun line => line.filter q := by
  induction lines generalizing afterEmpty with
  | nil => rfl
  | cons line lines ih =>
    rw [squeezeEmpty, List.flatMap_cons]
    split
    · -- only an empty line is left out
      rename_i h
      obtain ⟨rfl, -⟩ : line = [] ∧ afterEmpty = true := by simpa using h
      rw [ih]
      rfl
    · rw [List.flatMap_cons, ih]

omit hq in
/-- Squeezing puts in no line. -/
theorem mem_of_mem_squeezeEmpty {afterEmpty : Bool} {lines : List Content} {line : Content}
    (h : line ∈ squeezeEmpty afterEmpty lines) : line ∈ lines := by
  induction lines generalizing afterEmpty with
  | nil => exact h
  | cons first lines ih =>
    rw [squeezeEmpty] at h
    split at h
    · exact List.mem_cons_of_mem _ (ih h)
    · rcases List.mem_cons.1 h with rfl | h
      · exact List.mem_cons_self
      · exact List.mem_cons_of_mem _ (ih h)

omit hq in
/-- The hard breaks between lines are not picked. -/
theorem filter_intersperse (hbreak : q .hardBreak = false) (lines : List Content) :
    ((lines.intersperse [.hardBreak]).flatten).filter q =
      lines.flatMap fun line => line.filter q := by
  induction lines with
  | nil => rfl
  | cons line lines ih =>
    cases lines with
    | nil => simp
    | cons next more =>
      rw [List.intersperse_cons_cons, List.flatten_cons, List.flatten_cons, List.filter_append,
        List.filter_append, ih, List.flatMap_cons]
      simp [hbreak]

/-- A quotation keeps the marks of its content, between boundaries. -/
theorem filter_blockQuote (hbreak : q .hardBreak = false) (content : Content) :
    (blockQuote content).filter q = (paragraphRegion content.flattenBlocks).filter q := by
  have hquoted : (((squeezeEmpty false
      ((content.flattenBlocks.trim.lines).map Content.trim)).map quoteLine).flatMap
        fun line => line.filter q) = content.flattenBlocks.filter q := by
    rw [List.flatMap_map]
    simp only [filter_quoteLine hq]
    rw [flatMap_filter_squeezeEmpty, List.flatMap_map]
    simp only [filter_trim hq, flatMap_filter_lines hq]
  simp only [blockQuote, paragraphRegion, List.cons_append, List.filter_cons, List.filter_append,
    filter_intersperse hbreak, hquoted]

end Render

end Gemtext

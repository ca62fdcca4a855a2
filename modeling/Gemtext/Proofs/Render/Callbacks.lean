import Gemtext.Render.Gemtext

/-!
# Sequences of callbacks

A session of the gemtext renderer is a list of calls, in any order and with any arguments: the
callbacks of `gemtextRenderer`, and the two functions that hand out the footnotes that wait.
`Callback.run` makes one call, and `stateAfter` makes them in turn.

Only links, paragraphs, headings and those two functions work on the footnotes.  All other calls
are quiet: they answer without a look at the footnotes, and keep them (`Callback.run_of_isQuiet`).
-/

namespace Gemtext

open Render

/-- A call of the renderer with its arguments. -/
inductive Callback where
  | text (s : Text)
  | softBreak
  | lineBreak
  | emphasis (content : Content)
  | strong (content : Content)
  | code (s : Text)
  | htmlInline (s : Text)
  | link (url : Text) (content : Content) (inner : Text)
  | image (src alt : Text)
  | paragraph (content : Content)
  | blockText (content : Content)
  | enterHeading
  | heading (content : Content) (level : Nat)
  | thematicBreak
  | codeBlock (body : Text) (info : Option Text)
  | blockQuote (content : Content)
  | htmlBlock (s : Text)
  | listItem (content : Content) (level : Nat)
  | taskListItem (content : Content) (level : Nat) (checked : Bool)
  | list (items : List ListEntry) (ordered : Bool) (level start : Nat)
  | tableCell (content : Content) (alignment : Alignment) (head : Bool)
  | tableHead (cells : Content)
  | tableRow (cells : Content)
  | table
  | renderFootnotes
  | finish
  deriving DecidableEq

namespace Callback

/-- Make the call.  Entering a heading answers with no content. -/
def run (c : Conversion) : Callback → StateM RenderState (Except TableError Content)
  | text s => .ok <$> (gemtextRenderer c).text s
  | softBreak => .ok <$> (gemtextRenderer c).softBreak
  | lineBreak => .ok <$> (gemtextRenderer c).lineBreak
  | emphasis content => .ok <$> (gemtextRenderer c).emphasis content
  | strong content => .ok <$> (gemtextRenderer c).strong content
  | code s => .ok <$> (gemtextRenderer c).code s
  | htmlInline s => .ok <$> (gemtextRenderer c).htmlInline s
  | link url content inner => .ok <$> (gemtextRenderer c).link url content inner
  | image src alt => .ok <$> (gemtextRenderer c).image src alt
  | paragraph content => .ok <$> (gemtextRenderer c).paragraph content
  | blockText content => .ok <$> (gemtextRenderer c).blockText content
  | enterHeading => (fun _ => .ok []) <$> (gemtextRenderer c).enterHeading
  | heading content level => .ok <$> (gemtextRenderer c).heading content level
  | thematicBreak => .ok <$> (gemtextRenderer c).thematicBreak
  | codeBlock body info => .ok <$> (gemtextRenderer c).codeBlock body info
  | blockQuote content => .ok <$> (gemtextRenderer c).blockQuote content
  | htmlBlock s => .ok <$> (gemtextRenderer c).htmlBlock s
  | listItem content level => .ok <$> (gemtextRenderer c).listItem content level
  | taskListItem content level checked =>
    .ok <$> (gemtextRenderer c).taskListItem content level checked
  | list items ordered level start =>
    .ok <$> (gemtextRenderer c).list items ordered level start
  | tableCell content alignment head =>
    .ok <$> (gemtextRenderer c).tableCell content alignment head
  | tableHead cells => .ok <$> (gemtextRenderer c).tableHead cells
  | tableRow cells => .ok <$> (gemtextRenderer c).tableRow cells
  | table => (gemtextRenderer c).table
  | renderFootnotes => .ok <$> Render.renderFootnotes c
  | finish => .ok <$> Render.finish c

/-- Whether the call has nothing to do with footnotes. -/
def isQuiet : Callback → Bool
  | link .. | paragraph _ | heading .. | renderFootnotes | finish => false
  | _ => true

/-- A quiet call keeps the footnotes, and answers the same whatever they are. -/
theorem run_of_isQuiet {call : Callback} (h : call.isQuiet) (c : Conversion) (s : RenderState)
    (footnotes : Footnotes) :
    (call.run c { s with footnotes }).1 = (call.run c s).1 ∧
      (call.run c s).2.footnotes = s.footnotes := by
  cases call with
  | link | paragraph | heading | renderFootnotes | finish => simp [isQuiet] at h
  | table =>
    -- the answer and the state left behind depend on the table that is being built
    have hrun (s : RenderState) : table.run c s = Render.table c s := rfl
    simp only [hrun, Render.table]
    cases s.table with
    | none => exact ⟨rfl, rfl⟩
    | some built =>
      cases hdraw : built.draw with
      | error cause => simp [hdraw]
      | ok drawn => simp [hdraw]
  | _ => exact ⟨rfl, rfl⟩

end Callback

/-- The state after the calls, made in turn from state `s`. -/
def stateAfter (c : Conversion) (s : RenderState) (calls : List Callback) : RenderState :=
  calls.foldl (fun s call => (call.run c s).2) s

@[simp]
theorem stateAfter_nil (c : Conversion) (s : RenderState) : stateAfter c s [] = s := rfl

@[simp]
theorem stateAfter_cons (c : Conversion) (s : RenderState) (call : Callback)
    (calls : List Callback) :
    stateAfter c s (call :: calls) = stateAfter c (call.run c s).2 calls := rfl

/-- Calls are made in two parts, one after the other. -/
theorem stateAfter_append (c : Conversion) (s : RenderState) (first second : List Callback) :
    stateAfter c s (first ++ second) = stateAfter c (stateAfter c s first) second :=
  List.foldl_append

/-- The state after one more call. -/
theorem stateAfter_take_succ (c : Conversion) (s : RenderState) {calls : List Callback} {n : Nat}
    {call : Callback} (h : calls[n]? = some call) :
    stateAfter c s (calls.take (n + 1)) = (call.run c (stateAfter c s (calls.take n))).2 := by
  rw [List.take_add_one, h, stateAfter_append]
  rfl

end Gemtext

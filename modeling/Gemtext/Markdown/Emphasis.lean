import Gemtext.Markdown.Node
import Gemtext.Markdown.Scan

/-!
# Emphasis

Runs of asterisks and underscores may open and close emphasis, depending on what stands around
them.  While a paragraph is read, runs are kept among the finished nodes as `Inline.run`;
`resolveEmphasis` then pairs closing runs with opening ones and makes text of what is left.
-/

namespace Gemtext

namespace Markdown

/-- A run of asterisks or underscores. -/
structure DelimiterRun where
  char : Char
  /-- How many characters are left of it. -/
  count : Nat
  /-- How many characters it had. -/
  length : Nat
  canOpen : Bool
  canClose : Bool
  deriving DecidableEq, Repr

/-- A piece of a line of text that is being read. -/
inductive Inline where
  | node (node : Node)
  | run (run : DelimiterRun)

/-- The run of `length` characters between the characters `before` and `after`, which are newlines
at the ends of the text. -/
def DelimiterRun.between (char : Char) (length : Nat) (before after : Char) : DelimiterRun :=
  let leftFlanking :=
    !isBlank after && !(isPunctuation after && !isBlank before && !isPunctuation before)
  let rightFlanking :=
    !isBlank before && !(isPunctuation before && !isBlank after && !isPunctuation after)
  if char = '_' then
    ⟨char, length, length, leftFlanking && (!rightFlanking || isPunctuation before),
      rightFlanking && (!leftFlanking || isPunctuation after)⟩
  else ⟨char, length, length, leftFlanking, rightFlanking⟩

/-- Whether the first run can open what the second one closes.  If one of the two can do both, their
lengths must not add up to a multiple of three, unless each is one. -/
def DelimiterRun.opens (opener closer : DelimiterRun) : Bool :=
  opener.canOpen && opener.char == closer.char &&
    !((closer.canOpen || opener.canClose) && (opener.length + closer.length) % 3 == 0 &&
      !(opener.length % 3 == 0 && closer.length % 3 == 0))

/-- The run as text. -/
def DelimiterRun.toText (run : DelimiterRun) : Text :=
  List.replicate run.count run.char

/-- The node that a piece is when nothing more is made of it. -/
def Inline.toNode : Inline → Node
  | node n => n
  | run r => .mk (.text r.toText) []

/-- The nodes with neighbouring texts joined. -/
def joinTexts : List Node → List Node
  | [] => []
  | node :: nodes =>
    match node, joinTexts nodes with
    | .mk (.text s) _, .mk (.text t) _ :: rest => .mk (.text (s ++ t)) [] :: rest
    | node, rest => node :: rest

/-- Find the nearest run that opens what `closer` closes in a list of pieces, the last one first:
the pieces after it, the run, and the pieces before it. -/
def findOpener? (closer : DelimiterRun) :
    List Inline → Option (List Inline × DelimiterRun × List Inline)
  | [] => none
  | piece :: before =>
    let further := (findOpener? closer before).map fun (after, found) => (piece :: after, found)
    match piece with
    | .run r => if r.opens closer then some ([], r, before) else further
    | .node _ => further

/-- The run with `used` of its characters gone, if any are left. -/
def DelimiterRun.remaining (run : DelimiterRun) (used : Nat) : List Inline :=
  if run.count ≤ used then [] else [.run { run with count := run.count - used }]

/-- Close with a run as often as an opening run is found, at most `most` times.  `done` are the
pieces before it, the last one first; the answer is those up to and including the run. -/
def closeRun (most : Nat) (closer : DelimiterRun) (done : List Inline) : List Inline :=
  match most with
  | 0 => .run closer :: done
  | most + 1 =>
    match findOpener? closer done with
    | none => (if closer.canOpen then .run closer else .node (Inline.run closer).toNode) :: done
    | some (inside, opener, before) =>
      let used := if 2 ≤ opener.count && 2 ≤ closer.count then 2 else 1
      let kind : NodeKind := if used = 2 then .strong else .emphasis
      let emphasis := Inline.node (.mk kind (joinTexts (inside.reverse.map Inline.toNode)))
      let done := emphasis :: (opener.remaining used ++ before)
      if closer.count ≤ used then done
      else closeRun most { closer with count := closer.count - used } done

/-- Pair the runs in a list of pieces.  `done` are the pieces before them, the last one first. -/
def pairRuns (done : List Inline) : List Inline → List Inline
  | [] => done.reverse
  | .run r :: rest =>
    if r.canClose then pairRuns (closeRun r.count r done) rest else pairRuns (.run r :: done) rest
  | piece :: rest => pairRuns (piece :: done) rest

/-- The nodes of a list of pieces.  No two texts among them are neighbours. -/
def resolveEmphasis (pieces : List Inline) : List Node :=
  joinTexts ((pairRuns [] pieces).map Inline.toNode)

end Markdown

end Gemtext

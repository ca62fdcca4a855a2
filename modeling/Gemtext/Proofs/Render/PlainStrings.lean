import Gemtext.Proofs.Render.Frame
import Gemtext.Proofs.Render.Marks
import Gemtext.Proofs.Render.Numbering

/-!
# Plain strings

The strings of a tree and of the options may be restricted to plain ones (`Node.isPlain`,
`Config.Plain`).  What the renderer makes of them is plain as well: the bare text below a node, the
targets of links, and the labels.  So every link line of the rendered content and of the footnotes
that wait is written on one line (`keeps_oneLine`).
-/

namespace Gemtext

open Text

/-- The strings of the options hold neither backticks nor newlines, the function of the options
keeps targets that way, and the indent is made of spaces and tabs. -/
structure Config.Plain (c : Config) : Prop where
  codeTag : c.codeTag.isPlain
  imgTag : c.imgTag.isPlain
  baseUrl : c.baseUrl.isPlain
  tableTag : c.tableTag.isPlain
  indent : ∀ x ∈ c.indent, x = ' ' ∨ x = '\t'
  retarget : ∀ f, c.retarget = some f → ∀ url : Text, url.isPlain → (f url).isPlain

namespace Markdown

/-- Whether the strings of a node are plain.  The literal of a code block or of an HTML block may
hold newlines, and a code span may not be empty. -/
def NodeKind.isPlain : NodeKind → Bool
  | text s | htmlInline s | link s | image s => s.isPlain
  | code s => s.isPlain && !s.isEmpty
  | codeBlock info literal => info.isPlain && !literal.contains '`'
  | htmlBlock literal => !literal.contains '`'
  | _ => true

namespace Node

/-- Whether the strings of the node and of all below it are plain. -/
def isPlain (node : Node) : Bool :=
  everywhere (fun node => node.kind.isPlain) node

/-- The text of plain nodes is plain. -/
theorem isPlain_innerTexts {nodes : List Node}
    (h : everywhereAll (fun node => node.kind.isPlain) nodes) : (innerTexts nodes).isPlain :=
  all_innerTexts rfl (fun _ htext => htext) (fun _ hcode => (Bool.and_eq_true_iff.1 hcode).1) h

end Node

end Markdown

/-! ## Targets -/

/-- A target that is pointed to gemtext stays plain. -/
theorem Library.isPlain_gemtextTarget {l : Library} {url target : Text}
    (h : l.gemtextTarget? url = some target) (hurl : url.isPlain) : target.isPlain := by
  unfold gemtextTarget? at h
  split at h
  · obtain ⟨stem, hstem, rfl⟩ := Option.map_eq_some_iff.1 h
    refine isPlain_append (isPlain_of_subset (fun c hc => ?_) hurl) (by decide)
    -- the stem is cut off from the part of the target before its fragment
    unfold dropEnd? at hstem
    split at hstem
    · rw [← Option.some.inj hstem] at hc
      exact (List.takeWhile_prefix _).mem (List.mem_of_mem_take hc)
    · cases hstem
  · cases h

/-- The built-in strings are plain. -/
theorem Config.plain_default : Config.default.Plain where
  codeTag := rfl
  imgTag := by decide
  baseUrl := rfl
  tableTag := by decide
  indent := by simp [Config.default]
  retarget _ h := by cases h

/-- A plain target stays plain behind the base. -/
theorem Config.isPlain_applyBaseUrl {c : Config} {url : Text} (hc : c.Plain)
    (hurl : url.isPlain) : (c.applyBaseUrl url).isPlain := by
  unfold applyBaseUrl
  split
  · exact hurl
  · exact isPlain_append hc.baseUrl hurl
  · exact hurl

/-- A plain target is resolved to a plain one. -/
theorem Conversion.isPlain_resolveTarget {c : Conversion} {url : Text} (hc : c.Plain)
    (hurl : url.isPlain) : (c.resolveTarget url).isPlain := by
  -- first it may be pointed to gemtext, then an override may rewrite it
  have hpointed : (if c.mdLinks then (c.gemtextTarget? url.trim).getD url.trim
      else url.trim).isPlain := by
    have htrim := isPlain_trim hurl
    split
    · cases htarget : c.gemtextTarget? url.trim with
      | none => exact htrim
      | some target => exact Library.isPlain_gemtextTarget htarget htrim
    · exact htrim
  unfold resolveTarget
  dsimp only
  refine Config.isPlain_applyBaseUrl hc ?_
  split
  · exact hpointed
  · rename_i f hf
    exact hc.retarget f hf _ hpointed

/-! ## Link lines that are written on one line -/

/-- A link line whose target and label hold no newline is written on one line. -/
theorem LinkLine.newline_not_mem_print {url : Text} {label : Option Text} (hurl : '\n' ∉ url)
    (hlabel : ∀ shown, label = some shown → '\n' ∉ shown) :
    '\n' ∉ (LinkLine.ofTrimmed url label).print := by
  have htrim : '\n' ∉ url.trim := fun h => hurl (mem_of_mem_trim h)
  unfold print
  split
  · simp [ofTrimmed, htrim]
  · rename_i shown hshown
    obtain ⟨hmap, -⟩ := Option.filter_eq_some_iff.1 hshown
    obtain ⟨text, htext, rfl⟩ := Option.map_eq_some_iff.1 hmap
    have hshown : '\n' ∉ text.trim := fun h => hlabel text htext (mem_of_mem_trim h)
    simp [ofTrimmed, htrim, hshown]

/-- The link line of the footnote is written on one line. -/
structure Footnote.OneLine (note : Footnote) : Prop where
  url : '\n' ∉ note.url
  text : '\n' ∉ note.text

namespace Content

variable {c d : Content}

/-- Every link line of the content is written on one line. -/
def OneLineLinks (c : Content) : Prop :=
  ∀ line, .link line ∈ c → '\n' ∉ line.print

namespace OneLineLinks

/-- Only the link lines matter. -/
theorem congr (h : c.filter Atom.isLink = d.filter Atom.isLink) (hd : OneLineLinks d) :
    OneLineLinks c := by
  intro line hline
  have hmem : .link line ∈ c.filter Atom.isLink := List.mem_filter.2 ⟨hline, rfl⟩
  rw [h] at hmem
  exact hd line (List.mem_filter.1 hmem).1

theorem nil : OneLineLinks [] := nofun

theorem append (hc : OneLineLinks c) (hd : OneLineLinks d) : OneLineLinks (c ++ d) :=
  fun line hline => (List.mem_append.1 hline).elim (hc line) (hd line)

theorem ofText (s : Text) : OneLineLinks (Content.ofText s) :=
  congr (filter_ofText (fun _ => rfl) s) nil

/-- A link line on one line in front. -/
theorem link {line : LinkLine} (hline : '\n' ∉ line.print) (hc : OneLineLinks c) :
    OneLineLinks (.link line :: c) := by
  intro other hother
  rcases List.mem_cons.1 hother with heq | hother
  · rw [Atom.link.inj heq]
    exact hline
  · exact hc other hother

theorem linkLines (hc : OneLineLinks c) : OneLineLinks c.linkLines :=
  fun line hline => hc line (List.mem_filter.1 hline).1

theorem flattenBlocks (hc : OneLineLinks c) : OneLineLinks c.flattenBlocks := by
  refine fun line hline => hc line ?_
  obtain ⟨atom, hatom, heq⟩ := List.mem_map.1 hline
  cases atom <;> simp_all

theorem paragraphRegion (hc : OneLineLinks c) : OneLineLinks (Render.paragraphRegion c) :=
  congr (by simp [Render.paragraphRegion, Atom.isLink]) hc

end OneLineLinks

end Content

/-- Whatever link lines the state still holds, they are written on one line each. -/
structure RenderState.OneLine (s : RenderState) : Prop where
  footnotes : ∀ note ∈ s.footnotes.pending, note.OneLine
  tableLinks : Content.OneLineLinks s.tableLinks

namespace Render

open Content Markdown Node

variable {c : Conversion} {content : Content} {s : RenderState}

/-- The line of a footnote on one line is on one line. -/
theorem newline_not_mem_footnoteLine {note : Footnote} (h : note.OneLine) (mode : LinkMode)
    (number : Nat) : '\n' ∉ (footnoteLine mode number note).print := by
  have hnumbered : '\n' ∉ (numberedLine number note).print := by
    refine LinkLine.newline_not_mem_print h.url fun shown hshown => ?_
    obtain rfl := Option.some.inj hshown
    have hnumber : '\n' ∉ Text.ofNat number := fun hmem =>
      absurd (isDigit_of_mem_ofNat hmem) (by decide)
    simp [hnumber, h.url]
  cases mode with
  | copy =>
    refine LinkLine.newline_not_mem_print h.url fun shown hshown => ?_
    exact Option.some.inj hshown ▸ h.text
  | _ => exact hnumbered

/-- Footnotes that are handed out do not wait any longer. -/
theorem oneLine_flushFootnotes (hs : s.OneLine) (limit : Nat) :
    OneLineLinks (flushFootnotes c limit s).1 ∧ (flushFootnotes c limit s).2.OneLine := by
  unfold flushFootnotes
  split
  · refine ⟨fun line hline => ?_, fun note hnote => hs.footnotes note (List.mem_of_mem_drop hnote),
      hs.tableLinks⟩
    obtain ⟨⟨note, number⟩, hnote, heq⟩ := List.mem_map.1 hline
    obtain rfl := Atom.link.inj heq
    have hmem := List.fst_mem_of_mem_zipIdx hnote
    exact newline_not_mem_footnoteLine (hs.footnotes note (List.mem_of_mem_take hmem)) _ _
  · exact ⟨.nil, hs⟩

/-- A label consists of words, joined by spaces. -/
theorem linkLabel?_eq_some {url inner label : Text}
    (h : linkLabel? url content inner = some label) :
    label = content.plainText.collapseBlank ∨ label = inner.collapseBlank := by
  unfold linkLabel? at h
  dsimp only at h
  obtain ⟨-, hlabel⟩ := Option.ite_none_left_eq_some.1 h
  rw [← Option.some.inj hlabel]
  split
  · exact .inr rfl
  · exact .inl rfl

/-- A label is collapsed onto one line. -/
theorem newline_not_mem_linkLabel {url inner label : Text}
    (h : linkLabel? url content inner = some label) : '\n' ∉ label := by
  rcases linkLabel?_eq_some h with rfl | rfl
  · exact newline_not_mem_collapseBlank _
  · exact newline_not_mem_collapseBlank _

/-- The lines of a link are on one line, and so is the footnote that is kept of it. -/
theorem oneLine_link (hc : c.Plain) {url : Text} (hurl : url.isPlain) (inner : Text)
    (hcontent : OneLineLinks content) (hs : s.OneLine) :
    OneLineLinks (link c url content inner s).1 ∧ (link c url content inner s).2.OneLine := by
  have htarget : '\n' ∉ c.resolveTarget url.trim :=
    (isPlain_iff.1 (Conversion.isPlain_resolveTarget hc (isPlain_trim hurl))).2
  have hlinks := hcontent.linkLines
  unfold link
  dsimp only
  split
  · refine ⟨?_, hs⟩
    dsimp only
    split
    · exact .ofText _
    · exact hcontent
  · split
    · refine ⟨(OneLineLinks.ofText _).append hlinks, fun note hnote => ?_, hs.tableLinks⟩
      -- the new footnote shows its label or its target
      rcases List.mem_append.1 hnote with hnote | hnote
      · exact hs.footnotes note hnote
      · obtain rfl := List.mem_singleton.1 hnote
        refine ⟨htarget, ?_⟩
        cases hlabel : linkLabel? url.trim content inner with
        | none => exact htarget
        | some label => exact newline_not_mem_linkLabel hlabel
    · refine ⟨.link (LinkLine.newline_not_mem_print htarget fun label hlabel => ?_) hlinks, hs⟩
      exact newline_not_mem_linkLabel hlabel

/-- The line of an image is on one line. -/
theorem oneLine_image (hc : c.Plain) {src alt : Text} (hsrc : src.isPlain) (halt : alt.isPlain) :
    OneLineLinks (image c src alt) := by
  unfold image
  dsimp only
  split
  · exact .ofText _
  · have htarget : '\n' ∉ c.applyBaseUrl src.trim :=
      (isPlain_iff.1 (Config.isPlain_applyBaseUrl hc (isPlain_trim hsrc))).2
    refine .link (LinkLine.newline_not_mem_print htarget fun label hlabel hn => ?_) .nil
    obtain rfl := Option.some.inj hlabel
    rcases Text.mem_joinWith hn with hn | ⟨part, hpart, hn⟩
    · exact absurd hn (by decide)
    · -- a part of the label is the text of the image or the image tag
      have hpart := (List.mem_filter.1 hpart).1
      simp only [List.mem_cons, List.not_mem_nil, or_false] at hpart
      rcases hpart with rfl | rfl
      · exact (isPlain_iff.1 halt).2 (mem_of_mem_trim hn)
      · exact (isPlain_iff.1 hc.imgTag).2 (mem_of_mem_trim hn)

/-- So are the lines that a paragraph hands out. -/
theorem oneLine_paragraph (hcontent : OneLineLinks content) (hs : s.OneLine) :
    OneLineLinks (paragraph c content s).1 ∧ (paragraph c content s).2.OneLine := by
  unfold paragraph
  dsimp only
  split
  · -- the line of the footnote that is withdrawn takes the place of the paragraph
    rename_i note footnotes hsingle
    have hdemote : s.footnotes.demote? = some (note, footnotes) :=
      (Option.ite_none_right_eq_some.1 hsingle).2
    obtain ⟨hpending, rfl⟩ := Footnotes.demote?_eq_some.1 hdemote
    have hnote := hs.footnotes note (by rw [hpending]; exact List.mem_singleton_self note)
    refine ⟨.paragraphRegion (.link ?_ hcontent.linkLines), ?_, hs.tableLinks⟩
    · refine LinkLine.newline_not_mem_print hnote.url fun shown hshown => ?_
      split at hshown
      · cases hshown
      · exact Option.some.inj hshown ▸ hnote.text
    · exact fun other hother => absurd hother List.not_mem_nil
  · split
    · obtain ⟨hnotes, hstate⟩ := oneLine_flushFootnotes (c := c) hs s.footnotes.pending.length
      exact ⟨hcontent.paragraphRegion.append hnotes.paragraphRegion, hstate⟩
    · exact ⟨hcontent.paragraphRegion, hs⟩

/-- So are the lines that a heading hands out. -/
theorem oneLine_heading (level : Nat) (hcontent : OneLineLinks content) (hs : s.OneLine) :
    OneLineLinks (heading c content level s).1 ∧ (heading c content level s).2.OneLine := by
  have hline : OneLineLinks (headingLine content level) :=
    hcontent.congr (filter_headingLine (fun _ => rfl) ..)
  unfold heading
  split
  · have hmark : RenderState.OneLine { s with headingMark := 0 } := ⟨hs.footnotes, hs.tableLinks⟩
    obtain ⟨hnotes, hstate⟩ := oneLine_flushFootnotes (c := c) hmark s.headingMark
    exact ⟨hnotes.paragraphRegion.append hline, hstate⟩
  · exact ⟨hline, hs⟩

/-- What has no children has no link line, or is an image. -/
theorem oneLine_leaf (hc : c.Plain) {kind : NodeKind} {children : List Node}
    {call : StateM RenderState Content} (hkind : kind.isPlain)
    (hchildren : everywhereAll (fun node => node.kind.isPlain) children)
    (h : leafCall? (gemtextRenderer c) kind children = some call) :
    OneLineLinks (call s).1 := by
  cases kind <;> cases h
  case frontMatter => exact .nil
  case lineBreak => exact .congr (d := []) rfl .nil
  case softBreak => exact .ofText ['\n']
  case htmlBlock html =>
    show OneLineLinks (Render.htmlBlock c html)
    unfold Render.htmlBlock
    split <;> exact .ofText _
  case htmlInline html =>
    show OneLineLinks (Render.htmlInline c html)
    unfold Render.htmlInline
    split
    · exact .nil
    · exact .ofText _
  case image url => exact oneLine_image hc hkind (isPlain_innerTexts hchildren)
  -- all other leaves are text
  all_goals exact .ofText _

/-- Closing a node keeps link lines on one line. -/
theorem oneLine_closeCall (hc : c.Plain) (tight : Bool) {kind : NodeKind} (children : List Node)
    (hkind : kind.isPlain) (hcontent : OneLineLinks content) (hs : s.OneLine) :
    OneLineLinks (closeCall (gemtextRenderer c) tight kind children content s).1 ∧
      (closeCall (gemtextRenderer c) tight kind children content s).2.OneLine := by
  have hmarked (marker : Text) : OneLineLinks (marked c marker content) :=
    hcontent.congr (filter_marked (fun _ => rfl) ..)
  cases kind with
  | paragraph =>
    -- in a tight list nothing is handed out
    cases tight with
    | true => exact ⟨hcontent.append (.ofText ['\n']), hs⟩
    | false => exact oneLine_paragraph hcontent hs
  | heading depth => exact oneLine_heading depth hcontent hs
  | blockQuote =>
    have hlinks := filter_blockQuote (q := Atom.isLink) (fun _ => rfl) rfl content
    exact ⟨hcontent.flattenBlocks.paragraphRegion.congr hlinks, hs⟩
  | emphasis => exact ⟨hmarked _, hs⟩
  | strong => exact ⟨hmarked _, hs⟩
  | link url => exact oneLine_link hc hkind _ hcontent hs
  | _ => exact ⟨hcontent, hs⟩

/-- So does drawing a table. -/
theorem oneLine_table {drawn : Content} {s' : RenderState} (hs : s.OneLine)
    (h : table c s = (.ok drawn, s')) : OneLineLinks drawn ∧ s'.OneLine := by
  unfold table at h
  split at h
  · cases h
    exact ⟨.nil, hs.footnotes, .nil⟩
  · split at h
    · cases h
    · cases h
      refine ⟨(OneLineLinks.ofText _).append ?_, hs.footnotes, .nil⟩
      split
      · exact .nil
      · exact hs.tableLinks.append (.ofText _)

/-- Every call writes its link lines on one line each. -/
theorem keeps_oneLine (hc : c.Plain) :
    (gemtextRenderer c).Keeps (fun node => node.kind.isPlain) RenderState.OneLine OneLineLinks where
  nil := .nil
  append := .append
  leaf hp hcall hs := by
    obtain ⟨hkind, hchildren⟩ := everywhere_mk.1 hp
    exact ⟨oneLine_leaf hc hkind hchildren hcall, by rwa [state_leafCall hcall]⟩
  opening kind _ hs := by cases kind <;> exact ⟨hs.footnotes, hs.tableLinks⟩
  closing tight _ children _ _ hp hcontent hs :=
    oneLine_closeCall hc tight children (everywhere_mk.1 hp).1 hcontent hs
  item kind level content s hcontent hs := by
    refine ⟨?_, by rwa [state_itemCall]⟩
    have hitem : OneLineLinks (listItem content) :=
      hcontent.flattenBlocks.congr (filter_listItem (fun _ => rfl) content)
    have htask (checked : Bool) : OneLineLinks (taskListItem c content checked) :=
      hcontent.flattenBlocks.congr (filter_taskListItem (fun _ => rfl) c content checked)
    cases kind with
    | taskItem symbol => exact htask _
    | _ => exact hitem
  list ordered level start entries s h hs := by
    refine ⟨fun line hline => ?_, hs⟩
    -- a link line of a list stands in one of its entries
    have hmem : .link line ∈ (list c entries ordered level start).filter Atom.isLink :=
      List.mem_filter.2 ⟨hline, rfl⟩
    rw [filter_list fun _ => rfl] at hmem
    obtain ⟨e, he, hline⟩ := List.mem_flatMap.1 hmem
    rcases List.mem_append.1 hline with hline | hline
    · exact (h e he).1 line (List.mem_filter.1 hline).1
    · exact (h e he).2 line (List.mem_filter.1 hline).1
  cell _ _ content s hcontent hs := ⟨hs.footnotes, hs.tableLinks.append hcontent.linkLines⟩
  row kind cells s hs := by
    unfold rowCall
    split <;> exact ⟨.nil, hs.footnotes, hs.tableLinks⟩
  table _ hs h := oneLine_table hs h

end Render

end Gemtext

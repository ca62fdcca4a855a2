import Gemtext.Proofs.Layout.Bland
import Gemtext.Proofs.Render.Fences

/-!
# Tame strings

A string is tame if it holds neither a backtick nor a carriage return; it may hold newlines.  If the
strings of a tree and of the options are tame (`NodeKind.isTame`, `Config.Tame`), all backticks of a
rendered line belong to its code spans, and no carriage return stands in it or in its link lines
(`BlandLine`, `keepsInline_blandLine`).
-/

namespace Gemtext

open Text Layout

/-- The strings of the options are tame, and the indent is made of spaces and tabs. -/
structure Config.Tame (c : Config) : Prop where
  codeTag : c.codeTag.isTame
  imgTag : c.imgTag.isTame
  baseUrl : c.baseUrl.isTame
  tableTag : c.tableTag.isTame
  indent : ∀ x ∈ c.indent, x = ' ' ∨ x = '\t'

/-- The built-in strings are tame. -/
theorem Config.tame_default : Config.default.Tame where
  codeTag := rfl
  imgTag := by decide
  baseUrl := rfl
  tableTag := by decide
  indent := by simp [Config.default]

/-- Whether the strings of a node are tame, and the target that a link is resolved to.  A code span
may not be empty. -/
def Markdown.NodeKind.isTame (c : Conversion) : NodeKind → Bool
  | text s | htmlInline s | image s => s.isTame
  | link url => url.isTame && (c.resolveTarget url.trim).isTame
  | code s => s.isTame && !s.isEmpty
  | codeBlock info literal => info.isTame && literal.isTame
  | htmlBlock literal => literal.isTame
  | _ => true

open Markdown Node in
/-- The text of tame nodes is tame. -/
theorem Markdown.Node.isTame_innerTexts {c : Conversion} {nodes : List Node}
    (h : everywhereAll (fun node => node.kind.isTame c) nodes) : (innerTexts nodes).isTame :=
  all_innerTexts rfl (fun _ htext => htext) (fun _ hcode => (Bool.and_eq_true_iff.1 hcode).1) h

/-- A tame target stays tame behind the base. -/
theorem Config.isTame_applyBaseUrl {c : Config} (hc : c.Tame) {url : Text} (hurl : url.isTame) :
    (c.applyBaseUrl url).isTame := by
  unfold applyBaseUrl
  split
  · exact hurl
  · exact isTame_append hc.baseUrl hurl
  · exact hurl

/-! ## Lines -/

namespace Content

variable {c d : Content}

/-- The backticks of the content belong to its code spans, and neither a carriage return nor a
boundary stands in it. -/
structure BlandLine (c : Content) : Prop extends SpannedLine c where
  noReturn : .char '\r' ∉ c
  links : BlandLinks c

/-- The plain text consists of the characters. -/
theorem mem_plainText {x : Char} : x ∈ plainText c ↔ .char x ∈ c := by
  rw [plainText, List.mem_filterMap]
  constructor
  · rintro ⟨atom, hatom, heq⟩
    cases atom <;> simp_all
  · exact fun h => ⟨_, h, rfl⟩

namespace BlandLinks

theorem nil : BlandLinks [] := nofun

theorem append (hc : BlandLinks c) (hd : BlandLinks d) : BlandLinks (c ++ d) := fun line hline =>
  (List.mem_append.1 hline).elim (hc line) (hd line)

theorem ofText (s : Text) : BlandLinks (Content.ofText s) := fun _ hline => by
  simp [Content.ofText] at hline

theorem linkLines (hc : BlandLinks c) : BlandLinks c.linkLines := fun line hline =>
  hc line (List.mem_filter.1 hline).1

end BlandLinks

namespace BlandLine

theorem nil : BlandLine [] :=
  ⟨.nil, List.not_mem_nil, .nil⟩

theorem append (hc : BlandLine c) (hd : BlandLine d) : BlandLine (c ++ d) :=
  ⟨hc.toSpannedLine.append hd.toSpannedLine, by simp [hc.noReturn, hd.noReturn],
    hc.links.append hd.links⟩

/-- A text whose backticks belong to code is a bland line. -/
theorem ofText {s : Text} (h : Spanned s) (hreturn : '\r' ∉ s) : BlandLine (Content.ofText s) :=
  ⟨.ofText h, by simpa [Content.ofText] using hreturn, .ofText s⟩

/-- So is a tame text. -/
theorem ofText_of_isTame {s : Text} (h : s.isTame) : BlandLine (Content.ofText s) :=
  .ofText (.of_not_mem (isTame_iff.1 h).1) (isTame_iff.1 h).2

/-- So are bland link lines. -/
theorem of_isLink (h : ∀ atom ∈ c, atom.isLink) (hlinks : BlandLinks c) : BlandLine c :=
  ⟨.of_isLink h, fun hmem => absurd (h _ hmem) Bool.false_ne_true, hlinks⟩

theorem linkLines (hc : BlandLine c) : BlandLine c.linkLines :=
  .of_isLink (fun _ hatom => (List.mem_filter.1 hatom).2) hc.links.linkLines

theorem trim (h : BlandLine c) : BlandLine c.trim :=
  ⟨h.toSpannedLine.trim, fun hmem => h.noReturn (mem_of_mem_trim hmem),
    fun line hline => h.links line (mem_of_mem_trim hline)⟩

/-- Spaces in place of newlines leave a line bland. -/
theorem newlinesToSpaces (h : BlandLine c) : BlandLine c.newlinesToSpaces where
  spanned := by
    rw [Spanned, read_newlinesToSpaces]
    exact h.spanned
  noBoundary hmem := (mem_newlinesToSpaces hmem).elim h.noBoundary nofun
  noReturn hmem := (mem_newlinesToSpaces hmem).elim h.noReturn (by decide)
  links line hline := (mem_newlinesToSpaces hline).elim (h.links line) nofun

/-- No fence is shown, whatever becomes of the hard breaks. -/
theorem bland (h : BlandLine c) : Bland (parted c.flattenBlocks) :=
  @bland_parted_flattenBlocks c h.links []
    (.of_spanned h.spanned fun hmem => h.noReturn (mem_plainText.1 hmem))

end BlandLine

end Content

/-- A link line whose target is tame and whose label is bland. -/
theorem LinkLine.bland_print {url : Text} {label : Option Text} (hurl : url.isTame)
    (hlabel : ∀ shown, label = some shown → Bland shown) :
    Bland (LinkLine.ofTrimmed url label).print := by
  have htarget : Bland ("=> ".toList ++ url.trim) :=
    .append_left rfl (.of_isTame (isTame_trim hurl))
  unfold print
  split
  · exact htarget
  · rename_i shown hshown
    obtain ⟨hmap, -⟩ := Option.filter_eq_some_iff.1 hshown
    obtain ⟨text, htext, rfl⟩ := Option.map_eq_some_iff.1 hmap
    exact htarget.append_cons ((hlabel text htext).of_isInfix (trim_isInfix text)) (by decide)
      (by decide)

/-! ## Inline nodes -/

namespace Render

open Content Markdown Node

variable {c : Conversion} {content : Content} {s : RenderState}

/-- A link with tame strings is a bland line. -/
theorem blandLine_link (hmode : ¬c.links.usesFootnotes) {url inner : Text} (hurl : url.isTame)
    (htarget : (c.resolveTarget url.trim).isTame) (hinner : inner.isTame)
    (hcontent : BlandLine content) : BlandLine (link c url content inner s).1 := by
  unfold link
  dsimp only
  split
  · dsimp only
    split
    · exact .ofText_of_isTame (isTame_trim hurl)
    · exact hcontent
  · have hline : Bland (LinkLine.ofTrimmed (c.resolveTarget url.trim)
        (linkLabel? url.trim content inner)).print := by
      refine LinkLine.bland_print htarget fun label hlabel => ?_
      -- a label consists of words, from the rendered text or from the bare text
      rcases linkLabel?_eq_some hlabel with rfl | rfl
      · exact .of_spanned hcontent.spanned.collapseBlank (return_not_mem_collapseBlank _)
      · exact .of_spanned (Spanned.of_not_mem (isTame_iff.1 hinner).1).collapseBlank
          (return_not_mem_collapseBlank _)
    have hlink : BlandLine [.link (.ofTrimmed (c.resolveTarget url.trim)
        (linkLabel? url.trim content inner))] :=
      .of_isLink (by simp [Atom.isLink]) (by simpa [BlandLinks] using hline)
    exact hlink.append hcontent.linkLines

/-- So is an image. -/
theorem blandLine_image (hc : c.Tame) {src alt : Text} (hsrc : src.isTame) (halt : alt.isTame) :
    BlandLine (image c src alt) := by
  unfold image
  dsimp only
  -- without links the text or the target is shown
  split
  · refine .ofText_of_isTame ?_
    split
    · exact isTame_trim hsrc
    · exact isTame_trim halt
  · refine .of_isLink (by simp [Atom.isLink]) fun line hline => ?_
    obtain rfl := Atom.link.inj (List.mem_singleton.1 hline)
    have hurl := Config.isTame_applyBaseUrl hc (isTame_trim hsrc)
    refine LinkLine.bland_print hurl fun label hlabel => ?_
    obtain rfl := Option.some.inj hlabel
    refine .joinWith (fun part hpart => ?_) (by decide) (by decide)
    -- the label is made of the text of the image and the image tag
    have hpart : part.isTame := by
      have hmem := (List.mem_filter.1 hpart).1
      simp only [List.mem_cons, List.not_mem_nil, or_false] at hmem
      rcases hmem with rfl | rfl
      · exact isTame_trim halt
      · exact isTame_trim hc.imgTag
    exact .of_isTame hpart

/-- So is code. -/
theorem blandLine_codeSpan {code : Text} (h : code.isTame) (hne : code ≠ []) :
    BlandLine (codeSpan c code) := by
  obtain ⟨htick, hreturn⟩ := isTame_iff.1 h
  unfold codeSpan
  split
  · exact .ofText_of_isTame h
  · exact .ofText (.code hne htick) (by simp [hreturn])

/-- So is emphasis. -/
theorem blandLine_marked {marker : Text} (hmarker : marker.isTame) (hcontent : BlandLine content) :
    BlandLine (marked c marker content) := by
  have hmark := BlandLine.ofText_of_isTame hmarker
  unfold marked
  split
  · exact hcontent
  · exact (hmark.append hcontent).append hmark

/-- Lines of tame strings are bland. -/
theorem keepsInline_blandLine (hc : c.Tame) (hmode : ¬c.links.usesFootnotes) :
    (gemtextRenderer c).KeepsInline (fun node => node.kind.isTame c)
      fun _ content _ => BlandLine content where
  nil _ := .nil
  append := .append
  leaf {kind children call} s hp hinline hcall := by
    obtain ⟨hkind, hchildren⟩ := everywhere_mk.1 hp
    cases kind <;> cases hcall
    case text s => exact .ofText_of_isTame hkind
    case softBreak => exact .ofText_of_isTame (s := ['\n']) rfl
    case lineBreak =>
      show BlandLine [.hardBreak]
      exact ⟨⟨rfl, by decide⟩, by decide, fun line hline => by simp at hline⟩
    case code code =>
      obtain ⟨htame, hne⟩ := Bool.and_eq_true_iff.1 hkind
      exact blandLine_codeSpan htame (by simpa using hne)
    case htmlInline html =>
      show BlandLine (Render.htmlInline c html)
      unfold Render.htmlInline
      split
      · exact .nil
      · exact .ofText_of_isTame hkind
    case image url => exact blandLine_image hc hkind (isTame_innerTexts hchildren)
    -- all other leaves are blocks
    all_goals cases hinline
  closing tight {kind children s content s₁} hp hinline hcontent := by
    obtain ⟨hkind, hchildren⟩ := everywhere_mk.1 hp
    cases kind with
    | emphasis => exact blandLine_marked rfl hcontent
    | strong => exact blandLine_marked rfl hcontent
    | link url =>
      obtain ⟨hurl, htarget⟩ := Bool.and_eq_true_iff.1 hkind
      exact blandLine_link hmode hurl htarget (isTame_innerTexts hchildren) hcontent
    | strikethrough | superscript => exact hcontent
    | _ => first | exact hcontent | cases hinline

end Render

end Gemtext

import Gemtext.Standard.Library
import Gemtext.Proofs.Layout.LinkLines
import Gemtext.Proofs.Text.Characters
import Gemtext.Render.Gemtext

/-!
# Link lines are read back

A reader of gemtext takes the first word behind the arrow for the target of a link line, and what
follows it for the label (`LinkLine.read?`).  A link line is readable if it is one line and is read
as what it stands for.  This holds of a trimmed link line exactly if its target is one word, or is
missing together with the label, and if no newline is in its label
(`LinkLine.readable_ofTrimmed_iff`).

The label of a link is made of words, so a link depends on its target only.  The text of an image
and the image tag are written as they are, with the newlines in them (`readable_link_lines`,
`breaks_image_line`).
-/

namespace Gemtext

open Text

namespace LinkLine

/-- The target and the label that stand behind an arrow. -/
def parts (s : Text) : LinkLine :=
  let label := Text.trim (s.dropWhile (!isBlank ·))
  ⟨s.takeWhile (!isBlank ·), if label.isEmpty then none else some label⟩

/-- Read a line as a link line. -/
def read? (s : Text) : Option LinkLine :=
  (dropStart? "=>".toList s).map fun rest => parts rest.trimStart

/-- The link line is one line, and is read as what it stands for. -/
structure Readable (line : LinkLine) : Prop where
  single : '\n' ∉ line.print
  read : read? line.print = some line

/-- The target is one word, or nothing is written at all. -/
structure Separable (line : LinkLine) : Prop where
  visible : ∀ x ∈ line.url, isBlank x = false
  label_eq_none : line.url = [] → line.label = none

variable {line : LinkLine}

/-- What is written behind the target. -/
def behind (line : LinkLine) : Text :=
  match line.label with
  | none => []
  | some label => ' ' :: label

/-- A link line is its arrow, its target and what stands behind it. -/
theorem print_eq (line : LinkLine) : line.print = "=> ".toList ++ (line.url ++ line.behind) := by
  cases h : line.label <;> simp [print, behind, h]

/-- What was printed is read behind the arrow. -/
theorem read?_print (line : LinkLine) :
    read? line.print = some (parts (trimStart (line.url ++ line.behind))) := by
  rw [print_eq]
  rfl

/-- The label of a trimmed link line begins and ends visibly. -/
theorem framed_of_label_ofTrimmed {url label : Text} {given : Option Text}
    (h : (ofTrimmed url given).label = some label) : Framed label := by
  obtain ⟨hmap, hne⟩ := Option.filter_eq_some_iff.1 h
  obtain ⟨text, -, rfl⟩ := Option.map_eq_some_iff.1 hmap
  exact framed_trim (by simpa using hne)

/-- A label that begins and ends visibly is kept as it is. -/
theorem ofTrimmed_eq {url : Text} {given : Option Text}
    (h : ∀ label, given = some label → Framed label) :
    ofTrimmed url given = ⟨url.trim, given⟩ := by
  cases given with
  | none => rfl
  | some label => simp [ofTrimmed, (h label rfl).trim_eq, (h label rfl).ne_nil]

/-- What stands behind a target of one word is the label. -/
theorem parts_append_behind (hframed : ∀ label, line.label = some label → Framed label)
    (hvisible : ∀ x ∈ line.url, isBlank x = false) : parts (line.url ++ line.behind) = line := by
  have hword : ∀ x ∈ line.url, (!isBlank x) = true := fun x hx => by rw [hvisible x hx]; rfl
  rw [parts, List.takeWhile_append_of_pos hword, List.dropWhile_append_of_pos hword]
  obtain ⟨url, label⟩ := line
  cases label with
  | none => simp [behind, trim, trimStart, trimEnd, dropEndWhile]
  | some label =>
    have hlabel : Framed label := hframed label rfl
    have htrim : trim (' ' :: label) = label := hlabel.trim_eq
    simp [behind, isBlank, htrim, hlabel.ne_nil]

/-- Which trimmed link lines are readable. -/
theorem readable_ofTrimmed_iff (url : Text) (given : Option Text) :
    (ofTrimmed url given).Readable ↔ (ofTrimmed url given).Separable ∧
      ∀ label, (ofTrimmed url given).label = some label → '\n' ∉ label := by
  have hframed : ∀ label, (ofTrimmed url given).label = some label → Framed label :=
    fun _ => framed_of_label_ofTrimmed
  generalize ofTrimmed url given = line at hframed ⊢
  constructor
  · rintro ⟨hsingle, hread⟩
    rw [read?_print, Option.some.injEq] at hread
    have hurl := congrArg LinkLine.url hread
    refine ⟨⟨fun x hx => ?_, fun hnone => ?_⟩, fun label hlabel hn => hsingle ?_⟩
    · -- the target that was read is a word
      rw [← hurl] at hx
      simpa using List.mem_takeWhile_imp hx
    · -- without a target, the first word of the label would be read as one
      cases hlabel : line.label with
      | none => rfl
      | some label =>
        obtain ⟨c, rest, hfirst, hc⟩ := (hframed label hlabel).first
        have hstart : trimStart (line.url ++ line.behind) = c :: rest := by
          rw [hnone, behind, hlabel, ← hfirst]
          exact (hframed label hlabel).trimStart_eq
        rw [hstart, hnone, parts] at hurl
        simp [hc] at hurl
    · rw [print_eq, behind, hlabel]
      simp [hn]
  · rintro ⟨⟨hvisible, hnone⟩, hsingle⟩
    -- the line is one if its label is
    refine ⟨fun hn => ?_, ?_⟩
    · rw [print_eq, List.mem_append, List.mem_append] at hn
      rcases hn with hn | hn | hn
      · exact absurd hn (by decide)
      · exact absurd (hvisible _ hn) (by decide)
      · rw [behind] at hn
        split at hn
        · exact absurd hn List.not_mem_nil
        · rename_i label hlabel
          exact hsingle label hlabel (by simpa using hn)
    · -- nothing blank stands before the target
      have hstart : trimStart (line.url ++ line.behind) = line.url ++ line.behind := by
        cases hurl : line.url with
        | nil => simp [behind, hnone hurl, trimStart]
        | cons c rest =>
          have hc : isBlank c = false := hvisible c (by simp [hurl])
          simp [trimStart, hc]
      rw [read?_print, hstart, parts_append_behind hframed hvisible]

end LinkLine

namespace Render

variable {c : Conversion}

/-! ## The link lines of links and images -/

/-- Where links stand on lines of their own, a link is its link line. -/
theorem link_newline (hmode : c.links = .newline) {url : Text}
    (hanchor : url.trim.head? ≠ some '#') (content : Content) (inner : Text) (s : RenderState) :
    link c url content inner s =
      (.link (.ofTrimmed (c.resolveTarget url.trim) (linkLabel? url.trim content inner)) ::
        content.linkLines, s) := by
  have huses : LinkMode.newline.usesFootnotes = false := rfl
  simp [link, hanchor, hmode, huses]

/-- The label of a link is made of words. -/
theorem exists_collapseBlank_of_linkLabel? {url label inner : Text} {content : Content}
    (h : linkLabel? url content inner = some label) :
    label ≠ [] ∧ ∃ s : Text, label = s.collapseBlank := by
  -- a label that is shown is collapsed, and not empty
  have hshown (s : Text) (hs : (if s.collapseBlank.isEmpty || s.collapseBlank == url then none
      else some s.collapseBlank) = some label) :
      label ≠ [] ∧ ∃ s : Text, label = s.collapseBlank := by
    split at hs
    · cases hs
    · rename_i hne
      obtain rfl := Option.some.inj hs
      exact ⟨fun hnil => hne (by rw [hnil]; rfl), s, rfl⟩
  unfold linkLabel? at h
  dsimp only at h
  split at h
  · exact hshown inner h
  · exact hshown content.plainText h

/-- A label is visible at both ends. -/
theorem framed_linkLabel? {url label inner : Text} {content : Content}
    (h : linkLabel? url content inner = some label) : Framed label := by
  obtain ⟨hne, s, rfl⟩ := exists_collapseBlank_of_linkLabel? h
  exact framed_collapseBlank hne

/-- The label of an image: its text and the image tag. -/
def imageLabel (c : Conversion) (alt : Text) : Text :=
  joinWith [' '] ([alt.trim, c.imgTag.trim].filter (!·.isEmpty))

/-- The label of an image is trimmed. -/
theorem imageLine_eq (c : Conversion) (url alt : Text) :
    LinkLine.ofTrimmed url (some (imageLabel c alt)) =
      ⟨url.trim, if (imageLabel c alt).isEmpty then none else some (imageLabel c alt)⟩ := by
  -- the parts of the label are trimmed, and empty ones are left out
  have hparts : ∀ part ∈ [alt.trim, c.imgTag.trim].filter (!·.isEmpty), Framed part := by
    intro part hpart
    obtain ⟨hmem, hne⟩ := List.mem_filter.1 hpart
    simp only [List.mem_cons, List.not_mem_nil, or_false] at hmem
    rcases hmem with rfl | rfl
    · exact framed_trim (by simpa using hne)
    · exact framed_trim (by simpa using hne)
  by_cases hnone : [alt.trim, c.imgTag.trim].filter (!·.isEmpty) = []
  · rw [imageLabel, hnone]
    rfl
  · have hframed : Framed (imageLabel c alt) := .joinWith hnone hparts [' ']
    rw [LinkLine.ofTrimmed_eq fun _ h => Option.some.inj h ▸ hframed,
      if_neg (by simpa using hframed.ne_nil)]

/-- A newline in the label of an image stands in its text or in the image tag. -/
theorem newline_mem_imageLabel_iff (c : Conversion) (alt : Text) :
    '\n' ∈ imageLabel c alt ↔ '\n' ∈ alt.trim ∨ '\n' ∈ c.imgTag.trim := by
  cases halt : alt.trim.isEmpty <;> cases htag : c.imgTag.trim.isEmpty <;>
    simp_all [imageLabel, joinWith]

/-- The line of a link is readable exactly if its target allows it. -/
theorem readable_linkLine_iff (target url : Text) (content : Content) (inner : Text) :
    (LinkLine.ofTrimmed target (linkLabel? url content inner)).Readable ↔
      (LinkLine.ofTrimmed target (linkLabel? url content inner)).Separable := by
  rw [LinkLine.readable_ofTrimmed_iff, LinkLine.ofTrimmed_eq fun _ => framed_linkLabel?,
    and_iff_left]
  intro label hlabel hn
  obtain ⟨-, s, rfl⟩ := exists_collapseBlank_of_linkLabel? hlabel
  exact newline_not_mem_collapseBlank s hn

/-- The line of an image is readable exactly if its target allows it and no newline is in its text
or in the image tag. -/
theorem readable_imageLine_iff (c : Conversion) (target alt : Text) :
    (LinkLine.ofTrimmed target (some (imageLabel c alt))).Readable ↔
      (LinkLine.ofTrimmed target (some (imageLabel c alt))).Separable ∧
        '\n' ∉ alt.trim ∧ '\n' ∉ c.imgTag.trim := by
  rw [LinkLine.readable_ofTrimmed_iff, imageLine_eq, ← not_or, ← newline_mem_imageLabel_iff]
  refine and_congr_right' ⟨fun h hn => ?_, fun h label hlabel => ?_⟩
  · -- a label that holds a newline is not empty
    refine h (imageLabel c alt) (if_neg ?_) hn
    simpa using List.ne_nil_of_mem hn
  · split at hlabel
    · cases hlabel
    · rwa [← Option.some.inj hlabel]

end Render

open Render in
/-- Where links stand on lines of their own, a link becomes one link line with its target and its
label, both trimmed, and so does an image.  It is one line and is read back as what it stands for,
exactly if the target is one word, or is missing together with the label, and, for an image, if no
newline is in its text or in the image tag. -/
theorem readable_link_lines {c : Conversion} (hmode : c.links = .newline) :
    (∀ (url : Text) (content : Content) (inner : Text) (s : RenderState),
      url.trim.head? ≠ some '#' → content.linkLines = [] →
      ∃ line : LinkLine, link c url content inner s = ([.link line], s) ∧
        line = ⟨(c.resolveTarget url.trim).trim, linkLabel? url.trim content inner⟩ ∧
        (line.Readable ↔ line.Separable)) ∧
      ∀ src alt : Text, ∃ line : LinkLine, image c src alt = [.link line] ∧
        line = ⟨(c.applyBaseUrl src.trim).trim,
          if (imageLabel c alt).isEmpty then none else some (imageLabel c alt)⟩ ∧
        (line.Readable ↔ line.Separable ∧ '\n' ∉ alt.trim ∧ '\n' ∉ c.imgTag.trim) := by
  refine ⟨fun url content inner s hanchor hplain => ?_, fun src alt => ?_⟩
  · refine ⟨_, ?_, LinkLine.ofTrimmed_eq fun _ => framed_linkLabel?, readable_linkLine_iff ..⟩
    rw [link_newline hmode hanchor, hplain]
  · refine ⟨_, ?_, imageLine_eq .., readable_imageLine_iff ..⟩
    -- images are shown as link lines when links are
    have hoff : c.links ≠ .off := by rw [hmode]; exact nofun
    rw [image, if_neg hoff]
    rfl

open Render in
/-- A target behind the base url is one word, and the label is read with its spaces. -/
theorem readable_link_lines_based :
    let c := { Conversion.standard with baseUrl := "gemini://x".toList }
    c.links = .newline ∧
      (∃ line : LinkLine,
        link c "/a".toList (Content.ofText "b \n c".toList) [] .initial =
          ([.link line], .initial) ∧
        line = ⟨"gemini://x/a".toList, some "b c".toList⟩ ∧ line.Readable) ∧
      ∃ line : LinkLine, image c ['u'] "b  c".toList = [.link line] ∧
        line = ⟨['u'], some "b  c [IMG]".toList⟩ ∧ line.Readable := by
  intro c
  -- the label of a link is collapsed, that of an image is not
  obtain ⟨hlink, himage⟩ := readable_link_lines (c := c) rfl
  refine ⟨rfl, ?_, ?_⟩
  · obtain ⟨line, hcall, hline, hreadable⟩ :=
      hlink "/a".toList (Content.ofText "b \n c".toList) [] .initial (by decide) (by decide)
    have hparts : line = ⟨"gemini://x/a".toList, some "b c".toList⟩ := hline.trans (by decide)
    refine ⟨line, hcall, hparts, hreadable.2 ?_⟩
    rw [hparts]
    exact ⟨by simp [isBlank], by simp⟩
  · obtain ⟨line, hcall, hline, hreadable⟩ := himage ['u'] "b  c".toList
    have hparts : line = ⟨['u'], some "b  c [IMG]".toList⟩ := hline.trans (by decide)
    refine ⟨line, hcall, hparts, hreadable.2 ⟨?_, by decide, by decide⟩⟩
    rw [hparts]
    exact ⟨by simp [isBlank], by simp⟩

open Render in
/-- With a newline in the text of an image, its link line takes up two lines, and the second one is
no part of the link. -/
theorem breaks_image_line :
    ∃ line : LinkLine, image .standard ['u'] ['a', '\n', 'b'] = [.link line] ∧
      Text.splitOn '\n' line.print = ["=> u a".toList, "b [IMG]".toList] ∧ ¬line.Readable :=
  ⟨⟨['u'], some "a\nb [IMG]".toList⟩, by decide, by decide, fun h => h.single (by decide)⟩

end Gemtext

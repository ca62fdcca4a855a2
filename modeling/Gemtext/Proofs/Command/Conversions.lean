import Gemtext.Command.Run
import Gemtext.Standard.Library
import Gemtext.Proofs.Command.Workspace

/-!
# Converting several files

In a workspace, the conversion of a file either leaves the files as they are, or writes one gemtext
file (`convertFile_cases`).  Files whose name is not that of the gemtext file keep their
content (`content?_convertFile`), and so they do through a whole run (`content?_convertAll`).

A document that was converted is therefore overwritten only by a file whose gemtext file has the
same name.  Such files have the same stem, cut at its last dot: the name of a gemtext file does not
show what follows that dot (`keeps_converted_document`, `overwrites_dotted_stem`).
-/

namespace Gemtext

namespace Command

open Workspace

/-! ## Actions in a workspace -/

namespace Action

variable {α β : Type} (printed : Text) (w : Workspace)

/-- What an action leads to in a workspace, with what was printed before. -/
def runIn (x : Action (StateM Workspace) α) (printed : Text) (w : Workspace) :
    (Except Failure α × Text) × Workspace :=
  (x.run.run printed).run w

/-- The second action follows unless the first one fails. -/
@[simp]
theorem runIn_bind (x : Action (StateM Workspace) α) (f : α → Action (StateM Workspace) β) :
    runIn (x >>= f) printed w =
      match x.runIn printed w with
      | ((.ok a, printed), w) => (f a).runIn printed w
      | ((.error failure, printed), w) => ((.error failure, printed), w) := by
  -- the definition of the transformers, with the state and the printed text applied
  have hrun : runIn (x >>= f) printed w =
      ExceptT.bindCont f (x printed w).1.1 (x printed w).1.2 (x printed w).2 := rfl
  have hx : x.runIn printed w = x printed w := rfl
  rw [hrun, hx]
  obtain ⟨⟨failure | a, printed⟩, w⟩ := x printed w
  · rfl
  · rfl

/-- What is done on the host prints nothing and cannot fail. -/
@[simp]
theorem runIn_onHost (x : StateM Workspace α) :
    (onHost x).runIn printed w = ((.ok (x w).1, printed), (x w).2) := rfl

@[simp]
theorem runIn_pure (a : α) :
    (pure a : Action (StateM Workspace) α).runIn printed w = ((.ok a, printed), w) := rfl

@[simp]
theorem runIn_throw (failure : Failure) :
    (throw failure : Action (StateM Workspace) α).runIn printed w =
      ((.error failure, printed), w) := rfl

@[simp]
theorem runIn_printLine (s : Text) :
    (printLine s : Action (StateM Workspace) Unit).runIn printed w =
      ((.ok (), printed ++ s ++ ['\n']), w) := rfl

/-- What was worked out elsewhere succeeds or fails as it did there. -/
@[simp]
theorem runIn_attempt {ε : Type} (failure : ε → Failure) (x : Except ε α) :
    (attempt failure x : Action (StateM Workspace) α).runIn printed w =
      ((x.mapError failure, printed), w) := by
  cases x with
  | error cause => rfl
  | ok a => rfl

end Action

open Command.Action

/-! ## One conversion -/

section

variable {c : Conversion} {output : OutputSettings} {printed : Text} {w : Workspace}

/-- Where the gemtext file for a file is written. -/
def target (output : OutputSettings) (path : Text) : Text :=
  Path.join output.dir (gemtextName path)

/-- What a conversion does, step by step. -/
theorem runIn_convertFile (c : Conversion) (output : OutputSettings) (path printed : Text)
    (w : Workspace) :
    (convertFile Workspace.host c output path).runIn printed w =
      match (w.resolve? path).bind w.content? with
      | some bytes =>
        match Utf8.decode? bytes with
        | none => ((.error (.unreadable path malformedText), printed), w)
        | some source =>
          match convert c source with
          | .error cause => ((.error (.conversion path cause), printed), w)
          | .ok gemtext =>
            if output.write then
              match w.write (target output path) (Utf8.encode (gemtext ++ ['\n'])) with
              | .ok changed => ((.ok (), printed), changed)
              | .error reason =>
                ((.error (.unwritable (target output path) reason), printed), w)
            else ((.ok (), printed ++ gemtext ++ ['\n']), w)
      | none => ((.error (.missingFile path), printed), w) := by
  -- the workspace answers, and stays as it is except when a file is written
  have hfile : Workspace.host.isFile path w =
      (((w.resolve? path).bind w.content?).isSome, w) := rfl
  have hread : Workspace.host.readFile path w =
      match (w.resolve? path).bind w.content? with
      | some content => (.ok content, w)
      | none => (.error "No such file or directory (os error 2)".toList, w) := rfl
  have hwrite (target : Text) (bytes : List UInt8) : Workspace.host.writeFile target bytes w =
      match w.write target bytes with
      | .ok changed => (.ok (), changed)
      | .error reason => (.error reason, w) := rfl
  unfold convertFile
  -- the conversion stops at the first of these steps that fails
  cases hcontent : (w.resolve? path).bind w.content? with
  | none => simp [hfile, hcontent]
  | some bytes =>
    cases hsource : Utf8.decode? bytes with
    | none => simp [hfile, hread, hcontent, hsource]
    | some source =>
      cases hconvert : convert c source with
      | error cause =>
        simp [hfile, hread, hcontent, hsource, convertNamed, hconvert, Except.mapError]
      | ok gemtext =>
        cases output.write with
        | false =>
          simp [hfile, hread, hcontent, hsource, convertNamed, hconvert, Except.mapError]
        | true =>
          cases hchanged : w.write (Path.join output.dir (gemtextName path))
              (Utf8.encode (gemtext ++ ['\n'])) <;>
            simp [hfile, hread, hcontent, hsource, convertNamed, hconvert, Except.mapError,
              hwrite, target, hchanged]

variable {path : Text} {names : List Text}

/-- A conversion leaves the files as they are and does not succeed in writing, or it writes the
document to the gemtext file. -/
theorem convertFile_cases (c : Conversion) (output : OutputSettings) (path printed : Text)
    (w : Workspace) :
    (((convertFile Workspace.host c output path).runIn printed w).2 = w ∧
      (((convertFile Workspace.host c output path).runIn printed w).1.1 = .ok () →
        output.write = false)) ∨
      ∃ bytes source gemtext names,
        (w.resolve? path).bind w.content? = some bytes ∧ Utf8.decode? bytes = some source ∧
          convert c source = .ok gemtext ∧ w.resolve? (target output path) = some names ∧
          names.getLast? = some (gemtextName path) ∧
          (convertFile Workspace.host c output path).runIn printed w =
            ((.ok (), printed),
              { w with files := replace names (Utf8.encode (gemtext ++ ['\n'])) w.files }) := by
  have hrun := runIn_convertFile c output path printed w
  generalize (convertFile Workspace.host c output path).runIn printed w = result at hrun ⊢
  -- of all the ways to end only the last one changes a file
  cases hcontent : (w.resolve? path).bind w.content? with
  | none =>
    obtain rfl := by simpa only [hcontent] using hrun
    exact .inl ⟨rfl, nofun⟩
  | some bytes =>
    cases hsource : Utf8.decode? bytes with
    | none =>
      obtain rfl := by simpa only [hcontent, hsource] using hrun
      exact .inl ⟨rfl, nofun⟩
    | some source =>
      cases hconvert : convert c source with
      | error cause =>
        obtain rfl := by simpa only [hcontent, hsource, hconvert] using hrun
        exact .inl ⟨rfl, nofun⟩
      | ok gemtext =>
        simp only [hcontent, hsource, hconvert] at hrun
        -- without the switch the document is printed
        cases hwrite : output.write with
        | false =>
          rw [hwrite, if_neg Bool.false_ne_true] at hrun
          exact .inl ⟨by rw [hrun], fun _ => rfl⟩
        | true =>
          rw [hwrite, if_pos rfl] at hrun
          cases hchanged : w.write (target output path) (Utf8.encode (gemtext ++ ['\n'])) with
          | error reason =>
            obtain rfl := by simpa only [hchanged] using hrun
            exact .inl ⟨rfl, nofun⟩
          | ok changed =>
            -- the file that was written is called by its name
            obtain ⟨names, hresolve, hfile, rfl⟩ := write_eq_ok.1 hchanged
            refine .inr ⟨bytes, source, gemtext, names, rfl, hsource, hconvert, hresolve,
              getLast?_of_resolve?_join hresolve hfile, ?_⟩
            simpa only [hchanged] using hrun

/-- A conversion leaves all files but the one that it writes. -/
theorem content?_convertFile (hname : names.getLast? ≠ some (gemtextName path)) :
    ((convertFile Workspace.host c output path).runIn printed w).2.content? names =
      w.content? names := by
  rcases convertFile_cases c output path printed w with
    ⟨hsame, -⟩ | ⟨bytes, source, gemtext, written, -, -, -, -, hlast, hrun⟩
  · rw [hsame]
  · -- the path that was written ends in the name of the gemtext file
    have hne : names ≠ written := by
      rintro rfl
      exact hname hlast
    rw [hrun]
    exact content?_replace_of_ne hne _ _

/-- A conversion that writes and succeeds leaves the document in its gemtext file. -/
theorem exists_written (hwrite : output.write = true)
    (hok : ((convertFile Workspace.host c output path).runIn printed w).1.1 = .ok ()) :
    ∃ bytes source gemtext names,
      (w.resolve? path).bind w.content? = some bytes ∧ Utf8.decode? bytes = some source ∧
        convert c source = .ok gemtext ∧ w.resolve? (target output path) = some names ∧
        names.getLast? = some (gemtextName path) ∧
        ((convertFile Workspace.host c output path).runIn printed w).2.content? names =
          some (Utf8.encode (gemtext ++ ['\n'])) := by
  rcases convertFile_cases c output path printed w with
    ⟨-, hprints⟩ | ⟨bytes, source, gemtext, names, hcontent, hsource, hconvert, hresolve, hlast,
      hrun⟩
  · -- it printed the document instead
    rw [hprints hok] at hwrite
    cases hwrite
  · refine ⟨bytes, source, gemtext, names, hcontent, hsource, hconvert, hresolve, hlast, ?_⟩
    rw [hrun]
    exact content?_replace ..

/-! ## All conversions -/

/-- Convert files in turn, up to the first failure. -/
def convertAll (c : Conversion) (output : OutputSettings) (files : List Text) :
    Action (StateM Workspace) Unit :=
  files.forM (convertFile Workspace.host c output)

/-- The first file is converted before all others. -/
theorem convertAll_cons (c : Conversion) (output : OutputSettings) (path : Text)
    (files : List Text) :
    convertAll c output (path :: files) =
      convertFile Workspace.host c output path >>= fun _ => convertAll c output files := rfl

/-- Converting several files leaves all files but those that are written. -/
theorem content?_convertAll {files : List Text}
    (hname : ∀ path ∈ files, names.getLast? ≠ some (gemtextName path)) :
    ((convertAll c output files).runIn printed w).2.content? names = w.content? names := by
  -- on the files, with what was printed and the workspace as the first one leaves them
  induction files generalizing printed w with
  | nil => rfl
  | cons path files ih =>
    have hpath := hname path List.mem_cons_self
    have hfiles := fun other hother => hname other (List.mem_cons_of_mem path hother)
    have hstep : ((convertFile Workspace.host c output path).runIn printed w).2.content? names =
        w.content? names := content?_convertFile hpath
    rw [convertAll_cons, runIn_bind]
    split
    · -- the first conversion failed, so there is no other
      rename_i hrun
      rw [hrun] at hstep
      exact (ih hfiles).trans hstep
    · rename_i hrun
      rw [hrun] at hstep
      exact hstep

end

end Command

open Command Command.Action Command.Workspace in
/-- The name of the gemtext file for a file with a stem and an extension is the stem, cut at its
last dot, with the extension of gemtext.  So it keeps the stem exactly if there is no dot behind its
first character, and files whose stems are different when they are cut get different names.  In
particular, the document of a file that was converted is kept while such files are converted. -/
theorem keeps_converted_document {path start rest : Text} (h : Path.Named path start rest) :
    (gemtextName path =
        if start = ['.'] ∨ start = ['.', '.'] then start
        else Path.stem start ++ ".gmi".toList) ∧
      (gemtextName path = start ++ ".gmi".toList ↔ '.' ∉ start.tail ∧ start ≠ ['.']) ∧
      (∀ other : Text, Path.stem (Path.fileStem other) ≠ Path.stem start →
        gemtextName other ≠ gemtextName path) ∧
      ∀ (c : Conversion) (output : OutputSettings) (printed : Text) (w : Workspace),
        output.write = true →
        ((convertFile Workspace.host c output path).runIn printed w).1.1 = .ok () →
        ∃ bytes source gemtext names,
          (w.resolve? path).bind w.content? = some bytes ∧ Utf8.decode? bytes = some source ∧
          convert c source = .ok gemtext ∧ w.resolve? (target output path) = some names ∧
          ∀ files : List Text,
            (∀ other ∈ files, Path.stem (Path.fileStem other) ≠ Path.stem start) →
            ((convertAll c output (path :: files)).runIn printed w).2.content? names =
              some (Utf8.encode (gemtext ++ ['\n'])) := by
  -- equal names of gemtext files come from equal stems, cut at the last dot
  have hnames (other : Text) (hstem : Path.stem (Path.fileStem other) ≠ Path.stem start) :
      gemtextName other ≠ gemtextName path := by
    intro hsame
    rw [← h.fileStem_eq] at hstem
    exact hstem (stem_fileStem_of_gemtextName hsame)
  refine ⟨gemtextName_eq h, gemtextName_eq_append_iff h, hnames, ?_⟩
  intro c output printed w hwrite hok
  obtain ⟨bytes, source, gemtext, names, hcontent, hsource, hconvert, hresolve, hlast, hwritten⟩ :=
    exists_written hwrite hok
  refine ⟨bytes, source, gemtext, names, hcontent, hsource, hconvert, hresolve, ?_⟩
  intro files hfiles
  -- the gemtext files of the others have other names
  have hothers : ∀ other ∈ files, names.getLast? ≠ some (gemtextName other) := by
    intro other hother hsame
    rw [hlast] at hsame
    exact hnames other (hfiles other hother) (Option.some.inj hsame).symm
  rw [convertAll_cons, runIn_bind]
  -- the first conversion succeeds, and leaves the document in its file
  generalize (convertFile Workspace.host c output path).runIn printed w = result at hok hwritten
  obtain ⟨⟨_, printed⟩, w⟩ := result
  obtain rfl := hok
  exact (content?_convertAll hothers).trans hwritten

open Command Command.Action Command.Workspace in
/-- A document is kept when another one is converted after it. -/
theorem keeps_converted_document_plain :
    let w : Workspace :=
      ⟨[], [(["docs".toList, "a.md".toList], [111]), (["b.md".toList], [112])], []⟩
    Path.Named "docs/a.md".toList ['a'] "md".toList ∧
      gemtextName "docs/a.md".toList = "a.gmi".toList ∧
      ((convertAll Conversion.standard ⟨true, ['.']⟩ ["docs/a.md".toList, "b.md".toList]).runIn
        [] w).2.content? ["a.gmi".toList] = some [111, 10] := by
  intro w
  have hnamed : Path.Named "docs/a.md".toList ['a'] "md".toList :=
    ⟨by decide +kernel, by decide, by decide⟩
  have hbytes : (w.resolve? "docs/a.md".toList).bind w.content? = some [111] := by decide +kernel
  have hdecoded : Utf8.decode? [111] = some ['o'] := by decide +kernel
  have hconverted : convert Conversion.standard ['o'] = .ok ['o'] := by decide +kernel
  have hwritten : w.write (target ⟨true, ['.']⟩ "docs/a.md".toList) (Utf8.encode ['o', '\n']) =
      .ok { w with files := w.files ++ [(["a.gmi".toList], [111, 10])] } := by decide +kernel
  have hok : ((convertFile Workspace.host Conversion.standard ⟨true, ['.']⟩
      "docs/a.md".toList).runIn [] w).1.1 = .ok () := by
    rw [runIn_convertFile, hbytes]
    simp only [hdecoded, hconverted, if_true, List.cons_append, List.nil_append, hwritten]
  obtain ⟨hname, -, -, hkeeps⟩ := keeps_converted_document hnamed
  obtain ⟨bytes, source, gemtext, names, hcontent, hsource, hconvert, hnames, hkept⟩ :=
    hkeeps Conversion.standard ⟨true, ['.']⟩ [] w rfl hok
  -- the theorem names what is read and written, and it is this
  obtain rfl := Option.some.inj (hbytes.symm.trans hcontent)
  obtain rfl := Option.some.inj (hdecoded.symm.trans hsource)
  obtain rfl := Except.ok.inj (hconverted.symm.trans hconvert)
  have hresolved : w.resolve? (target ⟨true, ['.']⟩ "docs/a.md".toList) =
      some ["a.gmi".toList] := by decide +kernel
  obtain rfl := Option.some.inj (hresolved.symm.trans hnames)
  have hafter := hkept ["b.md".toList] (by decide +kernel)
  exact ⟨hnamed, hname, hafter⟩

open Command Command.Action Command.Workspace in
/-- Two stems that differ behind their last dot make one name, so the second document replaces the
first. -/
theorem overwrites_dotted_stem :
    let w : Workspace := ⟨[], [(["a.1.md".toList], [111]), (["a.2.md".toList], [112])], []⟩
    Path.fileStem "a.1.md".toList = "a.1".toList ∧ Path.fileStem "a.2.md".toList = "a.2".toList ∧
      gemtextName "a.1.md".toList = "a.gmi".toList ∧
      gemtextName "a.2.md".toList = "a.gmi".toList ∧
      ((convertAll Conversion.standard ⟨true, ['.']⟩ ["a.1.md".toList, "a.2.md".toList]).runIn
        [] w).2.content? ["a.gmi".toList] = some [112, 10] := by
  decide +kernel

end Gemtext

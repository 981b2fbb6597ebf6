import CanvasExport.CommandLine.Run
import CanvasExport.Proofs.ArtifactText
import CanvasExport.Proofs.CompactText
/-!
# Runs in all modes

Whether a run writes the artifact or its custom tokens, on one line or indented, is decided when all that
can fail is done.  So its four modes fail alike, or give texts of one artifact that it is read back
from (`Config.render_agrees`).  What is rendered is what the run leaves behind, and a file that it writes
holds nothing else.
-/

namespace CanvasExport

/-! ## Texts of artifacts and tokens -/

namespace Json

/-- What is read from its tree is read from its text. -/
theorem decode_render_eq_ok {α : Type} {read : Nat → Tree → Result α} {v : Json}
    (hv : IsWritable v) {a : α} (h : read depthLimit v.tree = .ok a) (layout : Layout) :
    decode read (v.render layout) = .ok a := by
  rw [decode_render read hv, h]

/-- The compact text of a value is one line. -/
theorem newline_notMem_render {v : Json} (hv : IsWritable v) :
    '\n' ∉ (v.render .compact).toList ∧ '\r' ∉ (v.render .compact).toList := by
  rw [render, String.toList_ofList]
  exact (onOneLine_chars hv 0).newline_notMem

end Json

namespace CommandLine

open Json (ok_bind bind_eq_ok_iff mapError_eq_ok_iff)

/-! ## Files that are written -/

namespace Directory

/-- A step to a directory does not depend on the files. -/
theorem enter_eq_ok {d : Directory} {place next : Place} {step : List Char}
    (h : d.enter place step = .ok next) (d' : Directory) : d'.enter place step = .ok next := by
  unfold enter at h ⊢
  split_ifs at h ⊢
  · exact h
  · exact h
  · split at h <;> cases h

/-- Nor do steps in a row. -/
theorem foldlM_enter_eq_ok {d : Directory} {steps : List (List Char)} {place last : Place}
    (h : steps.foldlM d.enter place = .ok last) (d' : Directory) :
    steps.foldlM d'.enter place = .ok last := by
  induction steps generalizing place with
  | nil => exact h
  | cons step steps ih =>
      rw [List.foldlM_cons] at h ⊢
      obtain ⟨next, hnext, hsteps⟩ := bind_eq_ok_iff.1 h
      exact bind_eq_ok_iff.2 ⟨next, enter_eq_ok hnext d', ih hsteps⟩

/-- So what a path leads to is the same whatever files there are. -/
theorem target_eq_ok {d : Directory} {path : String} {target : Target}
    (h : d.target path = .ok target) (d' : Directory) : d'.target path = .ok target := by
  unfold Directory.target at h ⊢
  by_cases hnull : path.toList.contains '\x00' = true
  · rw [if_pos hnull] at h
    cases h
  · by_cases hlong : pathLimit < path.utf8ByteSize
    · rw [if_neg hnull, if_pos hlong] at h
      cases h
    · rw [if_neg hnull, if_neg hlong] at h ⊢
      obtain ⟨place, hplace, h⟩ := bind_eq_ok_iff.1 h
      exact bind_eq_ok_iff.2 ⟨place, foldlM_enter_eq_ok hplace d', h⟩

/-- A file is written in its place. -/
theorem exists_of_writeBytes_eq_ok {d after : Directory} {path : String} {bytes : ByteArray}
    (h : d.writeBytes path bytes = .ok after) :
    ∃ place name, d.target path = .ok (.file place name false) ∧
      ¬ nameLimit < name.utf8ByteSize ∧ after = d.insert (place.path name) bytes := by
  obtain ⟨target, htarget, h⟩ := bind_eq_ok_iff.1 h
  rw [htarget]
  match target with
  | .directory => cases h
  | .file place name true => cases h
  | .file place name false =>
      dsimp only at h
      split_ifs at h with hlong
      cases h
      exact ⟨place, name, rfl, hlong, rfl⟩

/-- **A file that is written holds what was written.**  All others are as they were. -/
theorem readText_of_writeText {d after : Directory} {path text : String}
    (h : d.writeText path text = .ok after) :
    after.readText path = .ok text ∧
      ∃ file, ∀ other, other ≠ file → after.get? other = d.get? other := by
  obtain ⟨place, name, htarget, hname, rfl⟩ := exists_of_writeBytes_eq_ok h
  constructor
  · have hfind : find (d.insert (place.path name) text.toUTF8) place name = .ok text.toUTF8 := by
      rw [find, if_neg hname, Dict.get?_insert, if_pos rfl]
      rfl
    have hbytes : readBytes (d.insert (place.path name) text.toUTF8) path = .ok text.toUTF8 := by
      refine bind_eq_ok_iff.2 ⟨_, target_eq_ok htarget _, ?_⟩
      exact bind_eq_ok_iff.2 ⟨_, hfind, rfl⟩
    have htext : String.fromUTF8? text.toUTF8 = some text := dif_pos text.isValidUTF8
    refine bind_eq_ok_iff.2 ⟨_, hbytes, ?_⟩
    rw [textOf, htext]
  · refine ⟨place.path name, fun other hother => ?_⟩
    rw [Dict.get?_insert, if_neg hother]

/-- What a directory takes is written on its host. -/
theorem run_writeText_of_ok (s : Surroundings) {path text : String} {after : Directory}
    (h : s.directory.writeText path text = .ok after) :
    (host.writeText path text).run s = (.ok (), { s with directory := after }) := by
  show host.writeText path text s = _
  unfold host
  dsimp only
  rw [h]

/-- What it does not take changes nothing. -/
theorem run_writeText_of_error (s : Surroundings) {path text : String} {e : FileError}
    (h : s.directory.writeText path text = .error e) :
    (host.writeText path text).run s = (.error e, s) := by
  show host.writeText path text s = _
  unfold host
  dsimp only
  rw [h]

end Directory

/-! ## Modes -/

namespace Config

variable {config : Config}

/-- The same run in another mode. -/
def inMode (config : Config) (tokensOnly compact : Bool) : Config :=
  { config with tokensOnly, compact }

/-- The artifact of the document that a text describes. -/
def artifactFrom (config : Config) (text : String) : Except RunError Artifact := do
  let d ← (Document.parse text).mapError (.noDocument config.input)
  config.artifactOf d

/-- It is that of the document against the registry for it. -/
theorem artifactFrom_eq_ok_iff {text : String} {a : Artifact} :
    config.artifactFrom text = .ok a ↔
      ∃ d registry, Document.parse text = .ok d ∧
        registryFor d config.withPresets = .ok registry ∧
        d.exportFresh config.settings registry = .ok a := by
  unfold artifactFrom artifactOf
  simp only [bind_eq_ok_iff, mapError_eq_ok_iff]
  constructor
  · rintro ⟨d, hd, registry, hregistry, ha⟩
    exact ⟨d, registry, hd, hregistry, ha⟩
  · rintro ⟨d, registry, hd, hregistry, ha⟩
    exact ⟨d, hd, registry, hregistry, ha⟩

/-- The mode comes in when the artifact is made. -/
theorem render_inMode (tokensOnly compact : Bool) (text : String) :
    (config.inMode tokensOnly compact).render text =
      (config.artifactFrom text).map (config.inMode tokensOnly compact).renderArtifact := by
  unfold artifactFrom render
  show ((Document.parse text).mapError (.noDocument config.input) >>= fun d =>
    config.artifactOf d >>= fun a => pure ((config.inMode tokensOnly compact).renderArtifact a)) = _
  cases (Document.parse text).mapError (RunError.noDocument config.input) with
  | error e => rfl
  | ok d =>
      rw [ok_bind, ok_bind]
      cases config.artifactOf d <;> rfl

/-! ## Runs in a directory -/

/-- The text that a run writes, from the files of its directory. -/
def renderFrom (config : Config) (directory : Directory) : Except RunError String := do
  let text ← (directory.readText config.input).mapError (.unreadable config.input)
  config.render text

/-- Reading the input of a run changes nothing. -/
theorem run_renderOn (config : Config) (s : Surroundings) :
    (config.renderOn Directory.host).run s = (config.renderFrom s.directory, s) := by
  have hread : (Directory.host.readText config.input).run s =
      (s.directory.readText config.input, s) := rfl
  rw [renderOn, StateT.run_bind, hread]
  unfold renderFrom
  cases s.directory.readText config.input <;> rfl

/-- A text that is not for a file is printed. -/
theorem run_writeOn_of_stdout (h : config.output = .stdout) (text : String) (s : Surroundings) :
    (config.writeOn Directory.host text).run s =
      (.ok (), { s with stdout := s.stdout ++ (text ++ "\n") }) := by
  unfold writeOn
  rw [h]
  rfl

/-- A text for a file is written there, and an error of that is one of the run. -/
theorem run_writeOn_of_file {path text : String} {s after : Surroundings}
    {written : Except FileError Unit} (h : config.output = .file path)
    (hwritten : (Directory.host.writeText path text).run s = (written, after)) :
    (config.writeOn Directory.host text).run s =
      (written.mapError (.unwritable path), after) := by
  unfold writeOn
  rw [h]
  dsimp only
  rw [StateT.run_bind, hwritten]
  rfl

/-- Where nothing is rendered, nothing is written. -/
theorem run_of_renderFrom_eq_error {directory : Directory} {e : RunError}
    (h : config.renderFrom directory = .error e) :
    config.run directory = { directory, outcome := .error e } := by
  rw [run, runOn, StateT.run_bind, run_renderOn, h]
  rfl

/-- What is rendered is written. -/
theorem run_of_renderFrom_eq_ok {directory : Directory} {text : String}
    (h : config.renderFrom directory = .ok text) :
    config.run directory = .of ((config.writeOn Directory.host text).run { directory }) := by
  rw [run, runOn, StateT.run_bind, run_renderOn, h]
  rfl

/-- What a run leaves behind: nothing where it fails, and otherwise the rendered text, with a line
break behind it on the standard output, or as all that its file holds. -/
inductive Leaves (config : Config) (directory : Directory) : Effect → Prop
  | failed {e : RunError} (h : config.renderFrom directory = .error e) :
      Leaves config directory { directory, outcome := .error e }
  | printed {text rendered : String} (htext : directory.readText config.input = .ok text)
      (hrendered : config.render text = .ok rendered) (houtput : config.output = .stdout) :
      Leaves config directory { directory, stdout := rendered ++ "\n" }
  | written {text rendered path : String} {after : Directory}
      (htext : directory.readText config.input = .ok text)
      (hrendered : config.render text = .ok rendered) (houtput : config.output = .file path)
      (hread : after.readText path = .ok rendered)
      (hothers : ∃ file, ∀ other, other ≠ file → after.get? other = directory.get? other) :
      Leaves config directory { directory := after }
  | unwritable {text rendered path : String} {cause : FileError}
      (htext : directory.readText config.input = .ok text)
      (hrendered : config.render text = .ok rendered) (houtput : config.output = .file path)
      (hcause : directory.writeText path rendered = .error cause) :
      Leaves config directory { directory, outcome := .error (.unwritable path cause) }

theorem leaves_run (config : Config) (directory : Directory) :
    config.Leaves directory (config.run directory) := by
  cases h : config.renderFrom directory with
  | error e =>
      rw [run_of_renderFrom_eq_error h]
      exact .failed h
  | ok rendered =>
      obtain ⟨text, htext, hrendered⟩ := bind_eq_ok_iff.1 h
      rw [mapError_eq_ok_iff] at htext
      rw [run_of_renderFrom_eq_ok h]
      cases houtput : config.output with
      | stdout =>
          rw [run_writeOn_of_stdout houtput]
          dsimp only [Effect.of]
          rw [String.empty_append]
          exact .printed htext hrendered houtput
      | file path =>
          cases hwrite : directory.writeText path rendered with
          | error cause =>
              have hwritten := Directory.run_writeText_of_error { directory } hwrite
              rw [run_writeOn_of_file houtput hwritten]
              exact .unwritable htext hrendered houtput hwrite
          | ok after =>
              have hwritten := Directory.run_writeText_of_ok { directory } hwrite
              rw [run_writeOn_of_file houtput hwritten]
              obtain ⟨hread, hothers⟩ := Directory.readText_of_writeText hwrite
              exact .written htext hrendered houtput hread hothers

/-- **The modes of a run agree.**  A text is rendered in none of the four modes, with the same error in
each, or in all of them; then the artifact of its document is read back from both texts that are
written for it and its custom tokens from both that are written for them, and the compact texts have
no line break.  A run leaves behind the rendered text, where there is one, and nothing else. -/
theorem render_agrees (config : Config) :
    (∀ text,
      (∃ e, ∀ tokensOnly compact, (config.inMode tokensOnly compact).render text = .error e) ∨
      ∃ d registry a, Document.parse text = .ok d ∧
        registryFor d config.withPresets = .ok registry ∧
        d.exportFresh config.settings registry = .ok a ∧
        ∃ whole tokens : Bool → String,
          (∀ compact, (config.inMode false compact).render text = .ok (whole compact) ∧
            (config.inMode true compact).render text = .ok (tokens compact) ∧
            Artifact.parse (whole compact) = .ok a ∧
            Tokens.parse (tokens compact) = .ok a.tokens) ∧
          ('\n' ∉ (whole true).toList ∧ '\r' ∉ (whole true).toList) ∧
          ('\n' ∉ (tokens true).toList ∧ '\r' ∉ (tokens true).toList)) ∧
    ∀ directory, config.Leaves directory (config.run directory) := by
  refine ⟨fun text => ?_, config.leaves_run⟩
  simp only [render_inMode]
  cases h : config.artifactFrom text with
  | error e => exact .inl ⟨e, fun _ _ => rfl⟩
  | ok a =>
      right
      obtain ⟨d, registry, hd, hregistry, ha⟩ := artifactFrom_eq_ok_iff.1 h
      refine ⟨d, registry, a, hd, hregistry, ha,
        fun compact => (config.inMode false compact).renderArtifact a,
        fun compact => (config.inMode true compact).renderArtifact a, fun compact => ?_, ?_, ?_⟩
      · refine ⟨rfl, rfl, ?_, ?_⟩
        · exact Json.decode_render_eq_ok a.isWritable_toJson (a.read_toJson (by decide)) _
        · exact Json.decode_render_eq_ok a.tokens.isWritable_toJson
            (a.tokens.read_toJson (by decide)) _
      · exact Json.newline_notMem_render a.isWritable_toJson
      · exact Json.newline_notMem_render a.tokens.isWritable_toJson

end Config

end CommandLine

end CanvasExport

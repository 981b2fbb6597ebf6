import CanvasExport.Proofs.Extension
import CanvasExport.Proofs.Runs
/-!
# Presets and further descriptors

An export that succeeds is not changed by descriptors that are merged in, and an export that fails
does not fail at an earlier place by them (`Document.exportWith_merge`).  So a run that succeeds without
the presets leaves the same behind with them: their flag is read apart from all other arguments
(`Config.ofArguments_withPresets`), and the presets only come in below the descriptors of the document
(`Config.run_addPresets`).
-/

namespace CanvasExport

namespace CommandLine

open Json (ok_bind bind_eq_ok_iff mapError_eq_ok_iff)

/-! ## The flag among the arguments -/

namespace Reading

/-- What has been read, and in front of it the flag for presets. -/
def withPresets (r : Reading) : Reading := { r with flags := r.flags ++ [.withPresets] }

@[simp] theorem pending_withPresets (r : Reading) : r.withPresets.pending = r.pending := rfl

@[simp] theorem hasInput_withPresets (r : Reading) : r.withPresets.hasInput = r.hasInput := rfl

@[simp] theorem pathsOnly_withPresets (r : Reading) : r.withPresets.pathsOnly = r.pathsOnly := rfl

@[simp] theorem value?_withPresets (r : Reading) (p : Parameter) :
    r.withPresets.value? p = r.value? p := rfl

/-- The other flags are given as they were. -/
theorem hasFlag_withPresets {f : Flag} (h : f ≠ .withPresets) (r : Reading) :
    r.withPresets.hasFlag f = r.hasFlag f := by
  simp [hasFlag, withPresets, h]

/-- What is read next keeps the flags and, unless it is the flag for presets, is read in the same way
behind that. -/
def IgnoresPresets (next : Reading → Except UsageError Reading) : Prop :=
  ∀ r s, next r = .ok s →
    r.flags ⊆ s.flags ∧ (.withPresets ∉ s.flags → next r.withPresets = .ok s.withPresets)

namespace IgnoresPresets

variable {next after : Reading → Except UsageError Reading}

/-- A change to anything but the flags ignores them. -/
theorem change {update : Reading → Reading} (hflags : ∀ r, (update r).flags = r.flags)
    (hupdate : ∀ r, update r.withPresets = (update r).withPresets) :
    IgnoresPresets fun r => .ok (update r) := by
  rintro r s ⟨⟩
  refine ⟨fun f hf => (hflags r).symm ▸ hf, fun _ => ?_⟩
  exact congrArg Except.ok (hupdate r)

/-- So does one thing behind another. -/
theorem bind (hnext : IgnoresPresets next) (hafter : IgnoresPresets after) :
    IgnoresPresets fun r => next r >>= after := by
  intro r s h
  obtain ⟨m, hm, h⟩ := bind_eq_ok_iff.1 h
  obtain ⟨hfirst, hread⟩ := hnext r m hm
  obtain ⟨hsecond, hread'⟩ := hafter m s h
  refine ⟨List.Subset.trans hfirst hsecond, fun hno => ?_⟩
  -- the flag has not been read in between either
  have hbetween : .withPresets ∉ m.flags := fun hmem => hno (hsecond hmem)
  exact bind_eq_ok_iff.2 ⟨_, hread hbetween, hread' hno⟩

end IgnoresPresets

theorem ignoresPresets_give (p : Parameter) (value : String) :
    IgnoresPresets (·.give p value) := by
  intro r s h
  dsimp only [give] at h ⊢
  rw [value?_withPresets]
  split_ifs at h ⊢
  cases h
  exact ⟨List.Subset.refl _, fun _ => rfl⟩

theorem ignoresPresets_settle : IgnoresPresets settle := by
  intro r s h
  unfold settle at h ⊢
  rw [pending_withPresets]
  cases hpending : r.pending with
  | none =>
      rw [hpending] at h
      cases h
      exact ⟨List.Subset.refl _, fun _ => rfl⟩
  | some waiting =>
      obtain ⟨p, value⟩ := waiting
      rw [hpending] at h
      cases value with
      | none => cases h
      | some value => exact ignoresPresets_give p value { r with pending := none } s h

theorem ignoresPresets_readParameter (p : Parameter) (attached : Option (List Char)) :
    IgnoresPresets (·.readParameter p attached) := by
  cases attached with
  | none =>
      have hawait : IgnoresPresets fun r => .ok { r with pending := some (p, none) } :=
        .change (fun _ => rfl) fun _ => rfl
      exact ignoresPresets_settle.bind hawait
  | some value => exact ignoresPresets_settle.bind (ignoresPresets_give p (String.ofList value))

theorem ignoresPresets_readPath (arg : String) : IgnoresPresets (·.readPath arg) := by
  have hput : IgnoresPresets fun r =>
      .ok { r with pending := some (.input, some arg), hasInput := true } :=
    .change (fun _ => rfl) fun _ => rfl
  intro r s h
  dsimp only [readPath] at h ⊢
  rw [hasInput_withPresets]
  split_ifs at h ⊢
  exact ignoresPresets_settle.bind hput r s h

/-- The flag for presets itself is among the flags afterwards. -/
theorem ignoresPresets_readFlag (f : Flag) : IgnoresPresets (·.readFlag f) := by
  have hput : IgnoresPresets fun r =>
      if r.hasFlag f then .error .repeated else .ok { r with flags := f :: r.flags } := by
    intro r s h
    dsimp only at h ⊢
    split_ifs at h with hgiven
    cases h
    refine ⟨List.subset_cons_self f r.flags, fun hno => ?_⟩
    have hf : f ≠ .withPresets := fun e => hno (e ▸ List.mem_cons_self)
    rw [hasFlag_withPresets hf, if_neg hgiven]
    rfl
  have hthrow (e : UsageError) : IgnoresPresets fun _ => .error e := fun _ _ h => nomatch h
  cases f with
  | help => exact ignoresPresets_settle.bind (hthrow .help)
  | version => exact ignoresPresets_settle.bind (hthrow .version)
  | withPresets => exact ignoresPresets_settle.bind hput
  | tokensOnly => exact ignoresPresets_settle.bind hput
  | compact => exact ignoresPresets_settle.bind hput

theorem ignoresPresets_readLong (body : List Char) : IgnoresPresets (·.readLong body) := by
  unfold readLong
  dsimp only
  cases longNames.lookup (String.ofList (Text.cut '=' body).1) with
  | none => exact fun _ _ h => nomatch h
  | some named =>
      cases named with
      | parameter p => exact ignoresPresets_readParameter p _
      | flag f =>
          cases (Text.cut '=' body).2 with
          | none => exact ignoresPresets_readFlag f
          | some value => exact fun _ _ h => nomatch h

theorem ignoresPresets_readShort (name : Char) (behind : List Char) :
    IgnoresPresets (·.readShort name behind) := by
  unfold readShort
  cases shortNames.lookup name with
  | none => exact fun _ _ h => nomatch h
  | some named =>
      cases named with
      | flag f => exact ignoresPresets_readFlag f
      | parameter p =>
          dsimp only
          split
          · exact ignoresPresets_readParameter p none
          · exact ignoresPresets_readParameter p _
          · exact ignoresPresets_readParameter p _

/-- Whatever the next argument is, unless it is the flag for presets it is read in the same way behind
that. -/
theorem ignoresPresets_step (arg : String) : IgnoresPresets (·.step arg) := by
  intro r s h
  dsimp only [step] at h ⊢
  rw [pathsOnly_withPresets, pending_withPresets]
  by_cases hpaths : r.pathsOnly = true
  · rw [if_pos hpaths] at h ⊢
    exact ignoresPresets_readPath arg r s h
  · rw [if_neg hpaths] at h ⊢
    split at h
    · cases h
      exact ⟨List.Subset.refl _, fun _ => rfl⟩
    · exact ignoresPresets_readLong _ r s h
    · exact ignoresPresets_readShort _ _ r s h
    · split at h
      · cases h
        exact ⟨List.Subset.refl _, fun _ => rfl⟩
      · exact ignoresPresets_readPath arg r s h

/-- All arguments are read in the same way behind the flag for presets. -/
theorem ignoresPresets_foldlM (args : List String) : IgnoresPresets (args.foldlM step ·) := by
  induction args with
  | nil => exact .change (fun _ => rfl) fun _ => rfl
  | cons arg args ih => exact (ignoresPresets_step arg).bind ih

end Reading

namespace Config

/-- The same run with presets. -/
def addPresets (config : Config) : Config := { config with withPresets := true }

/-- **The flag for presets.**  In front of arguments that do without it, it turns the presets on and
changes nothing else. -/
theorem ofArguments_withPresets {environment : Environment} {args : List String} {config : Config}
    (h : ofArguments environment args = .ok config) (hno : config.withPresets = false) :
    ofArguments environment ("--with-presets" :: args) = .ok config.addPresets := by
  have hall : Reading.IgnoresPresets fun r => args.foldlM Reading.step r >>= Reading.settle :=
    (Reading.ignoresPresets_foldlM args).bind Reading.ignoresPresets_settle
  have hfirst : Reading.step {} "--with-presets" = .ok (Reading.withPresets {}) := by rfl
  unfold ofArguments at h ⊢
  rw [List.foldlM_cons, hfirst, ok_bind]
  rw [← bind_assoc] at h ⊢
  obtain ⟨r, hr, h⟩ := bind_eq_ok_iff.1 h
  cases hinput : r.value? .input with
  | none =>
      rw [hinput] at h
      cases h
  | some input =>
      rw [hinput] at h
      cases h
      -- the flag is not given, so all is read in the same way behind it
      have hflag : .withPresets ∉ r.flags := by simpa [Reading.hasFlag] using hno
      obtain ⟨-, hread⟩ := hall {} r hr
      refine bind_eq_ok_iff.2 ⟨_, hread hflag, ?_⟩
      have hgiven : r.withPresets.hasFlag .withPresets = true := by
        simp [Reading.hasFlag, Reading.withPresets]
      have htokensOnly := Reading.hasFlag_withPresets (f := .tokensOnly) (by decide) r
      have hcompact := Reading.hasFlag_withPresets (f := .compact) (by decide) r
      simp only [Reading.value?_withPresets, hinput, hgiven, htokensOnly, hcompact]
      rfl

/-! ## Runs with presets -/

variable {config : Config}

/-- With presets the registry for a document has further descriptors. -/
theorem registryFor_true {d : Document} {registry : Registry}
    (h : registryFor d false = .ok registry) :
    registryFor d true = .ok (registry.merge .launch) := by
  obtain ⟨own, hown, ⟨⟩⟩ := bind_eq_ok_iff.1 h
  exact bind_eq_ok_iff.2 ⟨own, hown, rfl⟩

/-- An artifact is the same with presets, which come in below the descriptors of the document. -/
theorem artifactOf_addPresets (hno : config.withPresets = false) {d : Document} {a : Artifact}
    (h : config.artifactOf d = .ok a) : config.addPresets.artifactOf d = .ok a := by
  obtain ⟨registry, hregistry, hexport⟩ := bind_eq_ok_iff.1 h
  rw [mapError_eq_ok_iff, hno] at hregistry
  rw [mapError_eq_ok_iff] at hexport
  have hmerged : d.exportFresh config.settings (registry.merge .launch) = .ok a := by
    rw [Document.exportFresh,
      Document.exportWith_eq_of_extends (registry.extends_merge .launch) hexport]
    exact hexport
  exact bind_eq_ok_iff.2 ⟨_, mapError_eq_ok_iff.2 (registryFor_true hregistry),
    mapError_eq_ok_iff.2 hmerged⟩

theorem render_addPresets (hno : config.withPresets = false) {text rendered : String}
    (h : config.render text = .ok rendered) : config.addPresets.render text = .ok rendered := by
  obtain ⟨d, hparse, h⟩ := bind_eq_ok_iff.1 h
  obtain ⟨a, hartifact, hrendered⟩ := bind_eq_ok_iff.1 h
  refine bind_eq_ok_iff.2 ⟨d, hparse, ?_⟩
  exact bind_eq_ok_iff.2 ⟨a, artifactOf_addPresets hno hartifact, hrendered⟩

theorem renderFrom_addPresets (hno : config.withPresets = false) {directory : Directory}
    {rendered : String} (h : config.renderFrom directory = .ok rendered) :
    config.addPresets.renderFrom directory = .ok rendered := by
  obtain ⟨text, htext, hrendered⟩ := bind_eq_ok_iff.1 h
  exact bind_eq_ok_iff.2 ⟨text, htext, render_addPresets hno hrendered⟩

/-- **A successful run does the same with presets.** -/
theorem run_addPresets (hno : config.withPresets = false) {directory : Directory}
    (h : (config.run directory).outcome = .ok ()) :
    config.addPresets.run directory = config.run directory := by
  cases hrender : config.renderFrom directory with
  | error e =>
      rw [run_of_renderFrom_eq_error hrender] at h
      cases h
  | ok rendered =>
      rw [run_of_renderFrom_eq_ok hrender,
        run_of_renderFrom_eq_ok (renderFrom_addPresets hno hrender)]
      rfl

end Config

end CommandLine

/-! ## Descriptors that are merged in -/

open CommandLine in
/-- **Merging changes no successful export.**  An export that succeeds against a registry is the same
against that registry with another one merged in.  One that fails succeeds then, or it fails with the
same error or one that comes later among the faults in the order of the walk.  In particular a run
that succeeds without presets leaves the same behind with them. -/
theorem Document.exportWith_merge (d : Document) (settings : Settings) (a b : Registry)
    (tokens : Tokens) :
    ((∃ artifact after, d.exportWith settings a tokens = (.ok artifact, after) ∧
        d.exportWith settings (a.merge b) tokens = (.ok artifact, after)) ∨
      ∃ e, d.exportWith settings a tokens = (.error e, tokens) ∧
        ((∃ artifact after, d.exportWith settings (a.merge b) tokens = (.ok artifact, after)) ∨
          ∃ e' before after, d.exportWith settings (a.merge b) tokens = (.error e', tokens) ∧
            d.faults a = before ++ e' :: after ∧ (before ++ [e']).head? = some e)) ∧
    ∀ environment args config directory,
      Config.ofArguments environment args = .ok config → config.withPresets = false →
        (config.run directory).outcome = .ok () →
        ∃ presets, Config.ofArguments environment ("--with-presets" :: args) = .ok presets ∧
          presets.run directory = config.run directory := by
  have hextends := a.extends_merge b
  constructor
  · cases h : (d.exportPages a settings.pageTitle).outcome with
    | ok pages =>
        left
        have hok := exportWith_of_ok h tokens
        refine ⟨_, _, hok, ?_⟩
        rw [exportWith_eq_of_extends hextends (congrArg Prod.fst hok), hok]
    | error e =>
        right
        refine ⟨e, exportWith_of_error h tokens, ?_⟩
        cases h' : (d.exportPages (a.merge b) settings.pageTitle).outcome with
        | ok pages =>
            left
            exact ⟨_, _, exportWith_of_ok h' tokens⟩
        | error e' =>
            right
            obtain ⟨before, after, hsplit, hhead⟩ := exists_faults_eq_append_of_extends hextends h h'
            exact ⟨e', before, after, exportWith_of_error h' tokens, hsplit, hhead⟩
  · intro environment args config directory hconfig hno hrun
    exact ⟨config.addPresets, Config.ofArguments_withPresets hconfig hno,
      Config.run_addPresets hno hrun⟩

open CommandLine in
/-- A run on a document with one page succeeds, and does the same with presets. -/
theorem Document.exportWith_merge_sample :
    let files : Directory :=
      Dict.empty.insert "page.json" "\x7b\"roots\":[\x7b\"kind\":\"page\"\x7d]\x7d".toUTF8
    ∃ config presets, Config.ofArguments {} ["page.json", "-o", "-"] = .ok config ∧
      Config.ofArguments {} ["--with-presets", "page.json", "-o", "-"] = .ok presets ∧
      (config.run files).outcome = .ok () ∧ presets.run files = config.run files := by
  intro files
  have hconfig : Config.ofArguments {} ["page.json", "-o", "-"] =
      .ok { input := "page.json", output := .stdout } := by rfl
  have hrun : (Config.run { input := "page.json", output := .stdout } files).outcome = .ok () := by
    decide +kernel
  obtain ⟨presets, hpresets, hsame⟩ :=
    (exportWith_merge sample {} .empty .launch {}).2 {} _ _ files hconfig rfl hrun
  exact ⟨_, presets, hconfig, hpresets, hrun, hsame⟩

end CanvasExport

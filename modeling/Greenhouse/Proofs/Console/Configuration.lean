import Mathlib.Tactic.Common
import Greenhouse.Console.Program

/-!
# The configuration that was asked for

The program takes its configuration from the first file that is there: the one that it was asked to
take, if any, and then those that it knows of.  So a file that was asked for is honoured when it is
there, and also when the file found instead cannot be used, since then the program fails.  It is not
honoured when it is missing and another one can be used, which is `Console.Invocation.Strays`.
-/

namespace Greenhouse

/-- The configuration with another address of the backend, if one is given. -/
def Config.withAddress (c : Config) (url : Option String) : Config :=
  { c with backend := { c.backend with baseUrl := url.getD c.backend.baseUrl } }

/-- What is not there cannot be read. -/
theorem Config.ofFile_of_not_holds {files : Files} {path : String} (h : files.holds path = false) :
  ∃ e, ofFile files path = .error e
  := by
  cases hlookup : files.lookup path with
  | ok entry =>
      rw [Files.holds, hlookup] at h
      nomatch h
  | error cause =>
      use .read path cause.message
      rw [ofFile, Files.readText, hlookup]
      rfl

/-- Without a name in the environment the configuration is that of the first candidate that
exists. -/
theorem Config.load_of_blank {files : Files} {env : Option String}
    (hblank : ∀ path ∈ env, Text.isBlankText path = true) (candidates : List String) :
  load files env candidates
    = match candidates.find? files.holds with
      | some path => (ofFile files path).map fun c => ⟨c, path⟩
      | none => .error (.invalid ("no configuration files found. inspected: "
          ++ String.intercalate ", " candidates))
  := by
  have hnone : env.filter (fun path => !Text.isBlankText path) = none := by
    apply Option.filter_eq_none_iff.mpr
    intro path hpath
    simp [hblank path hpath]
  cases hfind : candidates.find? files.holds <;> simp only [load, hnone, hfind]

namespace Console

/-- The file that was asked for is honoured: its configuration is used, but for an address that is
given beside it, or none at all. -/
def Invocation.Honours (i : Invocation) (c : CommandLine) (file : String) : Prop :=
  (∃ e, configuration i c = .error e)
    ∨ ∃ config, Config.ofFile i.files file = .ok config
      ∧ configuration i c = .ok (config.withAddress c.backendUrl, none)

/-- The file that was asked for is missing, and another one can be used. -/
def Invocation.Strays (i : Invocation) (file path : String) (config : Config) : Prop :=
  i.files.holds file = false ∧ (candidates none).find? i.files.holds = some path
    ∧ Config.ofFile i.files path = .ok config

section
variable {i : Invocation} {c : CommandLine} {file : String} (hasked : c.config = some file)
  (hblank : ∀ path ∈ i.configPath, Text.isBlankText path = true)
include hasked hblank

/-- With a file that was asked for, there is no standard configuration to fall back to. -/
theorem configuration_of_asked :
  configuration i c
    = match (candidates (some file)).find? i.files.holds with
      | some path =>
        (Config.ofFile i.files path).map fun config => (config.withAddress c.backendUrl, none)
      | none => .error (.invalid ("no configuration files found. inspected: "
          ++ String.intercalate ", " (candidates (some file))))
  := by
  rw [configuration, hasked, Config.load_of_blank hblank]
  cases (candidates (some file)).find? i.files.holds with
  | none => rfl
  | some path => cases hfile : Config.ofFile i.files path <;> simp only [hfile] <;> rfl

theorem configuration_of_holds (h : i.files.holds file = true) :
  configuration i c
    = (Config.ofFile i.files file).map fun config => (config.withAddress c.backendUrl, none)
  := by
  have hfind : (candidates (some file)).find? i.files.holds = some file :=
    List.find?_cons_of_pos h
  rw [configuration_of_asked hasked hblank, hfind]

theorem configuration_of_strays {path : String} {config : Config} (h : i.Strays file path config) :
  configuration i c = .ok (config.withAddress c.backendUrl, none)
  := by
  obtain ⟨hmissing, hpath, hconfig⟩ := h
  have hfind : (candidates (some file)).find? i.files.holds = some path := by
    rw [← hpath]
    apply List.find?_cons_of_neg
    simp [hmissing]
  rw [configuration_of_asked hasked hblank, hfind]
  simp only [hconfig]
  rfl

/-- A missing file leaves no configuration to use when there is no other one that can be used. -/
theorem configuration_of_not_strays (hmissing : i.files.holds file = false)
    (h : ∀ path config, ¬ i.Strays file path config) :
  ∃ e, configuration i c = .error e
  := by
  have hfind : (candidates (some file)).find? i.files.holds
      = (candidates none).find? i.files.holds := by
    apply List.find?_cons_of_neg
    simp [hmissing]
  rw [configuration_of_asked hasked hblank, hfind]
  cases hpath : (candidates none).find? i.files.holds with
  | none => exact ⟨_, rfl⟩
  | some path =>
      cases hconfig : Config.ofFile i.files path with
      | error e =>
          use e
          simp only [hconfig]
          rfl
      | ok config => apply absurd ⟨hmissing, hpath, hconfig⟩ (h path config)

end

/-- A run without a configuration to use ends at once. -/
theorem run_of_configuration_error {i : Invocation} {c : CommandLine}
    (hparse : CommandLine.parse i.backendUrl i.arguments = .ok c) {e : ConfigError}
    (h : configuration i c = .error e) (standIn : Rehearsal.StandIn) (place : Url) :
  i.run standIn place = ⟨1, none, [], some e.headline, none, none, standIn⟩
  := by
  simp only [Invocation.run, hparse, h]

/-- Whatever files there are, a file that was asked for is honoured unless it is missing and another
one can be used, and then that one is used without a word.  The standard configuration is never
used, and when there is none to use the program fails. -/
theorem honours_iff_not_strays {i : Invocation} {c : CommandLine} {file : String}
    (hparse : CommandLine.parse i.backendUrl i.arguments = .ok c) (hasked : c.config = some file)
    (hblank : ∀ path ∈ i.configPath, Text.isBlankText path = true) :
  (i.Honours c file ↔ ∀ path config, ¬ i.Strays file path config)
    ∧ (∀ path config, i.Strays file path config →
      configuration i c = .ok (config.withAddress c.backendUrl, none))
    ∧ ∀ e, configuration i c = .error e → ∀ standIn place,
      i.run standIn place = ⟨1, none, [], some e.headline, none, none, standIn⟩
  := by
  constructor
  · constructor
    · intro hhonours path config hstrays
      have hused := configuration_of_strays hasked hblank hstrays
      obtain ⟨e, herror⟩ | ⟨other, hother, _⟩ := hhonours
      · nomatch herror.symm.trans hused
      · obtain ⟨e, hmissing⟩ := Config.ofFile_of_not_holds hstrays.1
        nomatch hmissing.symm.trans hother
    · intro hnever
      cases hthere : i.files.holds file with
      | false =>
          left
          apply configuration_of_not_strays hasked hblank hthere hnever
      | true =>
          have hused := configuration_of_holds hasked hblank hthere
          cases hconfig : Config.ofFile i.files file with
          | error e =>
              left
              use e
              rw [hused, hconfig]
              rfl
          | ok config =>
              right
              use config, hconfig
              rw [hused, hconfig]
              rfl
  constructor
  · intro path config hstrays
    apply configuration_of_strays hasked hblank hstrays
  · intro e herror standIn place
    apply run_of_configuration_error hparse herror

/-- A file with an address in it. -/
def addressFile (url : String) : FileEntry :=
  .file ("[backend]\nbase_url = \"" ++ url ++ "\"\n").toUTF8.toList

/-- A file that is there, beside another one and a blank name in the environment. -/
theorem honours_iff_not_strays_thereBoth :
  let files : Files := [("configs/console.toml", addressFile "http://[::1]"),
    ("my.toml", addressFile "http://[::2]")]
  let i : Invocation := ⟨["--config", "my.toml", "status"], files, some " ", none, none, none, []⟩
  let c : CommandLine := ⟨some "my.toml", none, some .status⟩
  CommandLine.parse i.backendUrl i.arguments = .ok c
    ∧ (∀ path ∈ i.configPath, Text.isBlankText path = true)
    ∧ i.files.holds "my.toml" = true
    ∧ i.Honours c "my.toml"
  := by
  intro files i c
  have hparse : CommandLine.parse i.backendUrl i.arguments = .ok c := by decide +kernel
  have hblank : ∀ path ∈ i.configPath, Text.isBlankText path = true := by decide +kernel
  have hthere : i.files.holds "my.toml" = true := by decide +kernel
  use hparse, hblank, hthere
  apply (honours_iff_not_strays hparse rfl hblank).1.mpr
  rintro path config ⟨hmissing, _⟩
  nomatch hthere.symm.trans hmissing

/-- The file that was asked for is missing, and the address that is used comes from another one. -/
theorem not_honours_missing :
  let other : Config :=
    { Config.standard with backend := { BackendConfig.standard with baseUrl := "http://[::1]" } }
  let files : Files := [("configs/console.toml", addressFile "http://[::1]")]
  let i : Invocation := ⟨["--config", "missing.toml", "status"], files, none, none, none, none, []⟩
  let c : CommandLine := ⟨some "missing.toml", none, some .status⟩
  CommandLine.parse i.backendUrl i.arguments = .ok c
    ∧ i.Strays "missing.toml" "configs/console.toml" other
    ∧ configuration i c = .ok (other, none)
    ∧ ¬ i.Honours c "missing.toml"
  := by
  intro other files i c
  have hparse : CommandLine.parse i.backendUrl i.arguments = .ok c := by decide +kernel
  have hused : configuration i c = .ok (other, none) := by decide +kernel
  have hmissing : Config.ofFile i.files "missing.toml"
      = .error (.read "missing.toml" FileError.missing.message) := by
    decide +kernel
  have hstrays : i.Strays "missing.toml" "configs/console.toml" other := by
    constructor
    · decide +kernel
    constructor <;> decide +kernel
  use hparse, hstrays, hused
  rintro (⟨e, herror⟩ | ⟨config, hconfig, _⟩)
  · nomatch herror.symm.trans hused
  · nomatch hmissing.symm.trans hconfig

end Console

end Greenhouse

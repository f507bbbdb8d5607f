/-
**Launching a client, whatever it is launched in.**

Loading settings may fail, and `Surroundings.load_eq_error_iff` says when. Launching does not fail for that: where no
client is installed, `init` installs one, with the loaded settings or with the defaults (`init_installs`), and both are
valid. It fails for want of room only: nothing is installed if the settings ask for more breadcrumbs than fit into
memory, although they are valid, too.

`Settings.load_or_launch` is the account of both, and `Settings.nothing_installed_vast` has settings for which there is
no room.
-/

import CrashReporter.Proofs.Config.Refusal
import CrashReporter.Proofs.Native.Writes

namespace CrashReporter

variable {κ ν : Type}

/-! ### Settings of a launch -/

namespace Surroundings

variable {surroundings other : Surroundings} {file file' : Layer}

theorem settings_of_load {settings : Settings} (loaded : Settings.load surroundings = .ok settings) :
    surroundings.settings = settings := by
  rw [Surroundings.settings, loaded]

theorem settings_of_error {cause : ConfigError} (failed : Settings.load surroundings = .error cause) :
    surroundings.settings = .defaults := by
  rw [Surroundings.settings, failed]

/-- Settings that a client is launched with keep all rules. -/
theorem settings_obeys (surroundings : Surroundings) : surroundings.settings.Obeys :=
  Settings.obeys_of_validate surroundings.validate_settings

theorem not_refusesFile (gives : surroundings.GivesFile file) : ¬ surroundings.RefusesFile := by
  rcases surroundings.load_cases with ⟨-, nothing, -⟩ | ⟨accepts, -⟩
  · exact absurd gives (nothing file)
  · exact accepts

theorem givesFile_unique (gives : surroundings.GivesFile file) (gives' : surroundings.GivesFile file') :
    file' = file := by
  rcases surroundings.load_cases with ⟨-, nothing, -⟩ | ⟨-, only, same, -⟩
  · exact absurd gives (nothing file)
  · rw [(same file).mp gives, (same file').mp gives']

/-- For a number that the environment sets, it does not matter what the file specifies. -/
theorem resolves_congr (same : other.environment = surroundings.environment) {quantity : Quantity}
    (agree : (∀ value, ¬ surroundings.environment.Sets quantity.key value) →
      quantity.specified file' = quantity.specified file) (number : UInt64) :
    other.Resolves file' quantity number ↔ surroundings.Resolves file quantity number := by
  unfold Resolves
  rw [same]
  refine or_congr_right (and_congr_right fun unset => ?_)
  rw [agree unset]

/-- **What the environment overrides in a file makes loading neither fail nor succeed.** -/
theorem load_eq_error_congr (same : other.environment = surroundings.environment)
    (gives : surroundings.GivesFile file) (gives' : other.GivesFile file')
    (agree : ∀ quantity : Quantity, (∀ value, ¬ surroundings.environment.Sets quantity.key value) →
      quantity.specified file' = quantity.specified file) :
    (∃ cause, Settings.load other = .error cause) ↔ ∃ cause, Settings.load surroundings = .error cause := by
  have rules : (∃ given, other.GivesFile given ∧ other.BreaksRule given) ↔
      ∃ given, surroundings.GivesFile given ∧ surroundings.BreaksRule given := by
    have broken : other.BreaksRule file' ↔ surroundings.BreaksRule file := by
      unfold BreaksRule
      simp only [resolves_congr same (agree _)]
    constructor
    · rintro ⟨given, there, breaks⟩
      rw [givesFile_unique gives' there] at breaks
      exact ⟨file, gives, broken.mp breaks⟩
    · rintro ⟨given, there, breaks⟩
      rw [givesFile_unique gives there] at breaks
      exact ⟨file', gives', broken.mpr breaks⟩
  rw [load_eq_error_iff, load_eq_error_iff, same, rules, iff_false_intro (not_refusesFile gives),
    iff_false_intro (not_refusesFile gives')]

end Surroundings

/-! ### Launches -/

/-- A client that was just launched has room for as many breadcrumbs as its settings say. -/
theorem Client.initial_capacity (surroundings : Surroundings) (runtimeContext : UInt64) :
    (initial surroundings runtimeContext : Client κ).template.trail.capacity =
      surroundings.settings.breadcrumbs.maxBreadcrumbs.toNat := by
  have positive := surroundings.settings_obeys.capacity
  show max 1 _ = _
  refine Nat.max_eq_right (Nat.pos_of_ne_zero fun zero => positive ?_)
  exact UInt64.toNat_inj.mp zero

theorem Schedule.installs_install (schedule : Schedule κ ν) (client : Client κ) :
    Installs { schedule with agent := schedule.agent.install client } ⟨schedule.agent.clients.length⟩ client where
  current := rfl
  held := by
    show (schedule.agent.clients ++ [client])[schedule.agent.clients.length]? = some client
    simp

/-- **Where no client is installed, `init` installs one** with the settings of its surroundings, if there is room for as
many breadcrumbs as these ask for. -/
theorem Schedule.init_installs {schedule : Schedule κ ν} (absent : schedule.agent.current = none)
    (host : Host κ ν) (depth count : Nat) {surroundings : Surroundings} (room : surroundings.HasRoom)
    (runtimeContext : UInt64) :
    ∃ final id client,
      schedule.run host (depth + 1) count (NativeCall.init surroundings runtimeContext).script = some ((), final) ∧
        final.Installs id client ∧ client.settings = surroundings.settings ∧
          client.template.trail.capacity = client.settings.breadcrumbs.maxBreadcrumbs.toNat :=
  ⟨_, _, _, run_init absent room runtimeContext, schedule.installs_install _, rfl,
    Client.initial_capacity surroundings runtimeContext⟩

namespace Settings

/-- **When settings are refused, and what is launched then.**

Loading fails if the named file exists and is no text or no layer, or if a variable that should be a number is set to
something else, or if the numbers of all sources together break a rule. Where the file is none of this, the error names
the first such variable. What the file specifies for a number that the environment sets never counts.

Where no client is installed and as many breadcrumbs fit into memory as the settings ask for, `init` installs one all
the same: its settings are valid, they are the loaded ones, or the defaults if loading failed, and it has room for just
as many breadcrumbs as they say. Where they do not fit, `init` installs nothing and leaves everything as it is. -/
theorem load_or_launch (surroundings : Surroundings) :
    ((∃ cause, load surroundings = .error cause) ↔
      surroundings.RefusesFile ∨
      (∃ quantity : Quantity, ∃ value, surroundings.environment.Misstates quantity.key value) ∨
      ∃ file, surroundings.GivesFile file ∧ surroundings.BreaksRule file) ∧
    (∀ file quantity value, surroundings.GivesFile file → surroundings.environment.FirstMisstates quantity value →
      load surroundings = .error (.invalidNumber quantity.key value)) ∧
    (∀ other : Surroundings, ∀ file file', other.environment = surroundings.environment →
      surroundings.GivesFile file → other.GivesFile file' →
      (∀ quantity : Quantity, (∀ value, ¬ surroundings.environment.Sets quantity.key value) →
        quantity.specified file' = quantity.specified file) →
      ((∃ cause, load other = .error cause) ↔ ∃ cause, load surroundings = .error cause)) ∧
    (∀ (schedule : Schedule κ ν) (host : Host κ ν) (depth count : Nat) (runtimeContext : UInt64),
      schedule.agent.current = none →
      (surroundings.HasRoom → ∃ final id client,
        schedule.run host (depth + 1) count (NativeCall.init surroundings runtimeContext).script = some ((), final) ∧
        final.Installs id client ∧
        client.settings.validate = .ok client.settings ∧ client.settings.Obeys ∧
        (∀ settings, load surroundings = .ok settings → client.settings = settings) ∧
        (∀ cause, load surroundings = .error cause → client.settings = defaults) ∧
        client.template.trail.capacity = client.settings.breadcrumbs.maxBreadcrumbs.toNat) ∧
      (¬ surroundings.HasRoom →
        schedule.run host (depth + 1) count (NativeCall.init surroundings runtimeContext).script =
          some ((), schedule))) := by
  refine ⟨surroundings.load_eq_error_iff, ?_, ?_, ?_⟩
  · exact fun file quantity value gives first => Surroundings.load_of_firstMisstates gives first
  · exact fun other file file' same gives gives' agree =>
      Surroundings.load_eq_error_congr same gives gives' agree
  · intro schedule host depth count runtimeContext absent
    refine ⟨fun room => ?_, fun full => Schedule.run_init_of_not_hasRoom absent full runtimeContext⟩
    obtain ⟨final, id, client, ran, installed, settings, capacity⟩ :=
      Schedule.init_installs absent host depth count room runtimeContext
    have obeys : client.settings.Obeys := settings ▸ surroundings.settings_obeys
    refine ⟨final, id, client, ran, installed, validate_of_obeys obeys, obeys, ?_, ?_, capacity⟩
    · exact fun loaded given => settings.trans (Surroundings.settings_of_load given)
    · exact fun cause failed => settings.trans (Surroundings.settings_of_error failed)

/-- The threshold and the poll interval are no numbers, and no file is named. -/
def garbled : Surroundings where
  environment
    | .hangThreshold => some (Utf8.encode "soon".toList)
    | .pollInterval => some (Utf8.encode "-1".toList)
    | _ => none
  files _ := .missing

/-- The file rules out all looks, and the environment states a poll interval. -/
def overruled : Surroundings where
  environment
    | .configFile => some (Utf8.encode "agent.toml".toList)
    | .pollInterval => some (Utf8.encode " +5\n".toList)
    | _ => none
  files _ := .content (Utf8.encode "[anr]\npoll_interval_ms=0".toList)

/-- The same without the file. -/
def fileless : Surroundings := { overruled with files := fun _ => .missing }

/-- The environment allows for as many breadcrumbs as a number of sixty-four bits can say. -/
def vast : Surroundings where
  environment
    | .maxBreadcrumbs => some (Utf8.encode "18446744073709551615".toList)
    | _ => none
  files _ := .missing

/-- The settings of `vast`. -/
def vastSettings : Settings := { defaults with breadcrumbs := ⟨0xFFFFFFFFFFFFFFFF⟩ }

theorem load_vast : load vast = .ok vastSettings := by
  have unnamed : vast.GivesFile .empty := .inr ⟨Environment.value?_eq_none_iff.mp rfl, rfl⟩
  exact (Surroundings.load_of_gives unnamed).trans (by decide +kernel)

theorem vast_full : ¬ vast.HasRoom := by
  unfold Surroundings.HasRoom
  rw [Surroundings.settings_of_load load_vast]
  decide

/-- Nothing has happened yet. -/
def untouched : Schedule Empty Unit := .start (Agent.start (.still Template.daybreak) (fun _ => 0) ())

theorem load_or_launch_overruled :
    load garbled = .error (.invalidNumber .hangThreshold "soon") ∧
    (¬ ∃ cause, load overruled = .error cause) ∧
    (∃ final id client,
      untouched.run Schedule.silent 1 0 (NativeCall.init overruled 0).script = some ((), final) ∧
        final.Installs id client ∧ client.settings.hang.pollInterval = 5 ∧ client.template.trail.capacity = 100) ∧
    untouched.run Schedule.silent 1 0 (NativeCall.init vast 0).script = some ((), untouched) := by
  have first : garbled.environment.FirstMisstates .threshold "soon" := by
    have read : garbled.environment.number .hangThreshold = .error (.invalidNumber .hangThreshold "soon") := by
      decide +kernel
    obtain ⟨value, misstates, same⟩ := (Environment.number_eq_error_iff _).mp read
    cases same
    refine ⟨misstates, fun other earlier => ?_⟩
    cases List.mem_singleton.mp earlier
    exact @Environment.not_misstates_of_number_ok _ _ none rfl
  have unnamed : garbled.GivesFile .empty := .inr ⟨Environment.value?_eq_none_iff.mp rfl, rfl⟩
  have names : overruled.environment.Sets .configFile "agent.toml" := ⟨by decide, rfl⟩
  have nothing : fileless.GivesFile .empty := .inl ⟨_, names, .missing rfl⟩
  have gives : overruled.GivesFile { Layer.empty with hang := some ⟨none, some 0⟩ } :=
    .inl ⟨_, names, .content "[anr]\npoll_interval_ms=0" _ rfl (by decide +kernel)⟩
  have sets : overruled.environment.Sets .pollInterval " +5\n" := ⟨by decide, rfl⟩
  have fine := (@load_or_launch Empty Unit fileless).2.2.1 overruled _ _ rfl nothing gives fun quantity unset => by
    cases quantity with
    | capacity => rfl
    | threshold => rfl
    | pollInterval => exact absurd sets (unset _)
  have loaded : load overruled = .ok { defaults with hang := ⟨5000, 5⟩ } :=
    (Surroundings.load_of_gives gives).trans (by decide +kernel)
  have loaded' : load fileless = .ok { defaults with hang := ⟨5000, 5⟩ } :=
    (Surroundings.load_of_gives nothing).trans (by decide +kernel)
  have room : overruled.HasRoom := by
    unfold Surroundings.HasRoom
    rw [Surroundings.settings_of_load loaded]
    decide
  obtain ⟨final, id, client, ran, installed, -, -, settings, -, capacity⟩ :=
    ((@load_or_launch Empty Unit overruled).2.2.2 untouched Schedule.silent 0 0 0 rfl).1 room
  rw [settings _ loaded] at capacity
  refine ⟨(@load_or_launch Empty Unit garbled).2.1 _ _ _ unnamed first, ?_,
    ⟨final, id, client, ran, installed, ?_, capacity⟩,
    ((@load_or_launch Empty Unit vast).2.2.2 untouched Schedule.silent 0 0 0 rfl).2 vast_full⟩
  · rw [fine, loaded']
    rintro ⟨cause, ⟨⟩⟩
  · rw [settings _ loaded]

/-- **Valid settings for which there is no room** are loaded, and then no client is installed. -/
theorem nothing_installed_vast :
    load vast = .ok vastSettings ∧ vastSettings.validate = .ok vastSettings ∧
      untouched.agent.current = none ∧
      ∃ final, untouched.run Schedule.silent 1 0 (NativeCall.init vast 0).script = some ((), final) ∧
        final.agent.current = none :=
  ⟨load_vast, by decide +kernel, rfl, untouched, Schedule.run_init_of_not_hasRoom rfl vast_full 0, rfl⟩

end Settings

end CrashReporter

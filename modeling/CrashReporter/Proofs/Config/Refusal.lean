/-
**When a configuration is refused.**

* `Files.layer_eq_ok_iff`, `Files.layer_eq_error_iff`: a file gives its layer, or is refused because it is no text or
  no layer;
* `Environment.layer_eq_error_iff`: the variables are refused for the first one that should be a number and is none;
* `Settings.validate_eq_error_iff`: settings are refused unless they keep all rules (`Settings.Obeys`);
* `Surroundings.load_eq_error_iff`: so loading fails if one of this is so, for the numbers that the environment decides
  before the file (`Surroundings.Resolves`).
-/

import CrashReporter.Proofs.Config.Loading
import CrashReporter.Proofs.Config.Numbers

namespace CrashReporter

/-! ### Files -/

namespace Files

variable {files : Files} {path : String}

/-- A file exists and is no text, or its text is no layer. -/
inductive Refuses (files : Files) (path : String) : Prop where
  | unreadable : files path = .unreadable → Refuses files path
  | illFormed (octets : List UInt8) :
    files path = .content octets → (∀ characters, octets ≠ Utf8.encode characters) → Refuses files path
  | malformed (text : String) :
    files path = .content (Utf8.encode text.toList) → Layer.ofToml? text = none → Refuses files path

/-- The layer that a file gives. A missing file specifies nothing. -/
inductive Gives (files : Files) (path : String) : Layer → Prop where
  | missing : files path = .missing → Gives files path .empty
  | content (text : String) (layer : Layer) :
    files path = .content (Utf8.encode text.toList) → Layer.ofToml? text = some layer → Gives files path layer

theorem layer_of_encode {text : String} (stands : files path = .content (Utf8.encode text.toList)) :
    files.layer path = (Layer.ofToml? text).elim (.error (.malformedFile path)) .ok := by
  have read : Utf8.decode? (Utf8.encode text.toList) = some text.toList := (Utf8.decode?_eq_some_iff _ _).mpr rfl
  unfold layer
  rw [stands]
  dsimp only
  rw [read]
  dsimp only
  rw [String.ofList_toList]
  cases Layer.ofToml? text <;> rfl

theorem Gives.layer_eq {layer : Layer} (gives : files.Gives path layer) : files.layer path = .ok layer := by
  cases gives with
  | missing stands => rw [Files.layer, stands]
  | content text layer stands found => rw [layer_of_encode stands, found, Option.elim_some]

theorem Refuses.exists_error (refuses : files.Refuses path) : ∃ cause, files.layer path = .error cause := by
  cases refuses with
  | unreadable stands => exact ⟨.unreadableFile path, by rw [layer, stands]⟩
  | illFormed octets stands ill =>
    have read : Utf8.decode? octets = none := by
      rw [Option.eq_none_iff_forall_ne_some]
      exact fun characters read => ill characters ((Utf8.decode?_eq_some_iff _ _).mp read)
    refine ⟨.unreadableFile path, ?_⟩
    rw [layer, stands]
    dsimp only
    rw [read]
  | malformed text stands found => exact ⟨.malformedFile path, by rw [layer_of_encode stands, found, Option.elim_none]⟩

/-- What stands at a path gives a layer or is refused. -/
theorem gives_or_refuses (files : Files) (path : String) : (∃ layer, files.Gives path layer) ∨ files.Refuses path := by
  cases stands : files path with
  | missing => exact .inl ⟨.empty, .missing stands⟩
  | unreadable => exact .inr (.unreadable stands)
  | content octets =>
    by_cases spelled : ∃ characters, octets = Utf8.encode characters
    · obtain ⟨characters, rfl⟩ := spelled
      rw [← String.toList_ofList (l := characters)] at stands
      cases found : Layer.ofToml? (String.ofList characters) with
      | none => exact .inr (.malformed _ stands found)
      | some layer => exact .inl ⟨layer, .content _ layer stands found⟩
    · exact .inr (.illFormed octets stands (not_exists.mp spelled))

theorem layer_eq_ok_iff (layer : Layer) : files.layer path = .ok layer ↔ files.Gives path layer := by
  refine ⟨fun given => ?_, Gives.layer_eq⟩
  rcases files.gives_or_refuses path with ⟨other, gives⟩ | refuses
  · rw [gives.layer_eq] at given
    exact Except.ok.inj given ▸ gives
  · obtain ⟨cause, refused⟩ := refuses.exists_error
    rw [given] at refused
    cases refused

theorem layer_eq_error_iff : (∃ cause, files.layer path = .error cause) ↔ files.Refuses path := by
  refine ⟨fun ⟨cause, refused⟩ => ?_, Refuses.exists_error⟩
  rcases files.gives_or_refuses path with ⟨layer, gives⟩ | refuses
  · rw [gives.layer_eq] at refused
    cases refused
  · exact refuses

end Files

/-! ### Numbers -/

/-- A setting that is a number. -/
inductive Quantity where
  | capacity
  | threshold
  | pollInterval

namespace Quantity

/-- The variable that it is set by. -/
def key : Quantity → Variable
  | .capacity => .maxBreadcrumbs
  | .threshold => .hangThreshold
  | .pollInterval => .pollInterval

/-- Those that are read before it. -/
def earlier : Quantity → List Quantity
  | .capacity => []
  | .threshold => [.capacity]
  | .pollInterval => [.capacity, .threshold]

/-- What a layer specifies for it. -/
def specified (layer : Layer) : Quantity → Option UInt64
  | .capacity => layer.field? .maxBreadcrumbs
  | .threshold => layer.field? .threshold
  | .pollInterval => layer.field? .pollInterval

/-- What it is if nothing is specified. -/
def default : Quantity → UInt64
  | .capacity => 100
  | .threshold => 5000
  | .pollInterval => 100

/-- What it is in settings. -/
def value (settings : Settings) : Quantity → UInt64
  | .capacity => settings.breadcrumbs.maxBreadcrumbs
  | .threshold => settings.hang.threshold
  | .pollInterval => settings.hang.pollInterval

theorem value_ofLayers (file environment : Layer) (quantity : Quantity) :
    quantity.value (Settings.ofLayers file environment) =
      (quantity.specified environment <|> quantity.specified file).getD quantity.default := by
  cases quantity <;> rfl

end Quantity

namespace Environment

variable {environment : Environment}

/-- The first setting that should be a number, and what it is set to instead. -/
def FirstMisstates (environment : Environment) (quantity : Quantity) (value : String) : Prop :=
  environment.Misstates quantity.key value ∧
    ∀ other ∈ quantity.earlier, ∀ value, ¬ environment.Misstates other.key value

theorem number_ok_of_not_misstates {key : Variable} (proper : ∀ value, ¬ environment.Misstates key value) :
    ∃ number, environment.number key = .ok number := by
  cases read : environment.number key with
  | ok number => exact ⟨number, rfl⟩
  | error cause =>
    obtain ⟨value, misstates, -⟩ := (number_eq_error_iff cause).mp read
    exact absurd misstates (proper value)

theorem not_misstates_of_number_ok {key : Variable} {number : Option UInt64}
    (read : environment.number key = .ok number) (value : String) : ¬ environment.Misstates key value := by
  intro misstates
  rw [(number_eq_error_iff _).mpr ⟨value, misstates, rfl⟩] at read
  cases read

/-- The first variable that should be a number and is none is named. -/
theorem FirstMisstates.layer_eq {quantity : Quantity} {value : String}
    (first : environment.FirstMisstates quantity value) :
    environment.layer = .error (.invalidNumber quantity.key value) := by
  obtain ⟨misstates, proper⟩ := first
  have refused := (number_eq_error_iff _).mpr ⟨value, misstates, rfl⟩
  unfold layer
  cases quantity with
  | capacity =>
    rw [show environment.number .maxBreadcrumbs = _ from refused]
    rfl
  | threshold =>
    obtain ⟨capacity, read⟩ := number_ok_of_not_misstates (proper .capacity (by simp [Quantity.earlier]))
    rw [show environment.number .maxBreadcrumbs = _ from read,
      show environment.number .hangThreshold = _ from refused]
    rfl
  | pollInterval =>
    obtain ⟨capacity, read⟩ := number_ok_of_not_misstates (proper .capacity (by simp [Quantity.earlier]))
    obtain ⟨threshold, read'⟩ := number_ok_of_not_misstates (proper .threshold (by simp [Quantity.earlier]))
    rw [show environment.number .maxBreadcrumbs = _ from read,
      show environment.number .hangThreshold = _ from read', show environment.number .pollInterval = _ from refused]
    rfl

/-- Variables that should be numbers and are give a layer that specifies them. -/
theorem exists_layer_eq {numbers : Quantity → Option UInt64}
    (read : ∀ quantity, environment.number quantity.key = .ok (numbers quantity)) :
    ∃ layer, environment.layer = .ok layer ∧ ∀ quantity, quantity.specified layer = numbers quantity := by
  unfold layer
  rw [show environment.number .maxBreadcrumbs = _ from read .capacity,
    show environment.number .hangThreshold = _ from read .threshold,
    show environment.number .pollInterval = _ from read .pollInterval]
  exact ⟨_, rfl, fun quantity => by cases quantity <;> rfl⟩

/-- If any is none, there is a first one. -/
theorem exists_firstMisstates {quantity : Quantity} {value : String}
    (misstates : environment.Misstates quantity.key value) :
    ∃ quantity value, environment.FirstMisstates quantity value := by
  by_cases capacity : ∃ value, environment.Misstates Quantity.capacity.key value
  · obtain ⟨value, here⟩ := capacity
    exact ⟨.capacity, value, here, by simp [Quantity.earlier]⟩
  by_cases threshold : ∃ value, environment.Misstates Quantity.threshold.key value
  · obtain ⟨value, here⟩ := threshold
    exact ⟨.threshold, value, here, by simpa [Quantity.earlier] using capacity⟩
  cases quantity with
  | capacity => exact absurd ⟨value, misstates⟩ capacity
  | threshold => exact absurd ⟨value, misstates⟩ threshold
  | pollInterval =>
    refine ⟨.pollInterval, value, misstates, ?_⟩
    simpa [Quantity.earlier] using And.intro (not_exists.mp capacity) (not_exists.mp threshold)

end Environment

/-! ### Rules -/

namespace Settings

/-- Settings keep all rules. -/
structure Obeys (settings : Settings) : Prop where
  capacity : settings.breadcrumbs.maxBreadcrumbs ≠ 0
  pollInterval : settings.hang.pollInterval ≠ 0
  threshold : settings.hang.pollInterval ≤ settings.hang.threshold

theorem not_obeys_iff (settings : Settings) :
    ¬ settings.Obeys ↔
      settings.breadcrumbs.maxBreadcrumbs = 0 ∨ settings.hang.pollInterval = 0 ∨
        settings.hang.threshold < settings.hang.pollInterval := by
  rw [← UInt64.not_le]
  constructor
  · intro broken
    by_contra kept
    simp only [not_or, not_not] at kept
    exact broken ⟨kept.1, kept.2.1, kept.2.2⟩
  · rintro (capacity | pollInterval | threshold) obeys
    · exact obeys.capacity capacity
    · exact obeys.pollInterval pollInterval
    · exact threshold obeys.threshold

theorem infraction?_eq_none_iff (settings : Settings) : settings.infraction? = none ↔ settings.Obeys := by
  unfold infraction?
  split_ifs with capacity pollInterval threshold
  · exact iff_of_false (by simp) fun obeys => obeys.capacity capacity
  · exact iff_of_false (by simp) fun obeys => obeys.pollInterval pollInterval
  · exact iff_of_false (by simp) fun obeys => UInt64.not_le.mpr threshold obeys.threshold
  · exact iff_of_true rfl ⟨capacity, pollInterval, UInt64.not_lt.mp threshold⟩

theorem validate_of_obeys {settings : Settings} (obeys : settings.Obeys) : settings.validate = .ok settings := by
  rw [validate, (infraction?_eq_none_iff settings).mpr obeys]

theorem obeys_of_validate {settings valid : Settings} (checked : settings.validate = .ok valid) : settings.Obeys := by
  rw [← infraction?_eq_none_iff]
  unfold validate at checked
  cases found : settings.infraction? with
  | none => rfl
  | some infraction =>
    rw [found] at checked
    cases checked

theorem validate_eq_error_iff (settings : Settings) :
    (∃ cause, settings.validate = .error cause) ↔ ¬ settings.Obeys := by
  constructor
  · rintro ⟨cause, refused⟩ obeys
    rw [validate_of_obeys obeys] at refused
    cases refused
  · intro broken
    cases checked : settings.validate with
    | ok valid => exact absurd (obeys_of_validate checked) broken
    | error cause => exact ⟨cause, rfl⟩

end Settings

/-! ### All sources -/

namespace Surroundings

variable {surroundings : Surroundings} {file : Layer}

/-- The file that the environment names is refused. -/
def RefusesFile (surroundings : Surroundings) : Prop :=
  ∃ path, surroundings.environment.Sets .configFile path ∧ surroundings.files.Refuses path

/-- The layer of the file that the environment names. If it names none, no file specifies anything. -/
def GivesFile (surroundings : Surroundings) (layer : Layer) : Prop :=
  (∃ path, surroundings.environment.Sets .configFile path ∧ surroundings.files.Gives path layer) ∨
    (∀ path, ¬ surroundings.environment.Sets .configFile path) ∧ layer = .empty

/-- A number is what the environment states. If it sets nothing, it is what the file specifies, else the default. -/
def Resolves (surroundings : Surroundings) (file : Layer) (quantity : Quantity) (number : UInt64) : Prop :=
  surroundings.environment.States quantity.key number ∨
    (∀ value, ¬ surroundings.environment.Sets quantity.key value) ∧
      number = (quantity.specified file).getD quantity.default

/-- The numbers of all sources together break a rule. -/
def BreaksRule (surroundings : Surroundings) (file : Layer) : Prop :=
  ∃ capacity threshold pollInterval, surroundings.Resolves file .capacity capacity ∧
    surroundings.Resolves file .threshold threshold ∧ surroundings.Resolves file .pollInterval pollInterval ∧
      (capacity = 0 ∨ pollInterval = 0 ∨ threshold < pollInterval)

/-- The file that the environment names gives a layer or is refused, and loading starts from that. -/
theorem load_cases (surroundings : Surroundings) :
    (surroundings.RefusesFile ∧ (∀ file, ¬ surroundings.GivesFile file) ∧
      ∃ cause, Settings.load surroundings = .error cause) ∨
    ¬ surroundings.RefusesFile ∧ ∃ file, (∀ other, surroundings.GivesFile other ↔ other = file) ∧
      Settings.load surroundings = Settings.combined (.ok file) surroundings.environment.layer := by
  rw [Settings.load_eq]
  cases named : surroundings.environment.value? .configFile with
  | none =>
    have unnamed := Environment.value?_eq_none_iff.mp named
    refine .inr ⟨fun ⟨path, names, _⟩ => unnamed path names, .empty, fun other => ?_, rfl⟩
    simp [GivesFile, unnamed]
  | some path =>
    have names : ∀ other, surroundings.environment.Sets .configFile other ↔ other = path := by
      intro other
      rw [← Environment.value?_eq_some_iff, named, Option.some.injEq, eq_comm]
    simp only [RefusesFile, GivesFile, names, exists_eq_left, ← Files.layer_eq_ok_iff, ← Files.layer_eq_error_iff]
    cases surroundings.files.layer path with
    | error cause => exact .inl ⟨⟨cause, rfl⟩, by simp, ⟨cause, rfl⟩⟩
    | ok file => exact .inr ⟨by simp, file, by simp [eq_comm], rfl⟩

theorem load_of_gives (gives : surroundings.GivesFile file) :
    Settings.load surroundings = Settings.combined (.ok file) surroundings.environment.layer := by
  rcases surroundings.load_cases with ⟨-, nothing, -⟩ | ⟨-, other, only, loaded⟩
  · exact absurd gives (nothing file)
  · rw [loaded, (only file).mp gives]

/-- The first variable that should be a number and is none is the error. -/
theorem load_of_firstMisstates (gives : surroundings.GivesFile file) {quantity : Quantity} {value : String}
    (first : surroundings.environment.FirstMisstates quantity value) :
    Settings.load surroundings = .error (.invalidNumber quantity.key value) := by
  rw [load_of_gives gives, first.layer_eq]
  rfl

/-- Without such a variable, settings of the resolved numbers are checked. -/
theorem load_of_proper (gives : surroundings.GivesFile file)
    (proper : ∀ quantity : Quantity, ∀ value, ¬ surroundings.environment.Misstates quantity.key value) :
    ∃ settings : Settings, Settings.load surroundings = settings.validate ∧
      ∀ quantity number, surroundings.Resolves file quantity number ↔ number = quantity.value settings := by
  have read := fun quantity => Environment.number_ok_of_not_misstates (proper quantity)
  choose numbers read using read
  obtain ⟨upper, given, specified⟩ := Environment.exists_layer_eq read
  refine ⟨Settings.ofLayers file upper, ?_, fun quantity number => ?_⟩
  · rw [load_of_gives gives, given]
    rfl
  · rw [Quantity.value_ofLayers, specified, Resolves, ← Environment.number_eq_some_iff,
      ← Environment.number_eq_none_iff, read]
    cases numbers quantity <;> simp [eq_comm]

/-- **When loading fails**: the named file is refused, or a variable that should be a number is none, or the numbers
that all sources resolve to break a rule. -/
theorem load_eq_error_iff (surroundings : Surroundings) :
    (∃ cause, Settings.load surroundings = .error cause) ↔
      surroundings.RefusesFile ∨
      (∃ quantity : Quantity, ∃ value, surroundings.environment.Misstates quantity.key value) ∨
      ∃ file, surroundings.GivesFile file ∧ surroundings.BreaksRule file := by
  rcases surroundings.load_cases with ⟨refuses, -, failed⟩ | ⟨accepts, file, only, -⟩
  · exact iff_of_true failed (.inl refuses)
  have gives := (only file).mpr rfl
  by_cases misstated : ∃ quantity : Quantity, ∃ value, surroundings.environment.Misstates quantity.key value
  · obtain ⟨quantity, value, misstates⟩ := misstated
    obtain ⟨other, given, first⟩ := Environment.exists_firstMisstates misstates
    exact iff_of_true ⟨_, load_of_firstMisstates gives first⟩ (.inr (.inl ⟨quantity, value, misstates⟩))
  · have proper : ∀ quantity : Quantity, ∀ value, ¬ surroundings.environment.Misstates quantity.key value :=
      fun quantity value misstates => misstated ⟨quantity, value, misstates⟩
    obtain ⟨settings, checked, resolved⟩ := load_of_proper gives proper
    rw [checked, Settings.validate_eq_error_iff, Settings.not_obeys_iff, or_iff_right accepts,
      or_iff_right misstated]
    simp only [only, exists_eq_left, BreaksRule, resolved]
    constructor
    · exact fun broken => ⟨_, _, _, rfl, rfl, rfl, broken⟩
    · rintro ⟨_, _, _, rfl, rfl, rfl, broken⟩
      exact broken

end Surroundings

end CrashReporter

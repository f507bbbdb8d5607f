/-
**Loading settings.**

A source is ranked by what it is, so that sources of different ranks have one order (`ordered_eq`), and however they
are listed the layers are merged in the same one.

`loadFrom_eq`: whatever the order in which sources are listed, every field is on its own the environment's if that
specifies it, else the file's, else its default; and of several errors the file's comes first, then the
environment's, then a broken rule. Where the file is named makes no difference.
-/

import CrashReporter.Config.Source
import CrashReporter.Proofs.Config.Fields
import Mathlib.Data.List.Nodup

namespace CrashReporter

/-! ### The order of sources -/

/-- **Sources of different ranks have one order**, and are listed in it. -/
theorem Source.ordered_eq {sources ranked : List Source} (same : sources.Perm ranked)
    (increasing : ranked.Pairwise fun first second => first.precedence < second.precedence) :
    Source.ordered sources = ranked := by
  have perm : (Source.ordered sources).Perm ranked := (List.mergeSort_perm sources _).trans same
  have sorted : (Source.ordered sources).Pairwise fun first second => first.precedence ≤ second.precedence := by
    refine (List.pairwise_mergeSort ?_ ?_ sources).imp of_decide_eq_true
    · simp only [decide_eq_true_eq]
      omega
    · simp only [Bool.or_eq_true, decide_eq_true_eq]
      omega
  have distinct : (ranked.map Source.precedence).Nodup := by
    rw [List.Nodup, List.pairwise_map]
    exact increasing.imp Nat.ne_of_lt
  refine perm.eq_of_pairwise ?_ sorted (increasing.imp Nat.le_of_lt)
  intro first second member other before behind
  exact List.inj_on_of_nodup_map distinct (perm.mem_iff.mp member) other (Nat.le_antisymm before behind)

/-! ### Unset variables -/

/-- A variable that is unset or empty has no value. -/
theorem Environment.value?_of_unset {environment : Environment} {key : Variable}
    (unset : environment key = none ∨ environment key = some []) : environment.value? key = none := by
  unfold Environment.value?
  rcases unset with unset | unset
  · rw [unset]
    rfl
  · rw [unset]
    rfl

/-- A layer of the environment reads the variables of the fields only. -/
theorem Environment.layer_congr {environment other : Environment}
    (same : ∀ key, key ≠ .configFile → other key = environment key) : other.layer = environment.layer := by
  have values : ∀ key, key ≠ .configFile → other.value? key = environment.value? key := by
    intro key field
    unfold Environment.value?
    rw [same key field]
  unfold Environment.layer Environment.number Environment.list?
  simp only [values _ (by decide : Variable.maxBreadcrumbs ≠ .configFile), values .hangThreshold (by decide),
    values .pollInterval (by decide), values .enabledReleaseStages (by decide),
    values .discardClasses (by decide), values .logLevel (by decide)]

/-! ### Loading -/

namespace Settings

/-- The settings of a file's layer under that of the environment, field by field. -/
def ofLayers (file environment : Layer) : Settings :=
  ofFields fun field => field.resolve (environment.field? field <|> file.field? field)

/-- The settings of a file and of the environment, or the first error. -/
def combined (file environment : Except ConfigError Layer) : Except ConfigError Settings := do
  let file ← file
  let environment ← environment
  (ofLayers file environment).validate

variable {surroundings other : Surroundings} {sources : List Source} {path : String}

/-- The layer of the defaults specifies nothing, so that merging it makes no difference. -/
theorem finalize_eq (file environment : Layer) :
    ((Layer.empty.merge file).merge environment).finalize = (ofLayers file environment).validate := by
  have fields : ∀ field, ((Layer.empty.merge file).merge environment).field? field =
      (environment.field? field <|> file.field? field) := by
    intro field
    rw [Layer.field?_merge, Layer.field?_merge, Layer.field?_empty]
    cases file.field? field <;> rfl
  unfold Layer.finalize
  rw [Layer.resolve_eq, funext fun field => congrArg field.resolve (fields field)]
  rfl

theorem loadFrom_of_perm (listed : sources.Perm [.defaults, .file path, .environment]) :
    loadFrom surroundings sources = combined (surroundings.files.layer path) surroundings.environment.layer := by
  have ranked : [Source.defaults, .file path, .environment].Pairwise fun first second =>
      first.precedence < second.precedence := by
    simp [Source.precedence]
  unfold loadFrom combined
  rw [Source.ordered_eq listed ranked]
  simp only [mergeSources, Source.layer]
  cases surroundings.files.layer path with
  | error _ => rfl
  | ok file =>
    cases surroundings.environment.layer with
    | error _ => rfl
    | ok environment => exact finalize_eq file environment

/-- Without a file, the settings are those of a file that specifies nothing. -/
theorem loadFrom_of_perm_fileless (listed : sources.Perm [.defaults, .environment]) :
    loadFrom surroundings sources = combined (.ok .empty) surroundings.environment.layer := by
  unfold loadFrom combined
  rw [Source.ordered_eq listed (by decide)]
  simp only [mergeSources, Source.layer]
  cases surroundings.environment.layer with
  | error _ => rfl
  | ok environment => exact finalize_eq .empty environment

theorem load_eq : load surroundings = combined
    (match surroundings.environment.value? .configFile with
      | some path => surroundings.files.layer path
      | none => .ok .empty)
    surroundings.environment.layer := by
  unfold load Source.ofVariable?
  cases surroundings.environment.value? .configFile with
  | none => exact loadFrom_of_perm_fileless (.refl _)
  | some path => exact loadFrom_of_perm (.cons _ (.swap _ _ _))

/-- **The settings that sources give together.**

In whatever order the defaults, a file and the environment are listed, every field is on its own what the environment
specifies, else what the file specifies, else its default, a list as a whole; where several sources fail, the
error is the file's, then the environment's, then that of a broken rule. So it does not matter whether a file
is named by the variable or given, and without a name all is as with a file that does not exist. -/
theorem loadFrom_eq (surroundings : Surroundings) :
    (∀ path sources, sources.Perm [.defaults, .file path, .environment] →
      loadFrom surroundings sources = combined (surroundings.files.layer path) surroundings.environment.layer) ∧
    (∀ sources, sources.Perm [.defaults, .environment] →
      loadFrom surroundings sources = combined (.ok .empty) surroundings.environment.layer) ∧
    (∀ other : Surroundings, (∀ key, key ≠ .configFile → other.environment key = surroundings.environment key) →
      (∀ path, surroundings.environment.value? .configFile = some path → other.files = surroundings.files →
        load surroundings = loadWithFile other path) ∧
      (∀ path, surroundings.environment.value? .configFile = none → other.files path = .missing →
        load surroundings = loadWithFile other path)) ∧
    (surroundings.environment .configFile = none ∨ surroundings.environment .configFile = some [] →
      surroundings.environment.value? .configFile = none) := by
  refine ⟨fun _ _ => loadFrom_of_perm, fun _ => loadFrom_of_perm_fileless, ?_, Environment.value?_of_unset⟩
  intro other same
  have layers : other.environment.layer = surroundings.environment.layer := Environment.layer_congr same
  constructor
  · intro path named files
    rw [load_eq, named]
    unfold loadWithFile
    rw [loadFrom_of_perm (.refl _), layers, files]
  · intro path unnamed missing
    have nothing : other.files.layer path = .ok .empty := by
      unfold Files.layer
      rw [missing]
    rw [load_eq, unnamed]
    unfold loadWithFile
    rw [loadFrom_of_perm (.refl _), layers, nothing]

/-- The file cannot be read, and the poll interval is no number. -/
def muddled : Surroundings where
  environment
    | .configFile => some [0x61]
    | .pollInterval => some [0x78]
    | _ => none
  files _ := .unreadable

/-- The file's variable is empty, and the poll interval is set. -/
def modest : Surroundings where
  environment
    | .configFile => some []
    | .pollInterval => some [0x35]
    | _ => none
  files _ := .missing

/-- Of two errors the file's comes first; without a file, the defaults stand beside the environment. -/
theorem loadFrom_eq_muddled :
    loadFrom muddled [.environment, .file "a", .defaults] = .error (.unreadableFile "a") ∧
    load muddled = loadWithFile muddled "a" ∧
    loadFrom modest [.environment, .defaults] = .ok { defaults with hang := ⟨5000, 5⟩ } ∧
    load modest = loadWithFile modest "b" := by
  have reversed : [Source.environment, .file "a", .defaults].Perm [.defaults, .file "a", .environment] := by decide
  have listed := (loadFrom_eq muddled).1 "a" [.environment, .file "a", .defaults] reversed
  have fileless := (loadFrom_eq modest).2.1 [.environment, .defaults] (by decide)
  have named := ((loadFrom_eq muddled).2.2.1 muddled fun _ _ => rfl).1 "a" (by decide) rfl
  have unset := (loadFrom_eq modest).2.2.2 (.inr rfl)
  have unnamed := ((loadFrom_eq modest).2.2.1 modest fun _ _ => rfl).2 "b" unset rfl
  exact ⟨listed.trans rfl, named, fileless.trans rfl, unnamed⟩

end Settings

end CrashReporter

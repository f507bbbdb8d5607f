/-
**Layers of settings.**

A layer is what one source specifies: sections that may be absent, of fields that may be absent.
`Layer.merge` lays a layer over another one: where both specify a field, the upper one counts, and a list
replaces a list as a whole.
-/

namespace CrashReporter

/-- What a source says about the trail of breadcrumbs. -/
structure BreadcrumbsLayer where
  maxBreadcrumbs : Option UInt64
  deriving DecidableEq, Repr

/-- What a source says about the detection of hangs, in milliseconds. -/
structure HangLayer where
  threshold : Option UInt64
  pollInterval : Option UInt64
  deriving DecidableEq, Repr

/-- What a source says about which events are reported. -/
structure ReleaseLayer where
  enabledStages : Option (List String)
  discardClasses : Option (List String)
  deriving DecidableEq, Repr

/-- What a source says about the agent's own log. -/
structure LogLayer where
  level : Option String
  deriving DecidableEq, Repr

/-- What one source specifies. -/
structure Layer where
  breadcrumbs : Option BreadcrumbsLayer
  hang : Option HangLayer
  release : Option ReleaseLayer
  log : Option LogLayer
  deriving DecidableEq, Repr

/-- The upper field where there is one. -/
def overlay {α : Type} (lower upper : Option α) : Option α :=
  upper <|> lower

namespace BreadcrumbsLayer

/-- Nothing is specified. -/
def empty : BreadcrumbsLayer := ⟨none⟩

/-- Lays a section over another one. -/
def merge (lower upper : BreadcrumbsLayer) : BreadcrumbsLayer :=
  ⟨overlay lower.maxBreadcrumbs upper.maxBreadcrumbs⟩

end BreadcrumbsLayer

namespace HangLayer

/-- Nothing is specified. -/
def empty : HangLayer := ⟨none, none⟩

/-- Lays a section over another one. -/
def merge (lower upper : HangLayer) : HangLayer :=
  ⟨overlay lower.threshold upper.threshold, overlay lower.pollInterval upper.pollInterval⟩

end HangLayer

namespace ReleaseLayer

/-- Nothing is specified. -/
def empty : ReleaseLayer := ⟨none, none⟩

/-- Lays a section over another one. -/
def merge (lower upper : ReleaseLayer) : ReleaseLayer :=
  ⟨overlay lower.enabledStages upper.enabledStages,
    overlay lower.discardClasses upper.discardClasses⟩

end ReleaseLayer

namespace LogLayer

/-- Nothing is specified. -/
def empty : LogLayer := ⟨none⟩

/-- Lays a section over another one. -/
def merge (lower upper : LogLayer) : LogLayer :=
  ⟨overlay lower.level upper.level⟩

end LogLayer

namespace Layer

/-- Nothing is specified. -/
def empty : Layer := ⟨none, none, none, none⟩

instance : Inhabited Layer := ⟨empty⟩

/-- Lays a layer over another one, section by section. -/
def merge (lower upper : Layer) : Layer :=
  { breadcrumbs := Option.merge BreadcrumbsLayer.merge lower.breadcrumbs upper.breadcrumbs
    hang := Option.merge HangLayer.merge lower.hang upper.hang
    release := Option.merge ReleaseLayer.merge lower.release upper.release
    log := Option.merge LogLayer.merge lower.log upper.log }

end Layer

end CrashReporter

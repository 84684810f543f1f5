import ManifestSarif.Log.Directive
import ManifestSarif.Text.Lines

/-!
# Log filters

A filter is a list of directives.  Some decide about single events by their source; others, which
name a span or a field, decide about all that happens in the phases they fit.

* `Filter.ofText?` reads a filter, a list of directives separated by commas,
* `Filter.shown` picks the events that a filter shows, each with the phases that it shows.

A phase is a span of its own: `phaseSpan` is its name, and it has one field, `phaseField`, with the
name of the phase.  It is logged like an event of level info.
-/

namespace ManifestSarif.Log

open Text

/-- The name of the span that a phase is. -/
def phaseSpan : List Char := "phase".toList

/-- The field of the span that holds the name of the phase. -/
def phaseField : List Char := "name".toList

/-- The one field that events have. -/
def eventField : List Char := "message".toList

/-- The rank of the last level that is let through, 0 if none is. -/
def limitRank : Option Level → Nat
  | none => 0
  | some level => level.rank

namespace Directive

/-- Whether the directive decides about events by themselves: it names no span and tests no
value. -/
def isPlain (directive : Directive) : Bool :=
  directive.span.isNone && directive.field.all (·.value.isNone)

/-- Whether the directive decides about what happens in a span: it names one, or a field. -/
def isScoped (directive : Directive) : Bool :=
  directive.span.isSome || directive.field.isSome

/-- Whether the directive covers a source. -/
def covers (source : Source) (directive : Directive) : Bool :=
  directive.target.all fun target => target.isPrefixOf source.name.toList

/-- How specific a directive is, to be compared from the left: the length of the target, which is
least where there is none, and then the name of the field. -/
def specificity (directive : Directive) : List Nat :=
  (match directive.target with
    | none => 0
    | some target => target.length + 1) ::
  match directive.field with
    | none => []
    | some field => 1 :: field.name.map Char.toNat

/-- Whether `b` is more specific than `a`. -/
def lessSpecific (a b : Directive) : Bool :=
  List.lex a.specificity b.specificity Nat.blt

/-- Whether two directives fit the same phases because they are written alike. -/
def sameScope (a b : Directive) : Bool :=
  a.target = b.target && a.span = b.span && a.field = b.field

/-- Whether the directive fits phases, as far as their names do not matter. -/
def fitsPhases (directive : Directive) : Bool :=
  directive.isScoped && directive.covers .phases && directive.span.all (· = phaseSpan) &&
    directive.field.all (·.name = phaseField)

/-- Whether the directive, which fits phases, fits one with this name. -/
def fitsName (name : String) (directive : Directive) : Bool :=
  directive.field.all fun field => field.value.all fun test => test.passes name

end Directive

/-- The directives of a filter. -/
structure Filter where
  directives : List Directive
deriving DecidableEq, Repr

namespace Filter

/-- The filter that shows events from a level on. -/
def fromLevel (level : Level) : Filter := ⟨[.fromLevel level]⟩

/-- The filter that a text describes; without directives it shows errors. -/
def ofText? (text : String) : Option Filter := do
  let directives ← ((pieces ',' text.toList).filter (!·.isEmpty)).mapM Directive.ofText?
  return if directives.isEmpty then fromLevel .error else ⟨directives⟩

/-- The filter for a setting: warnings where it is missing or no filter. -/
def ofSetting (setting : Option String) : Filter :=
  (setting.bind ofText?).getD (fromLevel .warn)

/-! ## Deciding by source -/

/-- The most specific one of some directives, of equal ones the last. -/
def mostSpecific? (directives : List Directive) : Option Directive :=
  directives.foldl (fun best directive =>
    match best with
    | none => some directive
    | some b => if directive.lessSpecific b then some b else some directive) none

/-- The last level of what a source logs that the filter lets through, as a rank. -/
def eventLimit (filter : Filter) (source : Source) : Nat :=
  limitRank ((mostSpecific? (filter.directives.filter fun directive =>
    directive.isPlain && directive.covers source &&
      directive.field.all (·.name = eventField))).bind (·.level))

/-- The same for phases, where fields do not matter. -/
def phaseLimit (filter : Filter) : Nat :=
  limitRank ((mostSpecific? (filter.directives.filter fun directive =>
    directive.isPlain && directive.covers .phases)).bind (·.level))

/-! ## Deciding by phase -/

/-- The directives without those that a later one with the same scope replaces. -/
def withoutReplaced : List Directive → List Directive
  | [] => []
  | directive :: more =>
    if more.any directive.sameScope then withoutReplaced more
    else directive :: withoutReplaced more

/-- The directives that decide about what happens in phases. -/
def phaseDirectives (filter : Filter) : List Directive :=
  withoutReplaced (filter.directives.filter Directive.fitsPhases)

/-- The last level that is let through within a phase because of its name, as a rank. -/
def limitWithin (filter : Filter) (name : String) : Nat :=
  ((filter.phaseDirectives.filter (Directive.fitsName name)).map
    fun directive => limitRank directive.level).foldl max 0

/-- The last level that any directive lets through, as a rank.  A test of a value lets everything
through, as values are not known beforehand. -/
def lastRank (filter : Filter) : Nat :=
  if filter.directives.any fun directive => directive.field.any (·.value.isSome) then
    Level.trace.rank
  else (filter.directives.map fun directive => limitRank directive.level).foldl max 0

/-- Whether the filter keeps track of phases. -/
def tracksPhases (filter : Filter) : Bool :=
  Level.info.rank ≤ filter.lastRank &&
    (!filter.phaseDirectives.isEmpty || Level.info.rank ≤ filter.phaseLimit)

/-! ## Showing -/

/-- Whether the filter shows an event: because of its source, or because of a phase around it. -/
def shows (filter : Filter) (event : Event) : Bool :=
  event.level.rank ≤ filter.eventLimit event.source ||
    filter.tracksPhases &&
      event.phases.any fun name => event.level.rank ≤ filter.limitWithin name

/-- The events that the filter shows, with the phases that it keeps track of. -/
def shown (filter : Filter) (events : List Event) : List Event :=
  (events.filter filter.shows).map fun event =>
    if filter.tracksPhases then event else { event with phases := [] }

end Filter

end ManifestSarif.Log

import SvgMarkup.Config.Settings

/-!
# Overlays

A configuration is usually given by the options in which it differs from another one.  Options are
named by any of their spellings; all names are looked up before any value is read.
-/

namespace SvgMarkup

/-- An option as a caller gives it: a spelling and a value. -/
abbrev Entry := String × Value

/-- The options that some entries mean, or the first entry that means none. -/
def Entry.changes (entries : List Entry) : Except ConfigError (List (Field × Value)) :=
  entries.mapM fun entry =>
    match Field.ofSpelling? entry.1 with
    | some field => .ok (field, entry.2)
    | none => .error (.unknownOption entry.1)

namespace Config

/-- The standard configuration with new values for some options. -/
def ofChanges (changes : List (Field × Value)) : Except ConfigError Config :=
  ofSettings (standard.settings.assign changes)

/-- A configuration with the options of some entries laid over it. -/
def overlay (base : Config) (entries : List Entry) : Except ConfigError Config := do
  ofSettings (base.settings.assign (← Entry.changes entries))

/-- The standard configuration with two groups of options laid over it, the second one last. -/
def resolve (overrides options : List Entry) : Except ConfigError Config :=
  standard.overlay (overrides ++ options)

end Config

end SvgMarkup

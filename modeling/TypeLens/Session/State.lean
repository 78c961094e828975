/-
# TypeLens.Session.State -- what a running analyzer holds

A session has an environment, a host and files, and four parts that come into being when they are
first needed: settings, a resolver, an engine and a scanner.

The resolver holds the architecture that was resolved last; it may have settings of its own. The
engine answers from a resolver: once it has looked it up, it stays with the session's resolver,
and when the session lets go of that, the engine goes on with what it has. The scanner remembers
scans.
-/
import TypeLens.Architecture
import TypeLens.ScanCache

namespace TypeLens

/-- Holds the architecture that was resolved last. -/
structure Resolver where
  /-- Settings to use in place of those of the session. -/
  own : Option Settings
  architecture : Architecture
deriving DecidableEq, Repr

/-- Where an engine has its architecture from. -/
inductive ResolverLink where
  /-- It has not been needed yet. -/
  | unset
  /-- The resolver of the session. -/
  | shared
  /-- A resolver that the session has let go of. -/
  | own (resolver : Resolver)
deriving DecidableEq, Repr

/-- What happens when answers given before are no longer good. -/
inductive Listener where
  /-- Someone is told. -/
  | notify
  /-- The scanner forgets its scans. -/
  | dropScans
  /-- A scanner that is no longer in use forgets its scans, which nobody sees. -/
  | dropOldScans
deriving DecidableEq, Repr

/-- Answers questions about layouts. -/
structure Engine where
  link : ResolverLink
  listeners : List Listener
deriving DecidableEq, Repr

/-- Finds the declarations of files. -/
structure Scanner where
  /-- Settings to use in place of those of the session. -/
  own : Option Settings
  queries : List Declaration.Query
  cache : ScanCache
deriving DecidableEq, Repr

/-- A running analyzer. -/
structure Session where
  host : Host
  env : Environment
  files : FileStore
  settings? : Option Settings
  resolver? : Option Resolver
  engine? : Option Engine
  scanner? : Option Scanner
  /-- The listeners that have been called, in order. -/
  calls : List Listener

namespace Session

/-- A session in which nothing has happened, with the directory in which it runs. -/
def start (host : Host) (env : Environment) (home : Place) : Session where
  host := host
  env := env
  files := .empty home
  settings? := none
  resolver? := none
  engine? := none
  scanner? := none
  calls := []

/-! ## Settings -/

/-- The settings in force: those of the session, or those that it would start with. -/
def settings (s : Session) : Settings := s.settings?.getD (.ofEnvironment s.env)

/-- The session with settings. -/
def needSettings (s : Session) : Session := { s with settings? := some s.settings }

/-- The session with settings, unless a part that needs them has its own. -/
def needSettingsUnless (s : Session) (own : Option Settings) : Session :=
  if own.isSome then s else s.needSettings

/-! ## The resolver -/

/-- The session with a resolver; a new one resolves the architecture at once. -/
def needResolver (s : Session) : Session :=
  if s.resolver?.isSome then s
  else
    let s := s.needSettings
    { s with resolver? := some ⟨none, Architecture.resolve s.host s.settings⟩ }

/-- The resolver of the session, or the one that it would start with. -/
def resolver (s : Session) : Resolver :=
  s.resolver?.getD ⟨none, Architecture.resolve s.host s.settings⟩

/-! ## The engine -/

/-- The engine of the session, or the one that it would start with. -/
def engine (s : Session) : Engine := s.engine?.getD ⟨.unset, []⟩

/-- The session with an engine. -/
def needEngine (s : Session) : Session := { s with engine? := some s.engine }

/-- The session with an engine that has looked up its resolver. -/
def needLink (s : Session) : Session :=
  match s.engine.link with
  | .unset =>
    let s := s.needResolver
    { s with engine? := some { s.engine with link := .shared } }
  | _ => s.needEngine

/-- The resolver that the engine answers from. -/
def engineResolver (s : Session) : Resolver :=
  match s.engine.link with
  | .own r => r
  | _ => s.resolver

/-- The architecture that the engine answers for, if it has looked up its resolver. -/
def engineArchitecture? (s : Session) : Option Architecture :=
  match s.engine?.map Engine.link with
  | some (.own r) => some r.architecture
  | some .shared => s.resolver?.map Resolver.architecture
  | _ => none

/-- The architecture that the engine answers for. -/
def architecture (s : Session) : Architecture := s.engineResolver.architecture

/-- Puts a resolver where the engine has its architecture from. -/
def setEngineResolver (s : Session) (r : Resolver) : Session :=
  match s.engine.link with
  | .own _ => { s with engine? := some { s.engine with link := .own r } }
  | _ => { s with resolver? := some r }

/-- Resolves the architecture of the engine again, with new settings of its own if there are any. -/
def refresh (s : Session) (given : Option Settings) : Session :=
  let s := s.needLink
  let own := given.or s.engineResolver.own
  let s := s.needSettingsUnless own
  s.setEngineResolver ⟨own, Architecture.resolve s.host (own.getD s.settings)⟩

/-- Lets go of the resolver. An engine that has it keeps it. -/
def dropResolver (s : Session) : Session :=
  let keep := fun (e : Engine) =>
    match e.link with
    | .shared => { e with link := .own s.resolver }
    | _ => e
  { s with resolver? := none, engine? := s.engine?.map keep }

/-! ## The scanner -/

/-- A scanner that has scanned nothing yet. -/
def freshScanner (own : Option Settings) (queries : List Declaration.Query) : Scanner :=
  ⟨own, queries, .empty⟩

/-- The scanner of the session, or the one that it would start with. -/
def scanner (s : Session) : Scanner := s.scanner?.getD (freshScanner none Declaration.Query.all)

/-- The session with a scanner. -/
def needScanner (s : Session) : Session := { s with scanner? := some s.scanner }

/-- The settings that the scanner goes by. -/
def scanSettings (s : Session) : Settings := s.scanner.own.getD s.settings

/-- The cache policy that the scanner goes by. -/
def scanPolicy (s : Session) : ScanCache.Policy :=
  ⟨s.scanSettings.cacheEnabled, s.scanSettings.cacheCapacity⟩

/-- Puts another scanner, or none, in place of the present one, which the listeners stay with. -/
def setScanner (s : Session) (scanner? : Option Scanner) : Session :=
  let outdate := fun (l : Listener) => if l = .dropScans then .dropOldScans else l
  let detach := fun (e : Engine) => { e with listeners := e.listeners.map outdate }
  { s with scanner? := scanner?, engine? := s.engine?.map detach }

/-- Makes the scanner forget its scans. -/
def clearScans (s : Session) : Session :=
  { s with scanner? := s.scanner?.map fun scanner => { scanner with cache := .empty } }

/-! ## Listeners -/

/-- Adds a listener to the engine. -/
def addListener (s : Session) (l : Listener) : Session :=
  { s with engine? := some { s.engine with listeners := s.engine.listeners ++ [l] } }

/-- Calls one listener. -/
def call (s : Session) (l : Listener) : Session :=
  let s := { s with calls := s.calls ++ [l] }
  match l with
  | .notify | .dropOldScans => s
  | .dropScans => s.clearScans

/-- Lets the engine react to changed settings: the architecture is resolved again if it depends on
one of them, and the listeners are called if answers do. -/
def announce (s : Session) (keys : List Settings.Key) : Session :=
  let s := s.needEngine
  let architectural := keys.any Settings.Key.architectural.contains
  let presentational := keys.any Settings.Key.presentational.contains
  let s := if architectural then s.refresh none else s
  if architectural || presentational then s.engine.listeners.foldl call s else s

end Session

end TypeLens

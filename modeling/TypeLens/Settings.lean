/-
# TypeLens.Settings -- what can be configured, and how it changes

Settings come from five environment variables; each has a default for when its variable is unset
or unreadable. They change one key at a time. A change of several keys is applied in order and
stops at the first key that is refused: the keys before it stay changed.
-/
import TypeLens.Text.Blank
import TypeLens.Text.Decimal
import TypeLens.Text.LowerCase
import TypeLens.Text.Quoted

namespace TypeLens

/-! ## Modes -/

/-- How the target architecture is chosen. -/
inductive Mode where
  /-- The word size of the host process. -/
  | auto
  /-- 32 bits, whatever the host. -/
  | x32
  /-- 64 bits, whatever the host. -/
  | x64
  /-- Read off the toolchain descriptor. -/
  | target
deriving DecidableEq, Repr

namespace Mode

/-- Every mode, in the order in which they are listed. -/
def all : List Mode := [auto, x32, x64, target]

/-- The word for a mode. -/
def name : Mode → Text
  | auto => "auto".toList
  | x32 => "x32".toList
  | x64 => "x64".toList
  | target => "target".toList

/-- The mode of a word. -/
def ofName? (word : Text) : Option Mode := all.find? fun m => m.name = word

@[simp] theorem ofName?_name (m : Mode) : ofName? m.name = some m := by cases m <;> decide

/-- A mode as users write it: blanks around it and letter case do not matter. -/
def read? (text : Text) : Option Mode := ofName? (lower (trim text))

end Mode

/-! ## The environment -/

/-- The environment variables that configure the analyzer. -/
inductive Variable where
  | architecture
  | intellisenseMode
  | showArchitecture
  | cacheEnabled
  | cacheMaxSize
deriving DecidableEq, Repr

namespace Variable

/-- Every variable. -/
def all : List Variable :=
  [architecture, intellisenseMode, showArchitecture, cacheEnabled, cacheMaxSize]

/-- The name of a variable in the process environment. -/
def name : Variable → Text
  | architecture => "LAYOUT_ARCHITECTURE".toList
  | intellisenseMode => "C_CPP_INTELLISENSE_MODE".toList
  | showArchitecture => "LAYOUT_SHOW_ARCHITECTURE".toList
  | cacheEnabled => "ANALYZER_CACHE_ENABLED".toList
  | cacheMaxSize => "ANALYZER_CACHE_MAX_SIZE".toList

/-- The variable of a name. -/
def ofName? (name : Text) : Option Variable := all.find? fun v => v.name = name

@[simp] theorem ofName?_name (v : Variable) : ofName? v.name = some v := by cases v <;> decide

end Variable

/-- The values of the variables; an unset one has none. -/
structure Environment where
  architecture : Option Text := none
  intellisenseMode : Option Text := none
  showArchitecture : Option Text := none
  cacheEnabled : Option Text := none
  cacheMaxSize : Option Text := none
deriving DecidableEq, Repr

namespace Environment

/-- The value of a variable. -/
def get? (env : Environment) : Variable → Option Text
  | .architecture => env.architecture
  | .intellisenseMode => env.intellisenseMode
  | .showArchitecture => env.showArchitecture
  | .cacheEnabled => env.cacheEnabled
  | .cacheMaxSize => env.cacheMaxSize

/-- The environment with a variable set, or unset when there is no value. -/
def set (env : Environment) (name : Variable) (value : Option Text) : Environment :=
  match name with
  | .architecture => { env with architecture := value }
  | .intellisenseMode => { env with intellisenseMode := value }
  | .showArchitecture => { env with showArchitecture := value }
  | .cacheEnabled => { env with cacheEnabled := value }
  | .cacheMaxSize => { env with cacheMaxSize := value }

@[simp] theorem get?_set (env : Environment) (v w : Variable) (value : Option Text) :
    (env.set v value).get? w = if w = v then value else env.get? w := by
  cases v <;> cases w <;> rfl

end Environment

/-! ## Settings -/

/-- The configuration of the analyzer. -/
structure Settings where
  mode : Mode
  /-- The toolchain descriptor, read in target mode only. -/
  descriptor : Option Text
  showArchitecture : Bool
  cacheEnabled : Bool
  /-- How many scanned files are kept. -/
  cacheCapacity : Int
deriving DecidableEq, Repr

namespace Settings

/-- The words that switch something on, in any letter case; every other word switches it off. -/
def affirmatives : List Text := ["true", "1", "yes", "on"].map String.toList

/-- A switch; an unset one is on. -/
def readSwitch : Option Text → Bool
  | none => true
  | some text => affirmatives.contains (lower text)

/-- A mode; an unset or unreadable one is `auto`. -/
def readMode : Option Text → Mode
  | none => .auto
  | some text => (Mode.read? text).getD .auto

/-- The capacity when none is set. -/
def defaultCapacity : Int := 1000

/-- A capacity; an unset or unreadable one is the default. -/
def readCapacity : Option Text → Int
  | none => defaultCapacity
  | some text => (integer? text).getD defaultCapacity

/-- The settings that the environment describes. -/
def ofEnvironment (env : Environment) : Settings where
  mode := readMode env.architecture
  descriptor := some (env.intellisenseMode.getD [])
  showArchitecture := readSwitch env.showArchitecture
  cacheEnabled := readSwitch env.cacheEnabled
  cacheCapacity := readCapacity env.cacheMaxSize

/-- Settings given directly; each one that is not given comes from the environment. -/
structure Given where
  mode : Option Text := none
  descriptor : Option (Option Text) := none
  showArchitecture : Option Bool := none
  cacheEnabled : Option Bool := none
  cacheCapacity : Option Int := none

/-- The given settings over those of the environment. -/
def create (env : Environment) (given : Given) : Settings :=
  let base := ofEnvironment env
  { mode := match given.mode with
      | some text => readMode (some text)
      | none => base.mode
    descriptor := given.descriptor.getD base.descriptor
    showArchitecture := given.showArchitecture.getD base.showArchitecture
    cacheEnabled := given.cacheEnabled.getD base.cacheEnabled
    cacheCapacity := given.cacheCapacity.getD base.cacheCapacity }

/-! ## Changes -/

/-- The name of a setting. -/
inductive Key where
  | mode
  | descriptor
  | showArchitecture
  | cacheEnabled
  | cacheCapacity
deriving DecidableEq, Repr

namespace Key

/-- Every key. -/
def all : List Key := [mode, descriptor, showArchitecture, cacheEnabled, cacheCapacity]

/-- The word for a key. -/
def name : Key → Text
  | mode => "architecture".toList
  | descriptor => "intellisense_mode".toList
  | showArchitecture => "show_architecture".toList
  | cacheEnabled => "cache_enabled".toList
  | cacheCapacity => "cache_max_size".toList

/-- The key of a word. -/
def ofName? (word : Text) : Option Key := all.find? fun k => k.name = word

@[simp] theorem ofName?_name (k : Key) : ofName? k.name = some k := by cases k <;> decide

/-- The keys on which the architecture depends. -/
def architectural : List Key := [mode, descriptor]

/-- The keys on which only the rendering of answers depends. -/
def presentational : List Key := [showArchitecture]

end Key

/-- A new value for one setting. A mode arrives as text; a key may be unknown. -/
inductive Change where
  | mode (text : Text)
  | descriptor (value : Option Text)
  | showArchitecture (value : Bool)
  | cacheEnabled (value : Bool)
  | cacheCapacity (value : Int)
  | unknown (key : Text)
deriving DecidableEq, Repr

/-- Why a change is refused. -/
inductive Refusal where
  /-- There is no such setting. -/
  | unknownKey (key : Text)
  /-- There is no such mode; the word is trimmed and in lower case. -/
  | invalidMode (word : Text)
deriving DecidableEq, Repr

/-- The wording of a refusal. -/
def Refusal.message : Refusal → Text
  | unknownKey key => "Unknown configuration key: ".toList ++ key
  | invalidMode word => quoted word ++ " is not a valid ArchitectureMode".toList

/-- The settings after one change, with the key if its value is now another one. -/
def apply (s : Settings) : Change → Except Refusal (Settings × Option Key)
  | .mode text =>
    match Mode.read? text with
    | none => .error (.invalidMode (lower (trim text)))
    | some m => .ok ({ s with mode := m }, if s.mode = m then none else some .mode)
  | .descriptor d =>
    .ok ({ s with descriptor := d }, if s.descriptor = d then none else some .descriptor)
  | .showArchitecture b =>
    .ok ({ s with showArchitecture := b },
      if s.showArchitecture = b then none else some .showArchitecture)
  | .cacheEnabled b =>
    .ok ({ s with cacheEnabled := b }, if s.cacheEnabled = b then none else some .cacheEnabled)
  | .cacheCapacity n =>
    .ok ({ s with cacheCapacity := n }, if s.cacheCapacity = n then none else some .cacheCapacity)
  | .unknown key => .error (.unknownKey key)

/-- The settings after a list of changes, and the keys whose values changed or the first refusal.
The changes before a refused one stay applied. -/
def update (s : Settings) : List Change → Settings × Except Refusal (List Key)
  | [] => (s, .ok [])
  | change :: rest =>
    match s.apply change with
    | .error refusal => (s, .error refusal)
    | .ok (s', key) =>
      let (s'', outcome) := update s' rest
      (s'', outcome.map (key.toList ++ ·))

/-- The words for a set of keys, sorted. -/
def keyNames (keys : List Key) : List Text := sortedUnique (keys.map Key.name)

end Settings

end TypeLens

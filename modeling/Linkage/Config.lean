import Linkage.Failure
import Linkage.Json.Raw
import Linkage.Json.Value
import Linkage.Resolution.Mediation
import Linkage.Resolution.Layout

/-!
Settings of a run, and reading them from JSON.

Every setting has a default. A configuration file is an object that names some of the settings, none
of them twice, or a list with the first of them in order. Names that are no settings are passed
over.
-/

set_option autoImplicit false

namespace Linkage

/-- The settings of a run. -/
structure CheckerConfig where
  /-- How many classes are remembered; none if it is zero. -/
  cacheCapacity : Nat
  /-- Whether only problems of reachable classes are reported. -/
  onlyReachable : Bool
  strategy : MediationStrategy
  /-- Enforced versions by the texts of keys, in the order of these texts. -/
  platform : List (String × String)
  /-- How the names of classes begin that come with the platform. -/
  systemPackages : List String
  /-- Where the classes of the platform are. -/
  bootstrap : List Path
  /-- The exception types whose handlers guard against missing classes. -/
  guardTypes : List String
  repositories : List Path
  exclusionFile : Option Path
  deriving Repr

/-- How the names of classes begin that come with every platform. -/
def defaultSystemPackages : List String := [
  "java.", "jdk.", "sun.", "com.sun.", "javax.accessibility.", "javax.annotation.processing.",
  "javax.crypto.", "javax.imageio.", "javax.lang.model.", "javax.management.", "javax.naming.",
  "javax.net.", "javax.print.", "javax.rmi.ssl.", "javax.script.", "javax.security.auth.",
  "javax.security.cert.", "javax.security.sasl.", "javax.smartcardio.", "javax.sound.",
  "javax.sql.", "javax.swing.", "javax.tools.", "javax.transaction.xa.", "javax.xml.catalog.",
  "javax.xml.crypto.", "javax.xml.datatype.", "javax.xml.namespace.", "javax.xml.parsers.",
  "javax.xml.stream.", "javax.xml.transform.", "javax.xml.validation.", "javax.xml.xpath.",
  "org.ietf.jgss.", "org.w3c.dom.", "org.xml.sax."]

namespace CheckerConfig

/-- The settings without a configuration file, for a home directory. -/
def default (home : Option Path) : CheckerConfig where
  cacheCapacity := 1000
  onlyReachable := false
  strategy := .maven
  platform := []
  systemPackages := defaultSystemPackages
  bootstrap := []
  guardTypes := ["java.lang.NoClassDefFoundError", "java.lang.LinkageError"]
  repositories := (LocalRepositories.ofHome home).roots
  exclusionFile := none

/-- Reads the name of a strategy, perhaps as the only member of an object without a value. -/
def strategy? : RawJson → Option MediationStrategy
  | .object [(name, .null)] => (RawJson.textOf? name).bind named?
  | value => value.text?.bind named?
where
  named? : String → Option MediationStrategy
    | "maven" => some .maven
    | "gradle" => some .gradle
    | _ => none

/-- Reads enforced versions. The last one for a text counts. -/
def platform? : RawJson → Option (List (String × String))
  | .object members =>
    members.foldlM (fun platform (name, value) => do
      pure (Ordered.put (← RawJson.textOf? name) (← value.text?) platform)) []
  | _ => none

/-- Reads paths. -/
def paths? (value : RawJson) : Option (List Path) := value.texts?.map (·.map Path.mk)

/-- Reads a path that may be missing. -/
def optionalPath? : RawJson → Option (Option Path)
  | .null => some none
  | value => value.text?.map fun text => some ⟨text⟩

/-- Takes a setting from a value. -/
abbrev Setter := CheckerConfig → RawJson → Option CheckerConfig

/-- The settings by name, in order. -/
def setters : List (String × Setter) := [
  ("class_cache_capacity", fun config value =>
    (value.natBelow? UInt64.size).map fun n => { config with cacheCapacity := n }),
  ("report_only_reachable", fun config value =>
    value.bool?.map fun b => { config with onlyReachable := b }),
  ("mediation", fun config value =>
    (strategy? value).map fun strategy => { config with strategy := strategy }),
  ("enforced_platform", fun config value =>
    (platform? value).map fun platform => { config with platform := platform }),
  ("system_packages", fun config value =>
    value.texts?.map fun texts => { config with systemPackages := texts }),
  ("bootstrap_classpath", fun config value =>
    (paths? value).map fun paths => { config with bootstrap := paths }),
  ("defensive_catch_types", fun config value =>
    value.texts?.map fun texts => { config with guardTypes := texts }),
  ("repositories", fun config value =>
    (paths? value).map fun paths => { config with repositories := paths }),
  ("exclusion_file", fun config value =>
    (optionalPath? value).map fun path => { config with exclusionFile := path })]

/-- The settings of an object, where `given` are the settings that came before. -/
def ofMembers? (given : List String) (config : CheckerConfig) :
    List (Bytes × RawJson) → Option CheckerConfig
  | [] => some config
  | (raw, value) :: rest => do
    let name ← RawJson.textOf? raw
    match setters.lookup name with
    | none => ofMembers? given config rest
    | some set =>
      if given.contains name then none else ofMembers? (name :: given) (← set config value) rest

/-- The settings of a list, which is not longer than the list of settings. -/
def ofItems? (config : CheckerConfig) : List Setter → List RawJson → Option CheckerConfig
  | _, [] => some config
  | [], _ :: _ => none
  | set :: setters, value :: rest => do ofItems? (← set config value) setters rest

/-- Changes the settings that a JSON text gives. -/
def ofJson? (config : CheckerConfig) (bytes : Bytes) : Option CheckerConfig := do
  match ← RawJson.parse? bytes with
  | .object members => ofMembers? [] config members
  | .array items => ofItems? config (setters.map (·.2)) items
  | _ => none

/-- The settings of a configuration file, where `config` are the defaults. -/
def load (config : CheckerConfig) (fs : FileSystem) (path : Path) : Except Failure CheckerConfig :=
  match fs.read path with
  | .error cause => .error (.unreadableConfig path cause)
  | .ok bytes =>
    match config.ofJson? bytes with
    | some config => .ok config
    | none => .error (.malformedConfig path)

/-- The enforced versions by keys. Of texts for one key the last one counts. -/
def platformKeys (config : CheckerConfig) : Except Failure Platform :=
  config.platform.foldlM (fun platform (text, version) =>
    match Key.parse text with
    | .ok key => .ok (Ordered.put key version platform)
    | .error cause =>
      .error (.during (.readingPlatformKey text) (.invalidCoordinate cause))) []

/-- All settings as JSON. -/
def toJson (config : CheckerConfig) : JsonValue :=
  let paths := fun (paths : List Path) => JsonValue.strings (paths.map (·.text))
  .object [
    ("class_cache_capacity", .number config.cacheCapacity),
    ("report_only_reachable", .bool config.onlyReachable),
    ("mediation", .string config.strategy.text),
    ("enforced_platform",
      .object (config.platform.map fun (key, version) => (key, .string version))),
    ("system_packages", JsonValue.strings config.systemPackages),
    ("bootstrap_classpath", paths config.bootstrap),
    ("defensive_catch_types", JsonValue.strings config.guardTypes),
    ("repositories", paths config.repositories),
    ("exclusion_file", (config.exclusionFile.map fun path => .string path.text).getD .null)]

end CheckerConfig

end Linkage

import Linkage.Check.Access
import Linkage.References

/-!
Checking the references of one class.

Each check follows a reference the way linking does, and gives the first problem that it meets.
Problems are reported for the outermost class around the class that refers. A missing class or
member is no problem where a handler for the error that it would cause is in place.
-/

set_option autoImplicit false

namespace Linkage

/-- What the checks of one run share. -/
structure CheckContext where
  fs : FileSystem
  /-- How many classes can be found at most. -/
  bound : Nat
  systemPackages : List String
  /-- The exception types whose handlers guard against missing classes. -/
  guardTypes : List String

/-- The error that a missing class causes. -/
def missingClassError : String := "java.lang.NoClassDefFoundError"

/-- The class with methods that take any arguments. -/
def methodHandleClass : String := "java.lang.invoke.MethodHandle"

/-- The name that constructors have. -/
def constructorName : String := "<init>"

/-- The class that refers, and its location. -/
structure SourceClass where
  location : ClassLocation
  info : ClassInfo

namespace SourceClass

/-- A problem of the outermost class around the source. -/
def problem (source : SourceClass) (kind : ProblemKind) (symbol : Symbol)
    (target : Option LoadedClass) : Problem :=
  .of kind symbol source.location.topLevel (target.map (·.location))

end SourceClass

namespace CheckContext

/-- The exception types whose handlers guard against missing members. -/
def memberGuardTypes (context : CheckContext) : List String :=
  context.guardTypes.filter (· != missingClassError)

/-- The class at a location, even if an earlier entry defines it too. -/
def loadSource (context : CheckContext) (location : ClassLocation) :
    Inquiry (Option ClassInfo) := do
  match ← Inquiry.find location.className with
  | .found loaded =>
    if loaded.location.same location then pure (some loaded.info)
    else readSource location
  | _ => readSource location
where
  /-- Reads the class from its own entry. -/
  readSource (location : ClassLocation) : Inquiry (Option ClassInfo) :=
    .ofExcept do
      match ← location.entry.readClass context.fs location.className with
      | some bytes => (location.entry.decode location.className bytes).map some
      | none => pure none

/-- Whether the source or the outermost class around it has a handler for one of some types. -/
def isGuarded (context : CheckContext) (source : SourceClass) (types : List String) :
    Inquiry Bool :=
  if types.isEmpty then pure false
  else if source.info.catchesAny types then pure true
  else if source.location.topLevel.same source.location then pure false
  else do
    match ← context.loadSource source.location.topLevel with
    | some info => pure (info.catchesAny types)
    | none => pure false

/-- The problem of a class that was not found. -/
def classNotFound (context : CheckContext) (source : SourceClass) (className : String) :
    Inquiry (Option Problem) := do
  if ← context.isGuarded source context.guardTypes then pure none
  else pure (some (source.problem .classNotFound (.class className) none))

/-- The problem of a member that was not found. -/
def symbolNotFound (context : CheckContext) (source : SourceClass) (symbol : Symbol)
    (target : LoadedClass) : Inquiry (Option Problem) := do
  if ← context.isGuarded source context.memberGuardTypes then pure none
  else pure (some (source.problem .symbolNotFound symbol (some target)))

/-- Checks that a class can be used. -/
def checkClassAccess (context : CheckContext) (source : SourceClass) (target : LoadedClass) :
    Inquiry (Option Problem) := do
  match ← classAccess context.bound source.info target.info with
  | .accessible => pure none
  | .inaccessible =>
    pure (some (source.problem .inaccessibleClass (.class target.info.name) (some target)))
  | .missingEnclosing outer => context.classNotFound source outer

/-- Whether a class cannot be the supertype that a symbol says it is. -/
def isIncompatible (symbol : Symbol) (target : ClassInfo) : Bool :=
  match symbol with
  | .superClass _ => target.access.isFinal || target.isInterface
  | .superInterface _ => !target.isInterface
  | _ => false

/-- Whether a symbol is a class that the source does not use. -/
def isUnused (source : SourceClass) (symbol : Symbol) : Bool :=
  match symbol with
  | .class className => !source.info.usesClass className
  | _ => false

/-- Checks a reference to a class. -/
def checkClass (context : CheckContext) (source : SourceClass) (symbol : Symbol) :
    Inquiry (Option Problem) := do
  match ← Inquiry.find symbol.className with
  | .system => pure none
  | .notFound =>
    if isUnused source symbol then pure none
    else context.classNotFound source symbol.className
  | .found target =>
    if isIncompatible symbol target.info then
      pure (some (source.problem .incompatibleClassChange symbol (some target)))
    else context.checkClassAccess source target

/-- The first of some classes that declares a method. -/
def declaringMethod? (classes : List LoadedClass) (method : MethodSymbol) :
    Option (LoadedClass × MethodInfo) :=
  classes.findSome? fun loaded =>
    (loaded.info.findMethod? method.name method.descriptor).map fun found => (loaded, found)

/-- The return type of the first method of a class with the name and parameters of another one. -/
def actualReturnType? (method : MethodSymbol) (parameters : String) (info : ClassInfo) :
    Option String :=
  (info.methods.find? fun candidate =>
    candidate.name == method.name &&
      Descriptor.parameterPart? candidate.descriptor == some parameters).bind fun candidate =>
    match Descriptor.parseMethod candidate.descriptor with
    | .ok descriptor => some descriptor.returnTypeName
    | .error _ => none

/-- The first of some classes with a method that differs in its return type. -/
def changedReturnType? (classes : List LoadedClass) (method : MethodSymbol) :
    Option (LoadedClass × String) :=
  (Descriptor.parameterPart? method.descriptor).bind fun parameters =>
    classes.findSome? fun loaded =>
      (actualReturnType? method parameters loaded.info).map fun actual => (loaded, actual)

/-- Checks a member that was found. -/
def checkMemberAccess (context : CheckContext) (source : SourceClass) (symbol : Symbol)
    (declaring : LoadedClass) (access : Access) : Inquiry (Option Problem) := do
  if ← memberAccessible context.bound source.info declaring.info access then pure none
  else pure (some (source.problem .inaccessibleMember symbol (some declaring)))

/-- Looks for a method in a hierarchy. Constructors are not inherited. -/
def checkMethodIn (context : CheckContext) (source : SourceClass) (method : MethodSymbol)
    (target : LoadedClass) (hierarchy : Hierarchy) : Inquiry (Option Problem) :=
  let candidates :=
    if method.name = constructorName then hierarchy.classes.take 1 else hierarchy.classes
  match declaringMethod? candidates method with
  | some (declaring, found) =>
    context.checkMemberAccess source (.method method) declaring found.access
  | none =>
    if hierarchy.isHidden then pure none
    else
      match changedReturnType? candidates method with
      | some (declaring, actual) =>
        pure (some (source.problem (.returnTypeChanged actual) (.method method) (some declaring)))
      | none => context.symbolNotFound source (.method method) target

/-- Whether a method takes any arguments, so that every reference to it links. -/
def isPolymorphic (method : MethodSymbol) : Bool :=
  method.owner == methodHandleClass && (method.name == "invoke" || method.name == "invokeExact")

/-- Checks a reference to a method of a class that was found. -/
def checkMethodOf (context : CheckContext) (source : SourceClass) (method : MethodSymbol)
    (target : LoadedClass) : Inquiry (Option Problem) := do
  match ← context.checkClassAccess source target with
  | some problem => pure (some problem)
  | none =>
    if method.ofInterface != target.info.isInterface then
      pure (some (source.problem .incompatibleClassChange (.method method) (some target)))
    else
      let hierarchy ← Hierarchy.of context.bound target true
      match hierarchy.missing with
      | some missing => context.classNotFound source missing
      | none => context.checkMethodIn source method target hierarchy

/-- Checks a reference to a method. Methods of arrays always link. -/
def checkMethod (context : CheckContext) (source : SourceClass) (method : MethodSymbol) :
    Inquiry (Option Problem) := do
  if Text.startsWith method.owner "[" || isPolymorphic method then pure none
  else
    match ← Inquiry.find method.owner with
    | .system => pure none
    | .notFound => context.classNotFound source method.owner
    | .found target => context.checkMethodOf source method target

/-- The first of some classes that declares a field with a name. -/
def declaringField? (classes : List LoadedClass) (name : String) :
    Option (LoadedClass × FieldInfo) :=
  classes.findSome? fun loaded =>
    (loaded.info.findField? name).map fun found => (loaded, found)

/-- Checks a reference to a field of a class that was found. -/
def checkFieldOf (context : CheckContext) (source : SourceClass) (field : FieldSymbol)
    (target : LoadedClass) : Inquiry (Option Problem) := do
  match ← context.checkClassAccess source target with
  | some problem => pure (some problem)
  | none =>
    let hierarchy ← Hierarchy.of context.bound target false
    match hierarchy.missing with
    | some missing => context.classNotFound source missing
    | none =>
      match declaringField? hierarchy.superclasses field.name with
      | some (declaring, found) =>
        context.checkMemberAccess source (.field field) declaring found.access
      | none =>
        if hierarchy.hiddenSuperclass then pure none
        else context.symbolNotFound source (.field field) target

/-- Checks a reference to a field. -/
def checkField (context : CheckContext) (source : SourceClass) (field : FieldSymbol) :
    Inquiry (Option Problem) := do
  match ← Inquiry.find field.owner with
  | .system => pure none
  | .notFound => context.classNotFound source field.owner
  | .found target => context.checkFieldOf source field target

/-- Checks a reference. -/
def checkSymbol (context : CheckContext) (source : SourceClass) (symbol : Symbol) :
    Inquiry (Option Problem) :=
  match symbol with
  | .method method => context.checkMethod source method
  | .field field => context.checkField source field
  | symbol => context.checkClass source symbol

/-- Whether a supertype can leave methods to be implemented: it is an interface or abstract, from
another entry, and does not come with the platform. -/
def leavesMethods (context : CheckContext) (source : SourceClass) (loaded : LoadedClass) : Bool :=
  (loaded.info.isInterface || loaded.info.isAbstract) &&
    !loaded.location.entry.same source.location.entry &&
    !isSystemClass context.systemPackages loaded.info.name

/-- Whether some class has a body for a method. -/
def isImplemented (classes : List LoadedClass) (method : MethodInfo) : Bool :=
  classes.any fun loaded =>
    (loaded.info.findMethod? method.name method.descriptor).any (!·.access.isAbstract)

/-- The problems of the methods that one supertype leaves to be implemented. -/
def unimplemented (source : SourceClass) (classes : List LoadedClass) (declaring : LoadedClass) :
    List Problem :=
  (declaring.info.methods.filter fun method =>
    method.needsImplementation && !isImplemented classes method).map fun method =>
      source.problem .abstractMethod
        (.method ⟨declaring.info.name, method.name, method.descriptor,
          declaring.info.isInterface⟩) (some declaring)

/-- Checks that a class that is neither abstract nor an interface implements all methods that it
has to. Nothing is said unless all supertypes are there and all superclasses are known. -/
def checkAbstractMethods (context : CheckContext) (source : SourceClass) :
    Inquiry (List Problem) := do
  if source.info.isInterface || source.info.isAbstract then pure []
  else
    let hierarchy ← Hierarchy.of context.bound ⟨source.info, source.location⟩ true
    let declaring := (hierarchy.classes.drop 1).filter (context.leavesMethods source)
    if hierarchy.missing.isSome || hierarchy.hiddenSuperclass then pure []
    else pure (declaring.flatMap (unimplemented source hierarchy.classes))

end CheckContext

end Linkage

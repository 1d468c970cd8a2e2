import Linkage.ClassFile.Info

/-!
Descriptions of the platform types that other classes most often extend or implement.

They stand in for the real classes when those cannot be read, so that a hierarchy that passes
through them can still show that a member is absent.
-/

set_option autoImplicit false

namespace Linkage.Platform

/-- The name of the class at the top of every hierarchy. -/
def objectName : String := "java.lang.Object"

/-- A described method: access, name and descriptor. -/
structure Method where
  access : Access
  name : String
  descriptor : String

/-- A described class. -/
structure Description where
  name : String
  access : Access
  superName : Option String
  interfaces : List String
  methods : List Method

def publicFinal : Access := .public ||| .final
def publicAbstract : Access := .public ||| .abstract
def publicFinalNative : Access := .public ||| .final ||| .native
def protectedFinal : Access := .protected ||| .final
def classAccess : Access := .public ||| .super
def abstractClassAccess : Access := classAccess ||| .abstract
def interfaceAccess : Access := .public ||| .interface ||| .abstract

def objectMethods : List Method := [
  ⟨.public, "<init>", "()V"⟩,
  ⟨.public, "equals", "(Ljava/lang/Object;)Z"⟩,
  ⟨.public, "hashCode", "()I"⟩,
  ⟨.public, "toString", "()Ljava/lang/String;"⟩,
  ⟨publicFinalNative, "getClass", "()Ljava/lang/Class;"⟩,
  ⟨.protected, "clone", "()Ljava/lang/Object;"⟩,
  ⟨.protected, "finalize", "()V"⟩,
  ⟨publicFinalNative, "notify", "()V"⟩,
  ⟨publicFinalNative, "notifyAll", "()V"⟩,
  ⟨publicFinal, "wait", "()V"⟩,
  ⟨publicFinalNative, "wait", "(J)V"⟩,
  ⟨publicFinal, "wait", "(JI)V"⟩]

def throwableConstructors : List Method := [
  ⟨.public, "<init>", "()V"⟩,
  ⟨.public, "<init>", "(Ljava/lang/String;)V"⟩,
  ⟨.public, "<init>", "(Ljava/lang/String;Ljava/lang/Throwable;)V"⟩,
  ⟨.public, "<init>", "(Ljava/lang/Throwable;)V"⟩]

/-- The constructor that can turn suppression off. -/
def suppressionConstructor : Method :=
  ⟨.protected, "<init>", "(Ljava/lang/String;Ljava/lang/Throwable;ZZ)V"⟩

def throwableMethods : List Method := [
  ⟨.public, "getMessage", "()Ljava/lang/String;"⟩,
  ⟨.public, "getLocalizedMessage", "()Ljava/lang/String;"⟩,
  ⟨.public, "getCause", "()Ljava/lang/Throwable;"⟩,
  ⟨.public, "initCause", "(Ljava/lang/Throwable;)Ljava/lang/Throwable;"⟩,
  ⟨.public, "toString", "()Ljava/lang/String;"⟩,
  ⟨.public, "printStackTrace", "()V"⟩,
  ⟨.public, "printStackTrace", "(Ljava/io/PrintStream;)V"⟩,
  ⟨.public, "printStackTrace", "(Ljava/io/PrintWriter;)V"⟩,
  ⟨.public, "fillInStackTrace", "()Ljava/lang/Throwable;"⟩,
  ⟨.public, "getStackTrace", "()[Ljava/lang/StackTraceElement;"⟩,
  ⟨.public, "setStackTrace", "([Ljava/lang/StackTraceElement;)V"⟩,
  ⟨publicFinal, "addSuppressed", "(Ljava/lang/Throwable;)V"⟩,
  ⟨publicFinal, "getSuppressed", "()[Ljava/lang/Throwable;"⟩]

def enumMethods : List Method := [
  ⟨.protected, "<init>", "(Ljava/lang/String;I)V"⟩,
  ⟨publicFinal, "name", "()Ljava/lang/String;"⟩,
  ⟨publicFinal, "ordinal", "()I"⟩,
  ⟨.public, "toString", "()Ljava/lang/String;"⟩,
  ⟨publicFinal, "equals", "(Ljava/lang/Object;)Z"⟩,
  ⟨publicFinal, "hashCode", "()I"⟩,
  ⟨protectedFinal, "clone", "()Ljava/lang/Object;"⟩,
  ⟨protectedFinal, "finalize", "()V"⟩,
  ⟨publicFinal, "compareTo", "(Ljava/lang/Enum;)I"⟩,
  ⟨.public ||| .bridge ||| .synthetic, "compareTo", "(Ljava/lang/Object;)I"⟩,
  ⟨publicFinal, "getDeclaringClass", "()Ljava/lang/Class;"⟩,
  ⟨publicFinal, "describeConstable", "()Ljava/util/Optional;"⟩,
  ⟨.public ||| .static, "valueOf", "(Ljava/lang/Class;Ljava/lang/String;)Ljava/lang/Enum;"⟩]

/-- An interface without a described supertype other than the given interfaces. -/
def interface (name : String) (interfaces : List String) (methods : List Method) : Description :=
  ⟨name, interfaceAccess, some objectName, interfaces, methods⟩

/-- An exception type that declares only the usual constructors. -/
def exception (name superName : String) : Description :=
  ⟨name, classAccess, some superName, [], throwableConstructors⟩

/-- An exception type that also lets subclasses turn suppression off. -/
def suppressible (name superName : String) : Description :=
  ⟨name, classAccess, some superName, [], throwableConstructors ++ [suppressionConstructor]⟩

def object : Description := ⟨objectName, classAccess, none, [], objectMethods⟩

/-- Every description; their names are distinct. -/
def descriptions : List Description := [
  object,
  interface "java.io.Serializable" [] [],
  interface "java.lang.Cloneable" [] [],
  interface "java.util.EventListener" [] [],
  interface "java.lang.Comparable" []
    [⟨publicAbstract, "compareTo", "(Ljava/lang/Object;)I"⟩],
  interface "java.lang.Runnable" [] [⟨publicAbstract, "run", "()V"⟩],
  interface "java.lang.AutoCloseable" [] [⟨publicAbstract, "close", "()V"⟩],
  interface "java.io.Closeable" ["java.lang.AutoCloseable"]
    [⟨publicAbstract, "close", "()V"⟩],
  interface "java.io.Flushable" [] [⟨publicAbstract, "flush", "()V"⟩],
  interface "java.lang.Iterable" [] [
    ⟨publicAbstract, "iterator", "()Ljava/util/Iterator;"⟩,
    ⟨.public, "forEach", "(Ljava/util/function/Consumer;)V"⟩,
    ⟨.public, "spliterator", "()Ljava/util/Spliterator;"⟩],
  interface "java.lang.annotation.Annotation" [] [
    ⟨publicAbstract, "equals", "(Ljava/lang/Object;)Z"⟩,
    ⟨publicAbstract, "hashCode", "()I"⟩,
    ⟨publicAbstract, "toString", "()Ljava/lang/String;"⟩,
    ⟨publicAbstract, "annotationType", "()Ljava/lang/Class;"⟩],
  ⟨"java.lang.Throwable", classAccess, some objectName, ["java.io.Serializable"],
    throwableConstructors ++ [suppressionConstructor] ++ throwableMethods⟩,
  suppressible "java.lang.Exception" "java.lang.Throwable",
  suppressible "java.lang.Error" "java.lang.Throwable",
  suppressible "java.lang.RuntimeException" "java.lang.Exception",
  exception "java.io.IOException" "java.lang.Exception",
  exception "java.lang.IllegalArgumentException" "java.lang.RuntimeException",
  exception "java.lang.IllegalStateException" "java.lang.RuntimeException",
  exception "java.lang.UnsupportedOperationException" "java.lang.RuntimeException",
  ⟨"java.lang.Enum", abstractClassAccess, some objectName,
    ["java.lang.Comparable", "java.io.Serializable"], enumMethods⟩,
  ⟨"java.lang.Record", abstractClassAccess, some objectName, [], [
    ⟨.protected, "<init>", "()V"⟩,
    ⟨publicAbstract, "equals", "(Ljava/lang/Object;)Z"⟩,
    ⟨publicAbstract, "hashCode", "()I"⟩,
    ⟨publicAbstract, "toString", "()Ljava/lang/String;"⟩]⟩]

/-- A described method as a class would declare it: only abstract ones have no body. -/
def Method.info (method : Method) : MethodInfo :=
  ⟨method.name, method.descriptor, method.access, !method.access.isAbstract, []⟩

/-- A description as the class that it stands for. -/
def Description.info (description : Description) : ClassInfo where
  name := description.name
  access := description.access
  superName := description.superName
  interfaces := description.interfaces
  fields := []
  methods := description.methods.map (·.info)
  innerClasses := []
  classConstants := []
  memberReferences := []
  usedConstants := []

/-- The names of the described classes. -/
def names : List String := descriptions.map (·.name)

/-- The described class with a name. -/
def find? (className : String) : Option ClassInfo :=
  (descriptions.find? (·.name == className)).map (·.info)

end Linkage.Platform

import SpellOut.Name

/-! The root package, whose types every source file sees by their simple names without an import. -/
namespace SpellOut

/-- The package that needs no import. -/
def rootPackage : Name := Name.ofText "java.lang"

/-- The simple names that the root package is known to hold. -/
def rootTypes : List String :=
  ["Object", "String", "Class", "ClassLoader", "Enum", "Record", "Void", "System",
   "Runtime", "Math", "StrictMath", "Thread", "ThreadGroup", "ThreadLocal",
   "InheritableThreadLocal", "Process", "ProcessBuilder", "ProcessHandle", "Package",
   "Module", "ModuleLayer", "SecurityManager", "StackTraceElement", "StackWalker",
   "ScopedValue", "StringTemplate", "Compiler",
   "Boolean", "Byte", "Character", "Short", "Integer", "Long", "Float", "Double",
   "Number", "StringBuilder", "StringBuffer", "CharSequence",
   "Appendable", "AutoCloseable", "Cloneable", "Comparable", "Iterable", "Readable",
   "Runnable",
   "Deprecated", "FunctionalInterface", "Override", "SafeVarargs", "SuppressWarnings",
   "Throwable", "Exception", "Error", "RuntimeException", "ArithmeticException",
   "ArrayIndexOutOfBoundsException", "ArrayStoreException", "ClassCastException",
   "ClassNotFoundException", "CloneNotSupportedException",
   "EnumConstantNotPresentException", "IllegalAccessException",
   "IllegalArgumentException", "IllegalCallerException", "IllegalMonitorStateException",
   "IllegalStateException", "IllegalThreadStateException", "IndexOutOfBoundsException",
   "InstantiationException", "InterruptedException", "LayerInstantiationException",
   "NegativeArraySizeException", "NoSuchFieldException", "NoSuchMethodException",
   "NullPointerException", "NumberFormatException", "ReflectiveOperationException",
   "SecurityException", "StringIndexOutOfBoundsException", "TypeNotPresentException",
   "UnsupportedOperationException", "WrongThreadException", "MatchException",
   "AbstractMethodError", "AssertionError", "BootstrapMethodError",
   "ClassCircularityError", "ClassFormatError", "ExceptionInInitializerError",
   "IllegalAccessError", "IncompatibleClassChangeError", "InstantiationError",
   "InternalError", "LinkageError", "NoClassDefFoundError", "NoSuchFieldError",
   "NoSuchMethodError", "OutOfMemoryError", "StackOverflowError", "ThreadDeath",
   "UnknownError", "UnsatisfiedLinkError", "UnsupportedClassVersionError", "VerifyError",
   "VirtualMachineError"]

/-- Whether a text is the simple name of a type of the root package. -/
def isRootType (text : String) : Bool := rootTypes.contains text

/-- Whether the root package itself, and no package below it, owns the name. -/
def Name.inRootPackage (n : Name) : Bool := n.owner? == some rootPackage

end SpellOut

import Postmortem.Text.Search

/-!
# Exception categories

What went wrong, judged by the name of the exception's type. The names are tried from the most
specific to the least: the first one that occurs decides.
-/

namespace Postmortem

/-- The kinds of exceptions that are told apart. -/
inductive ExceptionCategory where
  | fileNotFound
  | fileLoad
  | typeLoad
  | missingMethod
  | missingField
  | missingMember
  | invalidCast
  | nullReference
  | argument
  | objectDisposed
  | invalidOperation
  | platformNotSupported
  | notSupported
  | outOfMemory
  | stackOverflow
  | timeout
  | aggregate
  | typeInitialization
  | targetInvocation
  | unrecognized
deriving DecidableEq, Repr, Inhabited

namespace ExceptionCategory

/-- The categories in the order of their declaration. -/
def all : List ExceptionCategory :=
  [fileNotFound, fileLoad, typeLoad, missingMethod, missingField, missingMember, invalidCast,
   nullReference, argument, objectDisposed, invalidOperation, platformNotSupported, notSupported,
   outOfMemory, stackOverflow, timeout, aggregate, typeInitialization, targetInvocation,
   unrecognized]

/-- Parts of type names with the category that they mean, most specific first. -/
def table : List (String × ExceptionCategory) :=
  [("FileNotFoundException", fileNotFound),
   ("DllNotFoundException", fileNotFound),
   ("FileLoadException", fileLoad),
   ("BadImageFormatException", fileLoad),
   ("TypeLoadException", typeLoad),
   ("EntryPointNotFoundException", missingMethod),
   ("MissingMethodException", missingMethod),
   ("MissingFieldException", missingField),
   ("MissingMemberException", missingMember),
   ("InvalidCastException", invalidCast),
   ("NullReferenceException", nullReference),
   ("ArgumentNullException", argument),
   ("ArgumentOutOfRangeException", argument),
   ("ArgumentException", argument),
   ("ObjectDisposedException", objectDisposed),
   ("InvalidOperationException", invalidOperation),
   ("PlatformNotSupportedException", platformNotSupported),
   ("NotSupportedException", notSupported),
   ("InsufficientMemoryException", outOfMemory),
   ("OutOfMemoryException", outOfMemory),
   ("StackOverflowException", stackOverflow),
   ("TimeoutException", timeout),
   ("AggregateException", aggregate),
   ("TypeInitializationException", typeInitialization),
   ("TargetInvocationException", targetInvocation)]

/-- The category of an exception type. -/
def classify (typeName : String) : ExceptionCategory :=
  ((table.find? fun row => mentions typeName row.1).map Prod.snd).getD unrecognized

/-- The category of an exception whose type may be unknown. -/
def ofType? (typeName : Option String) : ExceptionCategory :=
  (typeName.map classify).getD unrecognized

/-- The fields of an exception object that are worth reporting for a category. -/
def extraFields : ExceptionCategory → List String
  | fileNotFound | fileLoad => ["_fileName", "_fusionLog"]
  | typeLoad => ["_className", "_assemblyName"]
  | missingMethod | missingField | missingMember => ["ClassName", "MemberName", "Signature"]
  | argument => ["_paramName"]
  | objectDisposed => ["_objectName"]
  | typeInitialization => ["_typeName"]
  | _ => []

/-- Whether a type, a member or an assembly could not be found at run time. -/
def isResolutionFailure : ExceptionCategory → Bool
  | fileNotFound | fileLoad | typeLoad | missingMethod | missingField | missingMember => true
  | _ => false

/-- What to do about a resolution failure where code is compiled ahead of time or trimmed. -/
def remediation : ExceptionCategory → Option String
  | fileNotFound | fileLoad => some <|
    "Assembly could not be loaded. Ensure it is referenced at build time and " ++
    "not loaded dynamically by path; mark it with <TrimmerRootAssembly> if it " ++
    "is only reached through reflection."
  | typeLoad => some <|
    "Type was removed or never compiled. Preserve it with " ++
    "[DynamicallyAccessedMembers] on the reflection call site or a " ++
    "<TrimmerRootDescriptor> entry."
  | missingMethod => some <|
    "Method was trimmed or has no compiled body. Annotate the reflection target " ++
    "with [DynamicDependency] or [DynamicallyAccessedMembers(PublicMethods)] and " ++
    "check for generic instantiations created only at run time."
  | missingField => some <|
    "Field was trimmed. Annotate the accessing type with " ++
    "[DynamicallyAccessedMembers(PublicFields | NonPublicFields)]."
  | missingMember => some <|
    "Member was trimmed. Use source-generated serializers or annotate the type " ++
    "with [DynamicallyAccessedMembers(All)]."
  | _ => none

/-- The words of a category's name. -/
def words : ExceptionCategory → List String
  | fileNotFound => ["file", "not", "found"]
  | fileLoad => ["file", "load"]
  | typeLoad => ["type", "load"]
  | missingMethod => ["missing", "method"]
  | missingField => ["missing", "field"]
  | missingMember => ["missing", "member"]
  | invalidCast => ["invalid", "cast"]
  | nullReference => ["null", "reference"]
  | argument => ["argument"]
  | objectDisposed => ["object", "disposed"]
  | invalidOperation => ["invalid", "operation"]
  | platformNotSupported => ["platform", "not", "supported"]
  | notSupported => ["not", "supported"]
  | outOfMemory => ["out", "of", "memory"]
  | stackOverflow => ["stack", "overflow"]
  | timeout => ["timeout"]
  | aggregate => ["aggregate"]
  | typeInitialization => ["type", "initialization"]
  | targetInvocation => ["target", "invocation"]
  | unrecognized => ["unrecognized"]

/-- The name of a category in records. -/
def name (c : ExceptionCategory) : String := "_".intercalate c.words

/-- The name of a category in texts. -/
def text (c : ExceptionCategory) : String := "-".intercalate c.words

instance : ToString ExceptionCategory := ⟨text⟩

end ExceptionCategory

end Postmortem

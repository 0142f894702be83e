import Literate.Path
import Literate.Text.Quoted

/-! # Failures outside the pipeline

What extension code, a filter or the file system may run into. A failure has a kind and a message;
the pipeline reports it as the cause of one of its own problems, or passes it on as it is. -/

namespace Literate

/-- Why the file system refuses a request. -/
inductive Obstacle where
  | noSuchFile
  | fileExists
  | notDirectory
  | isDirectory
  | nameTooLong
deriving DecidableEq, Repr

/-- The classes of failures. -/
inductive FailureKind where
  | unboundName
  | unboundLocal
  | zeroDivision
  | value
  | key
  | runtime
  | type
  | index
  | attribute
  | grammar
  | indentation
  | tabs
  | encoding
  | unencodable
  | recursion
  | overflow
  | memory
  | unsupported
  | unreadableSettings
  | invalidSettings
  | file (obstacle : Obstacle)
  /-- A class that only the surrounding program knows, by its name. -/
  | other (name : String)
deriving DecidableEq, Repr

/-- A failure outside the pipeline. -/
inductive Failure where
  /-- A name that nothing binds. -/
  | unboundName (name : Text)
  /-- A local name that is used before it is bound. -/
  | unboundLocal (name : Text)
  /-- A name of a function around the running one that is not bound yet. -/
  | unboundFree (name : Text)
  /-- A division by zero. -/
  | zeroDivision
  /-- A key that a table does not hold. -/
  | missingKey (shown : Text)
  /-- A value of the wrong type. -/
  | wrongType (message : String)
  /-- A position outside a sequence. -/
  | outOfRange (sequence : String)
  /-- A position that does not fit a machine word. -/
  | positionTooBig
  /-- A member that a value does not have. -/
  | noMember (typeName : String) (member : Text)
  /-- A member that a type does not have. -/
  | noTypeMember (typeName : String) (member : Text)
  /-- A sequence of the wrong length where two values are wanted. -/
  | unpack (length : Nat)
  /-- Code that does not follow the grammar. -/
  | grammar (message : String)
  /-- Code that is indented where it must not be, or not indented where it must be. -/
  | indentation (message : String)
  /-- Bytes that are no UTF-8 text. -/
  | encoding
  /-- Code points that no UTF-8 text holds. -/
  | unencodable
  /-- Calls nested beyond the bound, and on what occasion. -/
  | recursion (occasion : String)
  /-- A path that holds a null character. -/
  | nullInPath
  /-- A request that the file system refuses. -/
  | file (obstacle : Obstacle) (path : Path)
  /-- Something that extension code may ask for, but that is not covered here. -/
  | unsupported (what : String)
  /-- A failure that extension code or a filter announces itself. -/
  | raised (kind : FailureKind) (message : String)
deriving DecidableEq

namespace Obstacle

/-- The number and the wording the system has for an obstacle. -/
def message : Obstacle → String
  | noSuchFile => "[Errno 2] No such file or directory"
  | fileExists => "[Errno 17] File exists"
  | notDirectory => "[Errno 20] Not a directory"
  | isDirectory => "[Errno 21] Is a directory"
  | nameTooLong => "[Errno 36] File name too long"

end Obstacle

namespace Failure

open Text (str)

def kind : Failure → FailureKind
  | unboundName _ => .unboundName
  | unboundLocal _ => .unboundLocal
  | unboundFree _ => .unboundName
  | zeroDivision => .zeroDivision
  | missingKey _ => .key
  | wrongType _ => .type
  | outOfRange _ => .index
  | positionTooBig => .index
  | noMember _ _ => .attribute
  | noTypeMember _ _ => .attribute
  | unpack _ => .value
  | grammar _ => .grammar
  | indentation _ => .indentation
  | encoding => .encoding
  | unencodable => .unencodable
  | recursion _ => .recursion
  | nullInPath => .value
  | file obstacle _ => .file obstacle
  | unsupported _ => .unsupported
  | raised kind _ => kind

def message : Failure → String
  | unboundName name => s!"name '{str name}' is not defined"
  | unboundLocal name =>
    s!"cannot access local variable '{str name}' where it is not associated with a value"
  | unboundFree name =>
    s!"cannot access free variable '{str name}' where it is not associated with a value " ++
      "in enclosing scope"
  | zeroDivision => "division by zero"
  | missingKey shown => str shown
  | wrongType message => message
  | outOfRange what => s!"{what} index out of range"
  | positionTooBig => "cannot fit 'int' into an index-sized integer"
  | noMember typeName member => s!"'{typeName}' object has no attribute '{str member}'"
  | noTypeMember typeName member => s!"type object '{typeName}' has no attribute '{str member}'"
  | unpack length =>
    if length < 2 then s!"not enough values to unpack (expected 2, got {length})"
    else "too many values to unpack (expected 2)"
  | grammar message => message
  | indentation message => message
  | encoding => "'utf-8' codec can't decode the file"
  | unencodable => "'utf-8' codec can't encode the text: surrogates not allowed"
  | recursion occasion => "maximum recursion depth exceeded" ++ occasion
  | nullInPath => "embedded null byte"
  | file obstacle path => s!"{obstacle.message}: {str (Text.quoted path.text)}"
  | unsupported what => s!"not supported: {what}"
  | raised _ message => message

end Failure
end Literate

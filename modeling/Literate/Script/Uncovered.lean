import Literate.Text.Basic

/-! # Names that are not covered

Extension code may use names and members that have no meaning here. Looking one of them up ends in a
failure that says so. It must not end in the failure of a name that nothing binds, which extension code
gets for names that do not exist at all. -/

namespace Literate.Script

/-- Fixed names without a meaning here. -/
def uncoveredNames : List String :=
  ["ArithmeticError", "AssertionError", "AttributeError", "BaseException", "BaseExceptionGroup",
   "BlockingIOError", "BrokenPipeError", "BufferError", "BytesWarning", "ChildProcessError",
   "ConnectionAbortedError", "ConnectionError", "ConnectionRefusedError", "ConnectionResetError",
   "DeprecationWarning", "EOFError", "Ellipsis", "EncodingWarning", "EnvironmentError", "Exception",
   "ExceptionGroup", "FileExistsError", "FileNotFoundError", "FloatingPointError", "FutureWarning",
   "GeneratorExit", "IOError", "ImportError", "ImportWarning", "IndentationError", "IndexError",
   "InterruptedError", "IsADirectoryError", "KeyboardInterrupt", "LookupError", "MemoryError",
   "ModuleNotFoundError", "NameError", "NotADirectoryError", "NotImplemented", "NotImplementedError",
   "OSError", "OverflowError", "PendingDeprecationWarning", "PermissionError", "ProcessLookupError",
   "RecursionError", "ReferenceError", "ResourceWarning", "RuntimeWarning", "StopAsyncIteration",
   "StopIteration", "SyntaxError", "SyntaxWarning", "SystemError", "SystemExit", "TabError",
   "TimeoutError", "TypeError", "UnboundLocalError", "UnicodeDecodeError", "UnicodeEncodeError",
   "UnicodeError", "UnicodeTranslateError", "UnicodeWarning", "UserWarning", "Warning",
   "ZeroDivisionError", "__build_class__", "__import__", "__loader__", "__spec__", "abs", "aiter",
   "all", "anext", "any", "ascii", "bin", "bool", "breakpoint", "bytearray", "bytes", "callable",
   "chr", "classmethod", "compile", "complex", "copyright", "credits", "delattr", "dict", "dir",
   "divmod", "enumerate", "eval", "exec", "exit", "filter", "float", "format", "frozenset", "getattr",
   "globals", "hasattr", "hash", "help", "hex", "id", "input", "int", "isinstance", "issubclass",
   "iter", "license", "list", "locals", "map", "max", "memoryview", "min", "next", "object", "oct",
   "open", "ord", "pow", "print", "property", "quit", "range", "repr", "reversed", "round", "set",
   "setattr", "slice", "sorted", "staticmethod", "sum", "super", "tuple", "type", "vars", "zip"]

/-- Members without a meaning here, by the name of the type that has them. -/
def uncoveredMembers (typeName : String) : List String :=
  match typeName with
  | "str" =>
    ["capitalize", "casefold", "center", "count", "encode", "endswith", "expandtabs", "find", "format",
     "format_map", "index", "isalnum", "isalpha", "isascii", "isdecimal", "isdigit", "isidentifier",
     "islower", "isnumeric", "isprintable", "isspace", "istitle", "isupper", "join", "ljust", "lstrip",
     "maketrans", "partition", "removeprefix", "removesuffix", "replace", "rfind", "rindex", "rjust",
     "rpartition", "rsplit", "rstrip", "split", "splitlines", "startswith", "swapcase", "title",
     "translate", "zfill"]
  | "list" =>
    ["clear", "copy", "count", "extend", "index", "insert", "pop", "remove", "reverse", "sort"]
  | "tuple" => ["count", "index"]
  | "dict" =>
    ["clear", "copy", "fromkeys", "items", "keys", "pop", "popitem", "setdefault", "update", "values"]
  | "int" | "bool" =>
    ["as_integer_ratio", "bit_count", "bit_length", "conjugate", "denominator", "from_bytes", "imag",
     "numerator", "real", "to_bytes"]
  | "ExtensionContext" => ["evaluate", "execute", "namespace", "parse_hook"]
  | "FilterRegistry" => ["builtins_register"]
  | "Filter" | "LineFilter" => ["code", "filter"]
  | "ValueError" | "KeyError" | "RuntimeError" => ["add_note", "args", "with_traceback"]
  | _ => []

/-- Every type has members whose names are enclosed in double underscores. -/
def isHidden (name : Text) : Bool :=
  4 < name.length && name.take 2 = ['_', '_'] && name.drop (name.length - 2) = ['_', '_']

end Literate.Script

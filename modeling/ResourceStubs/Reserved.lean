/-! The names that a generated stub must not shadow: keywords, built-in names and the names of the
typing module of the language the stubs are written in. -/

namespace ResourceStubs.Reserved

/-- Keywords of the stub language. -/
def keywords : List String := [
  "False", "None", "True", "and", "as", "assert", "async", "await", "break", "class", "continue",
  "def", "del", "elif", "else", "except", "finally", "for", "from", "global", "if", "import",
  "in", "is", "lambda", "nonlocal", "not", "or", "pass", "raise", "return", "try", "while",
  "with", "yield"]

/-- Built-in names of the stub language. -/
def builtins : List String := [
  "ArithmeticError", "AssertionError", "AttributeError", "BaseException", "BlockingIOError",
  "BrokenPipeError", "BufferError", "BytesWarning", "ChildProcessError", "ConnectionAbortedError",
  "ConnectionError", "ConnectionRefusedError", "ConnectionResetError", "DeprecationWarning",
  "EOFError", "Ellipsis", "EnvironmentError", "Exception", "FileExistsError", "FileNotFoundError",
  "FloatingPointError", "FutureWarning", "GeneratorExit", "IOError", "ImportError",
  "ImportWarning", "IndentationError", "IndexError", "InterruptedError", "IsADirectoryError",
  "KeyError", "KeyboardInterrupt", "LookupError", "MemoryError", "ModuleNotFoundError",
  "NameError", "NotADirectoryError", "NotImplemented", "NotImplementedError", "OSError",
  "OverflowError", "PendingDeprecationWarning", "PermissionError", "ProcessLookupError",
  "RecursionError", "ReferenceError", "ResourceWarning", "RuntimeError", "RuntimeWarning",
  "StopAsyncIteration", "StopIteration", "SyntaxError", "SyntaxWarning", "SystemError",
  "SystemExit", "TabError", "TimeoutError", "TypeError", "UnboundLocalError",
  "UnicodeDecodeError", "UnicodeEncodeError", "UnicodeError", "UnicodeTranslateError",
  "UnicodeWarning", "UserWarning", "ValueError", "Warning", "ZeroDivisionError",
  "__build_class__", "__debug__", "__doc__", "__import__", "__loader__", "__name__",
  "__package__", "__spec__", "abs", "all", "any", "ascii", "bin", "bool", "breakpoint",
  "bytearray", "bytes", "callable", "chr", "classmethod", "compile", "complex", "copyright",
  "credits", "delattr", "dict", "dir", "divmod", "enumerate", "eval", "exec", "exit", "filter",
  "float", "format", "frozenset", "getattr", "globals", "hasattr", "hash", "help", "hex", "id",
  "input", "int", "isinstance", "issubclass", "iter", "len", "license", "list", "locals", "map",
  "max", "memoryview", "min", "next", "object", "oct", "open", "ord", "pow", "print", "property",
  "quit", "range", "repr", "reversed", "round", "set", "setattr", "slice", "sorted",
  "staticmethod", "str", "sum", "super", "tuple", "type", "vars", "zip"]

/-- Names that the typing module of the stub language exports. -/
def typingNames : List String := [
  "AbstractSet", "Any", "AnyStr", "AsyncContextManager", "AsyncGenerator", "AsyncIterable",
  "AsyncIterator", "Awaitable", "BinaryIO", "ByteString", "Callable", "ChainMap", "ClassVar",
  "Collection", "Container", "ContextManager", "Coroutine", "Counter", "DefaultDict", "Deque",
  "Dict", "Final", "ForwardRef", "FrozenSet", "Generator", "Generic", "Hashable", "IO",
  "ItemsView", "Iterable", "Iterator", "KeysView", "List", "Literal", "Mapping", "MappingView",
  "Match", "MutableMapping", "MutableSequence", "MutableSet", "NamedTuple", "NewType", "NoReturn",
  "Optional", "OrderedDict", "Pattern", "Protocol", "Reversible", "Sequence", "Set", "Sized",
  "SupportsAbs", "SupportsBytes", "SupportsComplex", "SupportsFloat", "SupportsIndex",
  "SupportsInt", "SupportsRound", "Text", "TextIO", "Tuple", "Type", "TypeVar", "TypedDict",
  "Union", "ValuesView", "TYPE_CHECKING", "__all__", "__builtins__", "__cached__", "__file__",
  "abc", "cast", "collections", "contextlib", "final", "functools", "get_args", "get_origin",
  "get_type_hints", "io", "no_type_check", "no_type_check_decorator", "operator", "overload",
  "re", "runtime_checkable", "sys", "types"]

end ResourceStubs.Reserved

namespace ResourceStubs

/-- A keyword, a built-in name or a typing name. -/
def isReserved (word : String) : Bool :=
  Reserved.keywords.contains word || Reserved.builtins.contains word
    || Reserved.typingNames.contains word

end ResourceStubs

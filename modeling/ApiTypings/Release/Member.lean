import ApiTypings.Release.Kind

/-!
# Members

What every kind brings with it: operations, some of them written as signs, and
members that are worked out or stored for each value. A member has a name, a
description of what it does and, if it is an operation, of what it takes. The
members of a kind are listed in the order of its table.
-/

namespace ApiTypings.Template

inductive MemberSort
  /-- An operation that is written as a sign or by other means than its name. -/
  | sign
  | operation
  /-- An operation that works on the kind. -/
  | kindOperation
  /-- A member that is worked out for each value. -/
  | computed
  /-- A member that is stored with each value. -/
  | stored
  /-- A text or nothing, the same for all values; it stands in place of the description. -/
  | constant
  /-- The operation that makes a value of the kind. -/
  | maker
  /-- An operation that works on nothing that it belongs to. -/
  | loose
deriving DecidableEq, Repr

structure Member where
  sort : MemberSort
  name : String
  /-- What the operation takes. -/
  signature : Option String
  description : Option String
deriving DecidableEq, Repr

/-- What the operations written as signs take, and what they say of themselves. -/
def signWords : List (String × String × String) := [
  ("__repr__", "($self, /)", "Return repr(self)."),
  ("__hash__", "($self, /)", "Return hash(self)."),
  ("__str__", "($self, /)", "Return str(self)."),
  ("__getattribute__", "($self, name, /)", "Return getattr(self, name)."),
  ("__lt__", "($self, value, /)", "Return self<value."),
  ("__le__", "($self, value, /)", "Return self<=value."),
  ("__eq__", "($self, value, /)", "Return self==value."),
  ("__ne__", "($self, value, /)", "Return self!=value."),
  ("__gt__", "($self, value, /)", "Return self>value."),
  ("__ge__", "($self, value, /)", "Return self>=value."),
  ("__iter__", "($self, /)", "Implement iter(self)."),
  ("__mod__", "($self, value, /)", "Return self%value."),
  ("__rmod__", "($self, value, /)", "Return value%self."),
  ("__len__", "($self, /)", "Return len(self)."),
  ("__getitem__", "($self, key, /)", "Return self[key]."),
  ("__add__", "($self, value, /)", "Return self+value."),
  ("__mul__", "($self, value, /)", "Return self*value."),
  ("__rmul__", "($self, value, /)", "Return value*self."),
  ("__contains__", "($self, key, /)", "Return key in self."),
  ("__setattr__", "($self, name, value, /)", "Implement setattr(self, name, value)."),
  ("__delattr__", "($self, name, /)", "Implement delattr(self, name)."),
  ("__init__", "($self, /, *args, **kwargs)",
    "Initialize self.  See help(type(self)) for accurate signature."),
  ("__call__", "($self, /, *args, **kwargs)", "Call self as a function."),
  ("__or__", "($self, value, /)", "Return self|value."),
  ("__ror__", "($self, value, /)", "Return value|self."),
  ("__bool__", "($self, /)", "True if self else False"),
  ("__radd__", "($self, value, /)", "Return value+self."),
  ("__sub__", "($self, value, /)", "Return self-value."),
  ("__rsub__", "($self, value, /)", "Return value-self."),
  ("__divmod__", "($self, value, /)", "Return divmod(self, value)."),
  ("__rdivmod__", "($self, value, /)", "Return divmod(value, self)."),
  ("__pow__", "($self, value, mod=None, /)", "Return pow(self, value, mod)."),
  ("__rpow__", "($self, value, mod=None, /)", "Return pow(value, self, mod)."),
  ("__neg__", "($self, /)", "-self"),
  ("__pos__", "($self, /)", "+self"),
  ("__abs__", "($self, /)", "abs(self)"),
  ("__invert__", "($self, /)", "~self"),
  ("__lshift__", "($self, value, /)", "Return self<<value."),
  ("__rlshift__", "($self, value, /)", "Return value<<self."),
  ("__rshift__", "($self, value, /)", "Return self>>value."),
  ("__rrshift__", "($self, value, /)", "Return value>>self."),
  ("__and__", "($self, value, /)", "Return self&value."),
  ("__rand__", "($self, value, /)", "Return value&self."),
  ("__xor__", "($self, value, /)", "Return self^value."),
  ("__rxor__", "($self, value, /)", "Return value^self."),
  ("__int__", "($self, /)", "int(self)"),
  ("__float__", "($self, /)", "float(self)"),
  ("__floordiv__", "($self, value, /)", "Return self//value."),
  ("__rfloordiv__", "($self, value, /)", "Return value//self."),
  ("__truediv__", "($self, value, /)", "Return self/value."),
  ("__rtruediv__", "($self, value, /)", "Return value/self."),
  ("__index__", "($self, /)",
    "Return self converted to an integer, if self is suitable for use as an index into a list."),
  ("__ior__", "($self, value, /)", "Return self|=value."),
  ("__setitem__", "($self, key, value, /)", "Set self[key] to value."),
  ("__delitem__", "($self, key, /)", "Delete self[key]."),
  ("__get__", "($self, instance, owner=None, /)",
    "Return an attribute of instance, which is of type owner."),
  ("__set__", "($self, instance, value, /)", "Set an attribute of instance to value."),
  ("__delete__", "($self, instance, /)", "Delete an attribute of instance.")]

namespace Member

/-- An operation that is written as a sign. -/
def sign (name : String) : Member :=
  match signWords.find? (·.1 = name) with
  | some (_, signature, description) => ⟨.sign, name, some signature, some description⟩
  | none => ⟨.sign, name, none, none⟩

def operation (name : String) (signature description : Option String) : Member :=
  ⟨.operation, name, signature, description⟩

/-- An operation that works on the kind. -/
def kindOperation (name : String) (signature description : Option String) : Member :=
  ⟨.kindOperation, name, signature, description⟩

/-- An operation that works on nothing that it belongs to. -/
def loose (name : String) (signature description : Option String) : Member :=
  ⟨.loose, name, signature, description⟩

/-- A member that is worked out for each value. -/
def computed (name : String) (description : Option String) : Member :=
  ⟨.computed, name, none, description⟩

/-- A member that is stored with each value. -/
def stored (name : String) (description : Option String) : Member :=
  ⟨.stored, name, none, description⟩

/-- A text or nothing, the same for all values. -/
def constant (name : String) (value : Option String) : Member := ⟨.constant, name, none, value⟩

/-- The operation that makes a value of the kind. -/
def maker : Member :=
  ⟨.maker, "__new__", some "($type, *args, **kwargs)",
    some "Create and return a new object.  See help(type) for accurate signature."⟩

/-- Whether a member has a value of its own for each value of the kind. -/
def isOwn (m : Member) : Bool := m.sort = .computed || m.sort = .stored

end Member

def textMembers : List Member := [
  .maker, .sign "__repr__", .sign "__hash__", .sign "__str__", .sign "__getattribute__",
  .sign "__lt__", .sign "__le__", .sign "__eq__", .sign "__ne__", .sign "__gt__", .sign "__ge__",
  .sign "__iter__", .sign "__mod__", .sign "__rmod__", .sign "__len__", .sign "__getitem__",
  .sign "__add__", .sign "__mul__", .sign "__rmul__", .sign "__contains__",
  .operation "encode" (some "($self, /, encoding='utf-8', errors='strict')")
    (some ("Encode the string using the codec registered for encoding.\n" ++
      "\n  encoding\n    The encoding in which to encode the string.\n" ++
      "  errors\n    The error handling scheme to use for encoding errors.\n" ++
      "    The default is 'strict' meaning that encoding errors raise a\n" ++
      "    UnicodeEncodeError.  Other possible values are 'ignore', 'replace' and\n" ++
      "    'xmlcharrefreplace' as well as any other name registered with\n" ++
      "    codecs.register_error that can handle UnicodeEncodeErrors.")),
  .operation "replace" (some "($self, old, new, count=-1, /)")
    (some ("Return a copy with all occurrences of substring old replaced by new.\n" ++
      "\n  count\n    Maximum number of occurrences to replace.\n" ++
      "    -1 (the default value) means replace all occurrences.\n" ++
      "\nIf the optional argument count is given, only the first count occurrences are\n" ++
      "replaced.")),
  .operation "split" (some "($self, /, sep=None, maxsplit=-1)")
    (some ("Return a list of the substrings in the string, using sep as the separator " ++
      "string.\n\n  sep\n    The separator used to split the string.\n" ++
      "\n    When set to None (the default value), will split on any whitespace\n" ++
      "    character (including \\n \\r \\t \\f and spaces) and will discard\n" ++
      "    empty strings from the result.\n  maxsplit\n" ++
      "    Maximum number of splits.\n    -1 (the default value) means no limit.\n" ++
      "\nSplitting starts at the front of the string and works to the end.\n" ++
      "\nNote, str.split() is mainly useful for data that has been intentionally\n" ++
      "delimited.  With natural text that includes punctuation, consider using\n" ++
      "the regular expression module.")),
  .operation "rsplit" (some "($self, /, sep=None, maxsplit=-1)")
    (some ("Return a list of the substrings in the string, using sep as the separator " ++
      "string.\n\n  sep\n    The separator used to split the string.\n" ++
      "\n    When set to None (the default value), will split on any whitespace\n" ++
      "    character (including \\n \\r \\t \\f and spaces) and will discard\n" ++
      "    empty strings from the result.\n  maxsplit\n" ++
      "    Maximum number of splits.\n    -1 (the default value) means no limit.\n" ++
      "\nSplitting starts at the end of the string and works to the front.")),
  .operation "join" (some "($self, iterable, /)")
    (some ("Concatenate any number of strings.\n\nThe string whose method is called is " ++
      "inserted in between each given string.\nThe result is returned as a new string.\n" ++
      "\nExample: '.'.join(['ab', 'pq', 'rs']) -> 'ab.pq.rs'")),
  .operation "capitalize" (some "($self, /)")
    (some ("Return a capitalized version of the string.\n" ++
      "\nMore specifically, make the first character have upper case and the rest lower\n" ++
      "case.")),
  .operation "casefold" (some "($self, /)")
    (some "Return a version of the string suitable for caseless comparisons."),
  .operation "title" (some "($self, /)")
    (some ("Return a version of the string where each word is titlecased.\n" ++
      "\nMore specifically, words start with uppercased characters and all remaining\n" ++
      "cased characters have lower case.")),
  .operation "center" (some "($self, width, fillchar=' ', /)")
    (some ("Return a centered string of length width.\n" ++
      "\nPadding is done using the specified fill character (default is a space).")),
  .operation "count" none
    (some ("S.count(sub[, start[, end]]) -> int\n\nReturn the number of non-overlapping " ++
      "occurrences of substring sub in\nstring S[start:end].  Optional arguments start and " ++
      "end are\ninterpreted as in slice notation.")),
  .operation "expandtabs" (some "($self, /, tabsize=8)")
    (some ("Return a copy where all tab characters are expanded using spaces.\n" ++
      "\nIf tabsize is not given, a tab size of 8 characters is assumed.")),
  .operation "find" none
    (some ("S.find(sub[, start[, end]]) -> int\n\nReturn the lowest index in S where " ++
      "substring sub is found,\nsuch that sub is contained within S[start:end].  Optional\n" ++
      "arguments start and end are interpreted as in slice notation.\n" ++
      "\nReturn -1 on failure.")),
  .operation "partition" (some "($self, sep, /)")
    (some ("Partition the string into three parts using the given separator.\n" ++
      "\nThis will search for the separator in the string.  If the separator is found,\n" ++
      "returns a 3-tuple containing the part before the separator, the separator\n" ++
      "itself, and the part after it.\n\nIf the separator is not found, returns a 3-tuple " ++
      "containing the original string\nand two empty strings.")),
  .operation "index" none
    (some ("S.index(sub[, start[, end]]) -> int\n\nReturn the lowest index in S where " ++
      "substring sub is found,\nsuch that sub is contained within S[start:end].  Optional\n" ++
      "arguments start and end are interpreted as in slice notation.\n" ++
      "\nRaises ValueError when the substring is not found.")),
  .operation "ljust" (some "($self, width, fillchar=' ', /)")
    (some ("Return a left-justified string of length width.\n" ++
      "\nPadding is done using the specified fill character (default is a space).")),
  .operation "lower" (some "($self, /)")
    (some "Return a copy of the string converted to lowercase."),
  .operation "lstrip" (some "($self, chars=None, /)")
    (some ("Return a copy of the string with leading whitespace removed.\n" ++
      "\nIf chars is given and not None, remove characters in chars instead.")),
  .operation "rfind" none
    (some ("S.rfind(sub[, start[, end]]) -> int\n\nReturn the highest index in S where " ++
      "substring sub is found,\nsuch that sub is contained within S[start:end].  Optional\n" ++
      "arguments start and end are interpreted as in slice notation.\n" ++
      "\nReturn -1 on failure.")),
  .operation "rindex" none
    (some ("S.rindex(sub[, start[, end]]) -> int\n\nReturn the highest index in S where " ++
      "substring sub is found,\nsuch that sub is contained within S[start:end].  Optional\n" ++
      "arguments start and end are interpreted as in slice notation.\n" ++
      "\nRaises ValueError when the substring is not found.")),
  .operation "rjust" (some "($self, width, fillchar=' ', /)")
    (some ("Return a right-justified string of length width.\n" ++
      "\nPadding is done using the specified fill character (default is a space).")),
  .operation "rstrip" (some "($self, chars=None, /)")
    (some ("Return a copy of the string with trailing whitespace removed.\n" ++
      "\nIf chars is given and not None, remove characters in chars instead.")),
  .operation "rpartition" (some "($self, sep, /)")
    (some ("Partition the string into three parts using the given separator.\n" ++
      "\nThis will search for the separator in the string, starting at the end. If\n" ++
      "the separator is found, returns a 3-tuple containing the part before the\n" ++
      "separator, the separator itself, and the part after it.\n" ++
      "\nIf the separator is not found, returns a 3-tuple containing two empty strings\n" ++
      "and the original string.")),
  .operation "splitlines" (some "($self, /, keepends=False)")
    (some ("Return a list of the lines in the string, breaking at line boundaries.\n" ++
      "\nLine breaks are not included in the resulting list unless keepends is given and\n" ++
      "true.")),
  .operation "strip" (some "($self, chars=None, /)")
    (some ("Return a copy of the string with leading and trailing whitespace removed.\n" ++
      "\nIf chars is given and not None, remove characters in chars instead.")),
  .operation "swapcase" (some "($self, /)")
    (some "Convert uppercase characters to lowercase and lowercase characters to uppercase."),
  .operation "translate" (some "($self, table, /)")
    (some ("Replace each character in the string using the given translation table.\n" ++
      "\n  table\n    Translation table, which must be a mapping of Unicode ordinals to\n" ++
      "    Unicode ordinals, strings, or None.\n" ++
      "\nThe table must implement lookup/indexing via __getitem__, for instance a\n" ++
      "dictionary or list.  If this operation raises LookupError, the character is\n" ++
      "left untouched.  Characters mapped to None are deleted.")),
  .operation "upper" (some "($self, /)")
    (some "Return a copy of the string converted to uppercase."),
  .operation "startswith" none
    (some ("S.startswith(prefix[, start[, end]]) -> bool\n" ++
      "\nReturn True if S starts with the specified prefix, False otherwise.\n" ++
      "With optional start, test S beginning at that position.\n" ++
      "With optional end, stop comparing S at that position.\n" ++
      "prefix can also be a tuple of strings to try.")),
  .operation "endswith" none
    (some ("S.endswith(suffix[, start[, end]]) -> bool\n" ++
      "\nReturn True if S ends with the specified suffix, False otherwise.\n" ++
      "With optional start, test S beginning at that position.\n" ++
      "With optional end, stop comparing S at that position.\n" ++
      "suffix can also be a tuple of strings to try.")),
  .operation "removeprefix" (some "($self, prefix, /)")
    (some ("Return a str with the given prefix string removed if present.\n" ++
      "\nIf the string starts with the prefix string, return string[len(prefix):].\n" ++
      "Otherwise, return a copy of the original string.")),
  .operation "removesuffix" (some "($self, suffix, /)")
    (some ("Return a str with the given suffix string removed if present.\n" ++
      "\nIf the string ends with the suffix string and that suffix is not empty,\n" ++
      "return string[:-len(suffix)]. Otherwise, return a copy of the original\n" ++
      "string.")),
  .operation "isascii" (some "($self, /)")
    (some ("Return True if all characters in the string are ASCII, False otherwise.\n" ++
      "\nASCII characters have code points in the range U+0000-U+007F.\n" ++
      "Empty string is ASCII too.")),
  .operation "islower" (some "($self, /)")
    (some ("Return True if the string is a lowercase string, False otherwise.\n" ++
      "\nA string is lowercase if all cased characters in the string are lowercase and\n" ++
      "there is at least one cased character in the string.")),
  .operation "isupper" (some "($self, /)")
    (some ("Return True if the string is an uppercase string, False otherwise.\n" ++
      "\nA string is uppercase if all cased characters in the string are uppercase and\n" ++
      "there is at least one cased character in the string.")),
  .operation "istitle" (some "($self, /)")
    (some ("Return True if the string is a title-cased string, False otherwise.\n" ++
      "\nIn a title-cased string, upper- and title-case characters may only\n" ++
      "follow uncased characters and lowercase characters only cased ones.")),
  .operation "isspace" (some "($self, /)")
    (some ("Return True if the string is a whitespace string, False otherwise.\n" ++
      "\nA string is whitespace if all characters in the string are whitespace and there\n" ++
      "is at least one character in the string.")),
  .operation "isdecimal" (some "($self, /)")
    (some ("Return True if the string is a decimal string, False otherwise.\n" ++
      "\nA string is a decimal string if all characters in the string are decimal and\n" ++
      "there is at least one character in the string.")),
  .operation "isdigit" (some "($self, /)")
    (some ("Return True if the string is a digit string, False otherwise.\n" ++
      "\nA string is a digit string if all characters in the string are digits and there\n" ++
      "is at least one character in the string.")),
  .operation "isnumeric" (some "($self, /)")
    (some ("Return True if the string is a numeric string, False otherwise.\n" ++
      "\nA string is numeric if all characters in the string are numeric and there is at\n" ++
      "least one character in the string.")),
  .operation "isalpha" (some "($self, /)")
    (some ("Return True if the string is an alphabetic string, False otherwise.\n" ++
      "\nA string is alphabetic if all characters in the string are alphabetic and there\n" ++
      "is at least one character in the string.")),
  .operation "isalnum" (some "($self, /)")
    (some ("Return True if the string is an alpha-numeric string, False otherwise.\n" ++
      "\nA string is alpha-numeric if all characters in the string are alpha-numeric and\n" ++
      "there is at least one character in the string.")),
  .operation "isidentifier" (some "($self, /)")
    (some ("Return True if the string is a valid Python identifier, False otherwise.\n" ++
      "\nCall keyword.iskeyword(s) to test whether string s is a reserved identifier,\n" ++
      "such as \"def\" or \"class\".")),
  .operation "isprintable" (some "($self, /)")
    (some ("Return True if the string is printable, False otherwise.\n" ++
      "\nA string is printable if all of its characters are considered printable in\n" ++
      "repr() or if it is empty.")),
  .operation "zfill" (some "($self, width, /)")
    (some ("Pad a numeric string with zeros on the left, to fill a field of the given width.\n" ++
      "\nThe string is never truncated.")),
  .operation "format" none
    (some ("S.format(*args, **kwargs) -> str\n\nReturn a formatted version of S, using " ++
      "substitutions from args and kwargs.\nThe substitutions are identified by braces " ++
      "('\x7b' and '\x7d').")),
  .operation "format_map" none
    (some ("S.format_map(mapping) -> str\n\nReturn a formatted version of S, using " ++
      "substitutions from mapping.\nThe substitutions are identified by braces ('\x7b' and " ++
      "'\x7d').")),
  .operation "__format__" (some "($self, format_spec, /)")
    (some "Return a formatted version of the string as described by format_spec."),
  .loose "maketrans" (some "(x, y=<unrepresentable>, z=<unrepresentable>, /)")
    (some ("Return a translation table usable for str.translate().\n" ++
      "\nIf there is only one argument, it must be a dictionary mapping Unicode\n" ++
      "ordinals (integers) or characters to Unicode ordinals, strings or None.\n" ++
      "Character keys will be then converted to ordinals.\n" ++
      "If there are two arguments, they must be strings of equal length, and\n" ++
      "in the resulting dictionary, each character in x will be mapped to the\n" ++
      "character at the same position in y. If there is a third argument, it\n" ++
      "must be a string, whose characters will be mapped to None in the result.")),
  .operation "__sizeof__" (some "($self, /)")
    (some "Return the size of the string in memory, in bytes."),
  .operation "__getnewargs__" none none,
  .constant "__doc__"
    (some ("str(object='') -> str\nstr(bytes_or_buffer[, encoding[, errors]]) -> str\n" ++
      "\nCreate a new string object from the given object. If encoding or\n" ++
      "errors is specified, then the object must expose a data buffer\n" ++
      "that will be decoded using the given encoding and error handler.\n" ++
      "Otherwise, returns the result of object.__str__() (if defined)\n" ++
      "or repr(object).\nencoding defaults to sys.getdefaultencoding().\n" ++
      "errors defaults to 'strict'."))]

def anyMembers : List Member := [
  .maker, .sign "__repr__", .sign "__hash__", .sign "__str__", .sign "__getattribute__",
  .sign "__setattr__", .sign "__delattr__", .sign "__lt__", .sign "__le__", .sign "__eq__",
  .sign "__ne__", .sign "__gt__", .sign "__ge__", .sign "__init__",
  .operation "__reduce_ex__" (some "($self, protocol, /)") (some "Helper for pickle."),
  .operation "__reduce__" (some "($self, /)") (some "Helper for pickle."),
  .operation "__getstate__" (some "($self, /)") (some "Helper for pickle."),
  .kindOperation "__subclasshook__" none
    (some ("Abstract classes can override this to customize issubclass().\n" ++
      "\nThis is invoked early on by abc.ABCMeta.__subclasscheck__().\n" ++
      "It should return True, False or NotImplemented.  If it returns\n" ++
      "NotImplemented, the normal algorithm is used.  Otherwise, it\n" ++
      "overrides the normal algorithm (and the outcome is cached).\n")),
  .kindOperation "__init_subclass__" none
    (some ("This method is called when a class is subclassed.\n" ++
      "\nThe default implementation does nothing. It may be\n" ++
      "overridden to extend subclasses.\n")),
  .operation "__format__" (some "($self, format_spec, /)") (some "Default object formatter."),
  .operation "__sizeof__" (some "($self, /)") (some "Size of object in memory, in bytes."),
  .operation "__dir__" (some "($self, /)") (some "Default dir() implementation."),
  .computed "__class__" (some "the object's class"),
  .constant "__doc__"
    (some ("The base class of the class hierarchy.\n\n" ++
      "When called, it accepts no arguments and returns a new featureless\n" ++
      "instance that has no instance attributes and cannot be given any.\n"))]

def kindMembers : List Member := [
  .maker, .sign "__repr__", .sign "__call__", .sign "__getattribute__", .sign "__setattr__",
  .sign "__delattr__", .sign "__init__", .sign "__or__", .sign "__ror__",
  .operation "mro" (some "($self, /)") (some "Return a type's method resolution order."),
  .operation "__subclasses__" (some "($self, /)")
    (some "Return a list of immediate subclasses."),
  .kindOperation "__prepare__" none
    (some "__prepare__() -> dict\nused to create the namespace for the class statement"),
  .operation "__instancecheck__" (some "($self, instance, /)")
    (some "Check if an object is an instance."),
  .operation "__subclasscheck__" (some "($self, subclass, /)")
    (some "Check if a class is a subclass."),
  .operation "__dir__" (some "($self, /)")
    (some "Specialized __dir__ implementation for types."),
  .operation "__sizeof__" (some "($self, /)")
    (some "Return memory consumption of the type object."),
  .stored "__basicsize__" none, .stored "__itemsize__" none, .stored "__flags__" none,
  .stored "__weakrefoffset__" none, .stored "__base__" none, .stored "__dictoffset__" none,
  .stored "__mro__" none, .computed "__name__" none, .computed "__qualname__" none,
  .computed "__bases__" none, .computed "__module__" none, .computed "__abstractmethods__" none,
  .computed "__dict__" none, .computed "__doc__" none, .computed "__text_signature__" none,
  .computed "__annotations__" none]

def nothingMembers : List Member := [
  .maker, .sign "__repr__", .sign "__bool__", .constant "__doc__" none]

def numberMembers : List Member := [
  .maker, .sign "__repr__", .sign "__hash__", .sign "__getattribute__", .sign "__lt__",
  .sign "__le__", .sign "__eq__", .sign "__ne__", .sign "__gt__", .sign "__ge__", .sign "__add__",
  .sign "__radd__", .sign "__sub__", .sign "__rsub__", .sign "__mul__", .sign "__rmul__",
  .sign "__mod__", .sign "__rmod__", .sign "__divmod__", .sign "__rdivmod__", .sign "__pow__",
  .sign "__rpow__", .sign "__neg__", .sign "__pos__", .sign "__abs__", .sign "__bool__",
  .sign "__invert__", .sign "__lshift__", .sign "__rlshift__", .sign "__rshift__",
  .sign "__rrshift__", .sign "__and__", .sign "__rand__", .sign "__xor__", .sign "__rxor__",
  .sign "__or__", .sign "__ror__", .sign "__int__", .sign "__float__", .sign "__floordiv__",
  .sign "__rfloordiv__", .sign "__truediv__", .sign "__rtruediv__", .sign "__index__",
  .operation "conjugate" none (some "Returns self, the complex conjugate of any int."),
  .operation "bit_length" (some "($self, /)")
    (some ("Number of bits necessary to represent self in binary.\n" ++
      "\n>>> bin(37)\n'0b100101'\n>>> (37).bit_length()\n" ++
      "6")),
  .operation "bit_count" (some "($self, /)")
    (some ("Number of ones in the binary representation of the absolute value of self.\n" ++
      "\nAlso known as the population count.\n\n" ++
      ">>> bin(13)\n'0b1101'\n>>> (13).bit_count()\n" ++
      "3")),
  .operation "to_bytes" (some "($self, /, length=1, byteorder='big', *, signed=False)")
    (some ("Return an array of bytes representing an integer.\n" ++
      "\n  length\n    Length of bytes object to use.  An OverflowError is raised if the\n" ++
      "    integer is not representable with the given number of bytes.  Default\n" ++
      "    is length 1.\n  byteorder\n    The byte order used to represent the integer.  If " ++
      "byteorder is 'big',\n    the most significant byte is at the beginning of the byte " ++
      "array.  If\n    byteorder is 'little', the most significant byte is at the end of " ++
      "the\n    byte array.  To request the native byte order of the host system, use\n" ++
      "    `sys.byteorder' as the byte order value.  Default is to use 'big'.\n" ++
      "  signed\n    Determines whether two's complement is used to represent the integer.\n" ++
      "    If signed is False and a negative integer is given, an OverflowError\n" ++
      "    is raised.")),
  .kindOperation "from_bytes" (some "($type, /, bytes, byteorder='big', *, signed=False)")
    (some ("Return the integer represented by the given array of bytes.\n" ++
      "\n  bytes\n    Holds the array of bytes to convert.  The argument must either\n" ++
      "    support the buffer protocol or be an iterable object producing bytes.\n" ++
      "    Bytes and bytearray are examples of built-in objects that support the\n" ++
      "    buffer protocol.\n  byteorder\n    The byte order used to represent the integer. " ++
      " If byteorder is 'big',\n    the most significant byte is at the beginning of the " ++
      "byte array.  If\n    byteorder is 'little', the most significant byte is at the end " ++
      "of the\n    byte array.  To request the native byte order of the host system, use\n" ++
      "    `sys.byteorder' as the byte order value.  Default is to use 'big'.\n" ++
      "  signed\n    Indicates whether two's complement is used to represent the integer.")),
  .operation "as_integer_ratio" (some "($self, /)")
    (some ("Return integer ratio.\n\nReturn a pair of integers, whose ratio is exactly equal " ++
      "to the original int\nand with a positive denominator.\n" ++
      "\n>>> (10).as_integer_ratio()\n(10, 1)\n>>> (-10).as_integer_ratio()\n" ++
      "(-10, 1)\n>>> (0).as_integer_ratio()\n(0, 1)")),
  .operation "__trunc__" none (some "Truncating an Integral returns itself."),
  .operation "__floor__" none (some "Flooring an Integral returns itself."),
  .operation "__ceil__" none (some "Ceiling of an Integral returns itself."),
  .operation "__round__" (some "($self, ndigits=<unrepresentable>, /)")
    (some ("Rounding an Integral returns itself.\n\nRounding with an ndigits argument also " ++
      "returns an integer.")),
  .operation "__getnewargs__" (some "($self, /)") none,
  .operation "__format__" (some "($self, format_spec, /)") none,
  .operation "__sizeof__" (some "($self, /)") (some "Returns size in memory, in bytes."),
  .computed "real" (some "the real part of a complex number"),
  .computed "imag" (some "the imaginary part of a complex number"),
  .computed "numerator" (some "the numerator of a rational number in lowest terms"),
  .computed "denominator" (some "the denominator of a rational number in lowest terms"),
  .constant "__doc__"
    (some ("int([x]) -> integer\nint(x, base=10) -> integer\n" ++
      "\nConvert a number or string to an integer, or return 0 if no arguments\n" ++
      "are given.  If x is a number, return x.__int__().  For floating point\n" ++
      "numbers, this truncates towards zero.\n\n" ++
      "If x is not a number or if base is given, then x must be a string,\n" ++
      "bytes, or bytearray instance representing an integer literal in the\n" ++
      "given base.  The literal can be preceded by '+' or '-' and be surrounded\n" ++
      "by whitespace.  The base defaults to 10.  Valid bases are 0 and 2-36.\n" ++
      "Base 0 means to interpret the base from the string as an integer literal.\n" ++
      ">>> int('0b100', base=0)\n4"))]

def truthMembers : List Member := [
  .maker, .sign "__repr__", .sign "__and__", .sign "__rand__", .sign "__xor__", .sign "__rxor__",
  .sign "__or__", .sign "__ror__",
  .constant "__doc__"
    (some ("bool(x) -> bool\n\nReturns True when the argument x is true, False otherwise.\n" ++
      "The builtins True and False are the only two instances of the class bool.\n" ++
      "The class bool is a subclass of the class int, and cannot be subclassed."))]

def tupleMembers : List Member := [
  .maker, .sign "__repr__", .sign "__hash__", .sign "__getattribute__", .sign "__lt__",
  .sign "__le__", .sign "__eq__", .sign "__ne__", .sign "__gt__", .sign "__ge__",
  .sign "__iter__", .sign "__len__", .sign "__getitem__", .sign "__add__", .sign "__mul__",
  .sign "__rmul__", .sign "__contains__", .operation "__getnewargs__" (some "($self, /)") none,
  .operation "index" (some "($self, value, start=0, stop=sys.maxsize, /)")
    (some "Return first index of value.\n\nRaises ValueError if the value is not present."),
  .operation "count" (some "($self, value, /)")
    (some "Return number of occurrences of value."),
  .kindOperation "__class_getitem__" none (some "See PEP 585"),
  .constant "__doc__"
    (some ("Built-in immutable sequence.\n\nIf no argument is given, the constructor returns " ++
      "an empty tuple.\nIf iterable is specified the tuple is initialized from iterable's " ++
      "items.\n\nIf the argument is a tuple, the return value is the same object."))]

def dictionaryMembers : List Member := [
  .maker, .sign "__repr__", .constant "__hash__" none, .sign "__getattribute__", .sign "__lt__",
  .sign "__le__", .sign "__eq__", .sign "__ne__", .sign "__gt__", .sign "__ge__",
  .sign "__iter__", .sign "__init__", .sign "__or__", .sign "__ror__", .sign "__ior__",
  .sign "__len__", .operation "__getitem__" none (some "x.__getitem__(y) <==> x[y]"),
  .sign "__setitem__", .sign "__delitem__",
  .operation "__contains__" (some "($self, key, /)")
    (some "True if the dictionary has the specified key, else False."),
  .operation "__sizeof__" none (some "D.__sizeof__() -> size of D in memory, in bytes"),
  .operation "get" (some "($self, key, default=None, /)")
    (some "Return the value for key if key is in the dictionary, else default."),
  .operation "setdefault" (some "($self, key, default=None, /)")
    (some ("Insert key with a value of default if key is not in the dictionary.\n" ++
      "\nReturn the value for key if key is in the dictionary, else default.")),
  .operation "pop" (some "($self, key, default=<unrepresentable>, /)")
    (some ("D.pop(k[,d]) -> v, remove specified key and return the corresponding value.\n" ++
      "\nIf the key is not found, return the default if given; otherwise,\n" ++
      "raise a KeyError.")),
  .operation "popitem" (some "($self, /)")
    (some ("Remove and return a (key, value) pair as a 2-tuple.\n" ++
      "\nPairs are returned in LIFO (last-in, first-out) order.\n" ++
      "Raises KeyError if the dict is empty.")),
  .operation "keys" none (some "D.keys() -> a set-like object providing a view on D's keys"),
  .operation "items" none
    (some "D.items() -> a set-like object providing a view on D's items"),
  .operation "values" none (some "D.values() -> an object providing a view on D's values"),
  .operation "update" none
    (some ("D.update([E, ]**F) -> None.  Update D from dict/iterable E and F.\n" ++
      "If E is present and has a .keys() method, then does:  for k in E: D[k] = E[k]\n" ++
      "If E is present and lacks a .keys() method, then does:  for k, v in E: D[k] = v\n" ++
      "In either case, this is followed by: for k in F:  D[k] = F[k]")),
  .kindOperation "fromkeys" (some "($type, iterable, value=None, /)")
    (some "Create a new dictionary with keys from iterable and values set to value."),
  .operation "clear" none (some "D.clear() -> None.  Remove all items from D."),
  .operation "copy" none (some "D.copy() -> a shallow copy of D"),
  .operation "__reversed__" (some "($self, /)")
    (some "Return a reverse iterator over the dict keys."),
  .kindOperation "__class_getitem__" none (some "See PEP 585"),
  .constant "__doc__"
    (some ("dict() -> new empty dictionary\ndict(mapping) -> new dictionary initialized from " ++
      "a mapping object's\n    (key, value) pairs\n" ++
      "dict(iterable) -> new dictionary initialized as if via:\n" ++
      "    d = \x7b\x7d\n    for k, v in iterable:\n" ++
      "        d[k] = v\ndict(**kwargs) -> new dictionary initialized with the name=value " ++
      "pairs\n    in the keyword argument list.  For example:  dict(one=1, two=2)"))]

def viewMembers : List Member := [
  .maker, .sign "__repr__", .sign "__str__", .sign "__getattribute__", .sign "__lt__",
  .sign "__le__", .sign "__eq__", .sign "__ne__", .sign "__gt__", .sign "__ge__",
  .sign "__iter__", .sign "__or__", .sign "__ror__", .sign "__ior__", .sign "__len__",
  .sign "__getitem__", .sign "__contains__",
  .operation "get" none (some "D.get(k[,d]) -> D[k] if k in D, else d.  d defaults to None."),
  .operation "keys" none (some "D.keys() -> a set-like object providing a view on D's keys"),
  .operation "values" none (some "D.values() -> an object providing a view on D's values"),
  .operation "items" none
    (some "D.items() -> a set-like object providing a view on D's items"),
  .operation "copy" none (some "D.copy() -> a shallow copy of D"),
  .kindOperation "__class_getitem__" none (some "See PEP 585"),
  .operation "__reversed__" none (some "D.__reversed__() -> reverse iterator"),
  .constant "__doc__" none, .constant "__hash__" none]

def methodMembers : List Member := [
  .sign "__repr__", .sign "__hash__", .sign "__call__", .sign "__getattribute__", .sign "__lt__",
  .sign "__le__", .sign "__eq__", .sign "__ne__", .sign "__gt__", .sign "__ge__",
  .operation "__reduce__" none none, .stored "__module__" none, .computed "__doc__" none,
  .computed "__name__" none, .computed "__qualname__" none, .computed "__self__" none,
  .computed "__text_signature__" none]

def signMethodMembers : List Member := [
  .sign "__repr__", .sign "__hash__", .sign "__call__", .sign "__getattribute__", .sign "__lt__",
  .sign "__le__", .sign "__eq__", .sign "__ne__", .sign "__gt__", .sign "__ge__",
  .operation "__reduce__" none none, .stored "__self__" none, .computed "__objclass__" none,
  .computed "__name__" none, .computed "__qualname__" none, .computed "__doc__" none,
  .computed "__text_signature__" none]

def operationMembers : List Member := [
  .sign "__repr__", .sign "__call__", .sign "__getattribute__", .sign "__get__",
  .operation "__reduce__" none none, .stored "__objclass__" none, .stored "__name__" none,
  .computed "__doc__" none, .computed "__qualname__" none, .computed "__text_signature__" none]

def signOperationMembers : List Member := [
  .sign "__repr__", .sign "__call__", .sign "__getattribute__", .sign "__get__",
  .operation "__reduce__" none none, .stored "__objclass__" none, .stored "__name__" none,
  .computed "__doc__" none, .computed "__qualname__" none, .computed "__text_signature__" none]

def computedMembers : List Member := [
  .sign "__repr__", .sign "__getattribute__", .sign "__get__", .sign "__set__",
  .sign "__delete__", .stored "__objclass__" none, .stored "__name__" none,
  .computed "__doc__" none, .computed "__qualname__" none]

def storedMembers : List Member := [
  .sign "__repr__", .sign "__getattribute__", .sign "__get__", .sign "__set__",
  .sign "__delete__", .operation "__reduce__" none none, .stored "__objclass__" none,
  .stored "__name__" none, .computed "__doc__" none, .computed "__qualname__" none]

def kindOperationMembers : List Member := [
  .sign "__repr__", .sign "__call__", .sign "__getattribute__", .sign "__get__",
  .stored "__objclass__" none, .stored "__name__" none, .computed "__doc__" none,
  .computed "__qualname__" none, .computed "__text_signature__" none]

def looseMembers : List Member := [
  .maker, .sign "__repr__", .sign "__call__", .sign "__get__", .sign "__init__",
  .stored "__func__" none, .stored "__wrapped__" none, .computed "__isabstractmethod__" none,
  .computed "__dict__" none,
  .constant "__doc__"
    (some ("staticmethod(function) -> method\n\nConvert a function to be a static method.\n" ++
      "\nA static method does not receive an implicit first argument.\n" ++
      "To declare a static method, use this idiom:\n" ++
      "\n     class C:\n         @staticmethod\n" ++
      "         def f(arg1, arg2, argN):\n             ...\n" ++
      "\nIt can be called either on the class (e.g. C.f()) or on an instance\n" ++
      "(e.g. C().f()). Both the class and the instance are ignored, and\n" ++
      "neither is passed implicitly as the first argument to the method.\n" ++
      "\nStatic methods in Python are similar to those found in Java or C++.\n" ++
      "For a more advanced concept, see the classmethod builtin."))]

def filledMembers : List Member := [
  .maker, .sign "__repr__", .sign "__hash__", .sign "__call__", .sign "__getattribute__",
  .sign "__lt__", .sign "__le__", .sign "__eq__", .sign "__ne__", .sign "__gt__", .sign "__ge__",
  .sign "__iter__", .sign "__or__", .sign "__ror__", .sign "__getitem__",
  .operation "__mro_entries__" none none, .operation "__instancecheck__" none none,
  .operation "__subclasscheck__" none none, .operation "__reduce__" none none,
  .operation "__dir__" none none, .stored "__origin__" none, .stored "__args__" none,
  .stored "__unpacked__" none,
  .computed "__parameters__" (some "Type variables in the GenericAlias."),
  .computed "__typing_unpacked_tuple_args__" none,
  .constant "__doc__"
    (some ("Represent a PEP 585 generic type\n\nE.g. for t = list[int], t.__origin__ is list " ++
      "and t.__args__ is (int,)."))]

def Kind.members : Kind → List Member
  | .text => textMembers
  | .any => anyMembers
  | .kind => kindMembers
  | .nothing => nothingMembers
  | .number => numberMembers
  | .truth => truthMembers
  | .tuple => tupleMembers
  | .dictionary => dictionaryMembers
  | .view => viewMembers
  | .method => methodMembers
  | .signMethod => signMethodMembers
  | .operation => operationMembers
  | .signOperation => signOperationMembers
  | .computed => computedMembers
  | .stored => storedMembers
  | .kindOperation => kindOperationMembers
  | .loose => looseMembers
  | .filled => filledMembers

/-- The member of a name that a kind has, and the kind that brought it: the kind itself, or one that
it extends. -/
def Kind.find? (k : Kind) (name : String) : Option (Kind × Member) :=
  k.line.findSome? fun owner => (owner.members.find? (·.name = name)).map (owner, ·)

end ApiTypings.Template

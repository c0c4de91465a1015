import Stylesheet.Value

namespace Stylesheet.Value

def words (s : String) : List String := s.splitOn " "

def everyName : List String := words (
  "__class__ __delattr__ __dir__ __doc__ __eq__ __format__ __ge__ __getattribute__ " ++
  "__getstate__ __gt__ __hash__ __init__ __init_subclass__ __le__ __lt__ __ne__ __new__ " ++
  "__reduce__ __reduce_ex__ __repr__ __setattr__ __sizeof__ __str__ __subclasshook__")

def numberNames : List String := words (
  "__abs__ __add__ __bool__ __ceil__ __divmod__ __float__ __floor__ __floordiv__ " ++
  "__getnewargs__ __int__ __mod__ __mul__ __neg__ __pos__ __pow__ __radd__ __rdivmod__ " ++
  "__rfloordiv__ __rmod__ __rmul__ __round__ __rpow__ __rsub__ __rtruediv__ __sub__ " ++
  "__truediv__ __trunc__ as_integer_ratio conjugate imag real")

def integerNames : List String := words (
  "__and__ __index__ __invert__ __lshift__ __or__ __rand__ __rlshift__ __ror__ " ++
  "__rrshift__ __rshift__ __rxor__ __xor__ bit_count bit_length denominator from_bytes " ++
  "numerator to_bytes")

def floatNames : List String := words (
  "__getformat__ fromhex hex is_integer")

def stringNames : List String := words (
  "__add__ __contains__ __getitem__ __getnewargs__ __iter__ __len__ __mod__ __mul__ " ++
  "__rmod__ __rmul__ capitalize center count endswith expandtabs find index isalnum " ++
  "isalpha isascii isdigit islower isspace istitle isupper join ljust lower lstrip " ++
  "maketrans partition removeprefix removesuffix replace rfind rindex rjust rpartition " ++
  "rsplit rstrip split splitlines startswith strip swapcase title translate upper zfill")

def textNames : List String := words (
  "casefold encode format format_map isdecimal isidentifier isnumeric isprintable")

def bytesNames : List String := words (
  "__bytes__ decode fromhex hex")

def listNames : List String := words (
  "__add__ __class_getitem__ __contains__ __delitem__ __getitem__ __iadd__ __imul__ " ++
  "__iter__ __len__ __mul__ __reversed__ __rmul__ __setitem__ append clear copy count " ++
  "extend index insert pop remove reverse sort")

def tupleNames : List String := words (
  "__add__ __class_getitem__ __contains__ __getitem__ __getnewargs__ __iter__ __len__ " ++
  "__mul__ __rmul__ count index")

def dictNames : List String := words (
  "__class_getitem__ __contains__ __delitem__ __getitem__ __ior__ __iter__ __len__ " ++
  "__or__ __reversed__ __ror__ __setitem__ clear copy fromkeys get items keys pop " ++
  "popitem setdefault update values")

def pathNames : List String := words (
  "__bytes__ __enter__ __exit__ __fspath__ __module__ __rtruediv__ __slots__ " ++
  "__truediv__ absolute anchor as_posix as_uri chmod cwd drive exists expanduser glob " ++
  "group hardlink_to home is_absolute is_block_device is_char_device is_dir is_fifo " ++
  "is_file is_mount is_relative_to is_reserved is_socket is_symlink iterdir joinpath " ++
  "lchmod link_to lstat match mkdir name open owner parent parents parts read_bytes " ++
  "read_text readlink relative_to rename replace resolve rglob rmdir root samefile stat " ++
  "stem suffix suffixes symlink_to touch unlink with_name with_stem with_suffix " ++
  "write_bytes write_text")

def streamNames : List String := words (
  "__del__ __dict__ __enter__ __exit__ __iter__ __next__ __setstate__ _checkClosed " ++
  "_checkReadable _checkSeekable _checkWritable close closed detach fileno flush " ++
  "getvalue isatty read readable readline readlines seek seekable tell truncate " ++
  "writable write writelines")

def textStreamNames : List String := words (
  "encoding errors line_buffering newlines")

def byteStreamNames : List String := words (
  "getbuffer read1 readinto readinto1")

def ownNames : Value → List String
  | .atom .none => ["__bool__"]
  | .atom (.bool _) => numberNames ++ integerNames
  | .atom (.int _) => numberNames ++ integerNames
  | .atom (.float _) => numberNames ++ floatNames
  | .atom (.text _) => stringNames ++ textNames
  | .atom (.bytes _) => stringNames ++ bytesNames
  | .atom (.path _) => pathNames
  | .nan _ => numberNames ++ floatNames
  | .list _ => listNames
  | .tuple _ => tupleNames
  | .dict _ => dictNames
  | .textStream _ => streamNames ++ textStreamNames
  | .byteStream _ => streamNames ++ byteStreamNames
  | .reader _ _ => ["__dict__", "__module__", "__weakref__", "read"]
  | .body _ _ => ["__call__", "__dict__", "__module__", "__name__"]
  | _ => []

def knows (v : Value) (name : String) : Bool :=
  everyName.contains name || v.ownNames.contains name

end Stylesheet.Value

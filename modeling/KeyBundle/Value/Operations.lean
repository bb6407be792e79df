/-
  KeyBundle.Value.Operations — the names of the operations that values have: those of plain data,
  of paths and loggers, and those of the library's own types that a caller may ask for.
-/

import KeyBundle.Value.Basic

namespace KeyBundle.Value

def words (text : String) : List String := text.splitOn " "

/-- What text and bytes in every form have. -/
def textOperations : List String := words (
  "capitalize center count endswith expandtabs find index isalnum isalpha isascii isdigit islower "
  ++ "isspace istitle isupper join ljust lower lstrip maketrans partition removeprefix "
  ++ "removesuffix replace rfind rindex rjust rpartition rsplit rstrip split splitlines "
  ++ "startswith strip swapcase title translate upper zfill")

def bytesOperations : List String := textOperations ++ words "decode fromhex hex"

/-- What sequences that can be changed have. -/
def sequenceOperations : List String := words
  "append clear copy count extend index insert pop remove reverse"

def wholeOperations : List String := words
  "as_integer_ratio bit_count bit_length conjugate from_bytes to_bytes"

def mappingOperations : List String := words "keys items values get"

def pathOperations : List String := words (
  "absolute as_posix as_uri chmod cwd exists expanduser glob group hardlink_to home is_absolute "
  ++ "is_block_device is_char_device is_dir is_fifo is_file is_mount is_relative_to is_reserved "
  ++ "is_socket is_symlink iterdir joinpath lchmod link_to lstat match mkdir open owner read_bytes "
  ++ "read_text readlink relative_to rename replace resolve rglob rmdir samefile stat symlink_to "
  ++ "touch unlink with_name with_stem with_suffix write_bytes write_text")

def loggerOperations : List String := words (
  "addFilter addHandler callHandlers critical debug error exception fatal filter findCaller "
  ++ "getChild getEffectiveLevel handle hasHandlers info isEnabledFor log makeRecord removeFilter "
  ++ "removeHandler setLevel warn warning")

/-- The operations of a side of a bundle. -/
def sideOperations : List String := words "merged from_schemes"

/-- The names of the operations of a value. -/
def operations : Value → List String
  | number (.float ..) => words "as_integer_ratio conjugate fromhex hex is_integer"
  | number _ => wholeOperations
  | text _ => textOperations ++ words
      "casefold encode format format_map isdecimal isidentifier isnumeric isprintable"
  | bytes _ | sealed .. => bytesOperations
  | buffer .. => bytesOperations ++ sequenceOperations
  | view .. => words "cast hex release tobytes tolist toreadonly"
  | tuple _ => words "count index"
  | list .. => "sort" :: sequenceOperations
  | table .. => mappingOperations ++ words "clear copy fromkeys pop popitem setdefault update"
  | fixedSet _ => words
      "copy difference intersection isdisjoint issubset issuperset symmetric_difference union"
  | generator .. => words "close send throw"
  | error .. => words "add_note with_traceback"
  | path _ => pathOperations
  | parameters _ => mappingOperations ++ words "merged as_dict blob_count"
  | scheme _ => ["parameters"]
  | decryptConfig _ | record .decryptConfig _ => sideOperations
  | encryptConfig _ | record .encryptConfig _ => "with_decrypt_config" :: sideOperations
  | settings .. | record (.settings ..) _ => words "load get_instance reset_instance"
  | logger .. => loggerOperations
  | _ => []

def hasOperation (v : Value) (name : String) : Bool := v.operations.contains name

end KeyBundle.Value

/-
  KeyBundle.Fault — everything that can go wrong, by cause. `Fault.className` gives the kind of
  error and `Fault.message` its wording.
-/

import KeyBundle.Scheme
import KeyBundle.Settings.Basic

namespace KeyBundle

/-! ## Errors of the caller's own -/

/-- What a thing of the caller's own raises when it is used. -/
inductive Raised where
  /-- An operation that a type does not have. -/
  | typeError (message : String)
  /-- The refusal that validators report. -/
  | rejection (message : String)
  | other (className message : String)

namespace Raised

def className : Raised → String
  | typeError _ => "TypeError"
  | rejection _ => "ValidationError"
  | other className _ => className

def message : Raised → String
  | typeError message | rejection message | other _ message => message

end Raised

/-! ## Blob sequences and names -/

/-- Why input of a scheme or a parameter set is refused. -/
inductive Rejection where
  | notBytes (field typeName : String)
  | singleValue (field : String)
  | notSequence (field : String)
  | lengthsDiffer (first second : String) (m n : Nat)
  | nameNotText
  | nameEmpty
  | nameInvalid
  /-- The caller's own refusal. -/
  | raised (message : String)

def Rejection.message : Rejection → String
  | notBytes field typeName => field ++ " must contain bytes-like blobs, got " ++ typeName
  | singleValue field => field ++ " must be a sequence of blobs, not a single value"
  | notSequence field => field ++ " must be a sequence of blobs"
  | lengthsDiffer first second m n =>
    "Length of " ++ first ++ " should match length of " ++ second ++ " (" ++ toString m ++ " != "
      ++ toString n ++ ")"
  | nameNotText => "Parameter names must be strings"
  | nameEmpty => "Parameter names cannot be empty"
  | nameInvalid => "Parameter name contains invalid characters"
  | raised message => message

/-! ## Bundles -/

/-- Why an argument of a constructor is refused. -/
inductive ArgumentFault where
  | rejected (r : Rejection)
  | kindEmpty
  | notDirection (shown : String)
  | notScheme (typeName : String)
  | wrongSide (className : String) (has wanted : Direction)
  | notForSide (typeName : String) (wanted : Direction)
  | limitBelowOne
  | notBundle (typeName : String)

def ArgumentFault.message : ArgumentFault → String
  | rejected r => r.message
  | kindEmpty => "CustomScheme kind must be a non-empty string"
  | notDirection shown => "Invalid scheme direction: " ++ shown
  | notScheme typeName => "Expected a Scheme, got " ++ typeName
  | wrongSide className has wanted =>
    className ++ " is a " ++ has.text ++ " scheme, cannot be used for " ++ wanted.text ++ "ion"
  | notForSide typeName .encrypt => typeName ++ " is not an encryption scheme"
  | notForSide typeName .decrypt => typeName ++ " is not a decryption scheme"
  | limitBelowOne => "max_modules must be at least 1"
  | notBundle typeName => "Expected a CryptoConfig, got " ++ typeName

/-- Why a well-formed configuration is not supported. -/
inductive SupportFault where
  | noModule
  | tooManyModules (limit : Number) (count : Nat)

def SupportFault.message : SupportFault → String
  | noModule => "PKCS#11 encryption requires a module"
  | tooManyModules limit count =>
    "Experimental PKCS#11 encryption supports at most " ++ limit.text ++ " module(s), got "
      ++ toString count

/-! ## Values used for what they are not -/

/-- The kinds of sequences whose items are reached by position. -/
inductive SequenceKind where
  | list
  | tuple
  | text
  | bytes
  | buffer
  | view
  deriving DecidableEq

namespace SequenceKind

/-- How the kind calls itself in refusals. -/
def label : SequenceKind → String
  | list => "list"
  | tuple => "tuple"
  | text => "string"
  | bytes => "byte"
  | buffer => "bytearray"
  | view => "memoryview"

/-- A position that is no whole number. -/
def badIndex (k : SequenceKind) (typeName : String) : String :=
  match k with
  | text => "string indices must be integers, not '" ++ typeName ++ "'"
  | view => "memoryview: invalid slice key"
  | k => k.label ++ " indices must be integers or slices, not " ++ typeName

/-- A position beyond the items. -/
def outOfRange (k : SequenceKind) : String :=
  match k with
  | bytes => "index out of range"
  | view => "index out of bounds on dimension 1"
  | k => k.label ++ " index out of range"

end SequenceKind

/-- An operation that the type of a value does not have. -/
inductive TypeFault where
  | notIterable (typeName : String)
  | noLength (typeName : String)
  | unhashable (typeName : String)
  | notOrdered (sign left right : String)
  | notSubscriptable (typeName : String)
  | noItemAssignment (typeName : String)
  | noContainment (typeName : String)
  | notCallable (typeName : String)
  | badIndex (k : SequenceKind) (typeName : String)
  /-- More than one position, for a view of one dimension. -/
  | tooManyPositions (count : Nat)
  | notTextOperand (typeName : String)
  | notText (typeName : String)
  | textPatternOnBytes
  | abstractScheme
  | foreignField
  | cannotCopy (typeName : String)
  | notPath (typeName : String)
  | notPathText (typeName : String)
  | loggerName
  | attributeName (typeName : String)
  | needsBytes (typeName : String)
  | notWhole (typeName : String)
  | readOnly

def TypeFault.message : TypeFault → String
  | notIterable t => "'" ++ t ++ "' object is not iterable"
  | noLength t => "object of type '" ++ t ++ "' has no len()"
  | unhashable t => "unhashable type: '" ++ t ++ "'"
  | notOrdered sign left right =>
    "'" ++ sign ++ "' not supported between instances of '" ++ left ++ "' and '" ++ right ++ "'"
  | notSubscriptable t => "'" ++ t ++ "' object is not subscriptable"
  | noItemAssignment t => "'" ++ t ++ "' object does not support item assignment"
  | noContainment t => "argument of type '" ++ t ++ "' is not iterable"
  | notCallable t => "'" ++ t ++ "' object is not callable"
  | badIndex k t => k.badIndex t
  | tooManyPositions n => "cannot index 1-dimension view with " ++ toString n ++ "-element tuple"
  | notTextOperand t => "'in <string>' requires string as left operand, not " ++ t
  | notText t => "expected string or bytes-like object, got '" ++ t ++ "'"
  | textPatternOnBytes => "cannot use a string pattern on a bytes-like object"
  | abstractScheme => "Can't instantiate abstract class Scheme with abstract method parameters"
  | foreignField => "super(type, obj): obj must be an instance or subtype of type"
  | cannotCopy "memoryview" => "cannot pickle memoryview objects"
  | cannotCopy t => "cannot pickle '" ++ t ++ "' object"
  | notPath t => "expected str, bytes or os.PathLike object, not " ++ t
  | notPathText t =>
    "argument should be a str object or an os.PathLike object returning str, not <class '" ++ t
      ++ "'>"
  | loggerName => "A logger name must be a string"
  | attributeName t => "attribute name must be string, not '" ++ t ++ "'"
  | needsBytes t => "a bytes-like object is required, not '" ++ t ++ "'"
  | notWhole t => "'" ++ t ++ "' object cannot be interpreted as an integer"
  | readOnly => "cannot modify read-only memory"

/-! ## Log templates and lines -/

/-- Why a template cannot be filled. -/
inductive TemplateFault where
  | needsMapping
  | incompleteKey
  | incomplete
  | tooFew
  | tooMany
  | badWidth
  | widthTooBig
  | widthOutOfRange
  | precisionTooBig
  | precisionOutOfRange
  /-- More digits than a whole number is written with. -/
  | precisionTooLarge
  | outOfMemory
  | unsupported (c : Char) (index : Nat)
  | notReal (conversion : Char) (typeName : String)
  | notInteger (conversion : Char) (typeName : String)
  | notFloat (typeName : String)
  | nanToInteger
  | infinityToInteger
  | integerTooLarge
  | notChar
  | charOutOfRange
  | missingKey (shown : String)

/-- The kind of error. -/
def TemplateFault.className : TemplateFault → String
  | incompleteKey | incomplete | widthTooBig | precisionTooBig | unsupported .. | nanToInteger =>
    "ValueError"
  | infinityToInteger | integerTooLarge | charOutOfRange | widthOutOfRange | precisionOutOfRange
  | precisionTooLarge => "OverflowError"
  | missingKey _ => "KeyError"
  | outOfMemory => "MemoryError"
  | _ => "TypeError"

def TemplateFault.message : TemplateFault → String
  | needsMapping => "format requires a mapping"
  | incompleteKey => "incomplete format key"
  | incomplete => "incomplete format"
  | tooFew => "not enough arguments for format string"
  | tooMany => "not all arguments converted during string formatting"
  | badWidth => "* wants int"
  | widthTooBig => "width too big"
  | widthOutOfRange => "Python int too large to convert to C ssize_t"
  | precisionTooBig => "precision too big"
  | precisionOutOfRange => "Python int too large to convert to C int"
  | precisionTooLarge => "precision too large"
  | outOfMemory => ""
  | unsupported c index =>
    let shown := if 0x1F ≤ c.toNat && c.toNat < 0x7F then c else '?'
    "unsupported format character '" ++ shown.toString ++ "' (0x"
      ++ String.ofList (Text.hex c.toNat) ++ ") at index " ++ toString index
  | notReal c t => "%" ++ c.toString ++ " format: a real number is required, not " ++ t
  | notInteger c t => "%" ++ c.toString ++ " format: an integer is required, not " ++ t
  | notFloat t => "must be real number, not " ++ t
  | nanToInteger => "cannot convert float NaN to integer"
  | infinityToInteger => "cannot convert float infinity to integer"
  | integerTooLarge => "int too large to convert to float"
  | notChar => "%c requires int or char"
  | charOutOfRange => "%c arg not in range(0x110000)"
  | missingKey shown => shown

/-! ## Files -/

/-- Why the file system refuses. -/
inductive FileRefusal where
  | missing
  | exists
  | notFolder
  | isFolder
  | nameTooLong
  deriving DecidableEq

def FileRefusal.className : FileRefusal → String
  | missing => "FileNotFoundError"
  | .exists => "FileExistsError"
  | notFolder => "NotADirectoryError"
  | isFolder => "IsADirectoryError"
  | nameTooLong => "OSError"

def FileRefusal.message : FileRefusal → String
  | missing => "[Errno 2] No such file or directory"
  | .exists => "[Errno 17] File exists"
  | notFolder => "[Errno 20] Not a directory"
  | isFolder => "[Errno 21] Is a directory"
  | nameTooLong => "[Errno 36] File name too long"

/-- What the file system refuses. -/
structure FileFault where
  refusal : FileRefusal
  path : Path

def FileFault.message (f : FileFault) : String :=
  f.refusal.message ++ ": " ++ Text.quoted f.path.text

/-! ## Attributes -/

/-- Why an attribute that is there cannot be assigned to. -/
inductive AttributeFault where
  | operation (typeName name : String)
  | data (typeName name : String)
  | computed (typeName name : String)
  | ofDirection (name : String)

def AttributeFault.message : AttributeFault → String
  | operation typeName name => "'" ++ typeName ++ "' object attribute '" ++ name ++ "' is read-only"
  | data typeName name =>
    "attribute '" ++ name ++ "' of '" ++ typeName ++ "' objects is not writable"
  | computed typeName name =>
    "property '" ++ name ++ "' of '" ++ typeName ++ "' object has no setter"
  | ofDirection name => "<enum 'Enum'> cannot set attribute '" ++ name ++ "'"

/-! ## All faults -/

/-- Why logging is not set up. -/
inductive LogFault where
  | unknownLevel (shown : String)
  | levelNotText (shown : String)
  | noSuchLevel (name : String)
  | climbingPath
  | nulInPath
  | overwrites (field : String)
  | keyNotText (typeName : String)
  | yearOutOfRange (year : Int)

inductive Fault where
  /-- Input of a validator. -/
  | rejection (r : Rejection)
  /-- Argument of a constructor. -/
  | argument (f : ArgumentFault)
  | support (f : SupportFault)
  | setting (f : SettingFault)
  /-- A text that writes no whole number. -/
  | literal (f : Number.LiteralFault)
  | type (f : TypeFault)
  | noAttribute (typeName name : String)
  | fixedAttribute (f : AttributeFault)
  /-- A field of an immutable record is assigned. -/
  | frozenField (name : String)
  | frozenParameters
  | frozenSettings
  | missingKey (shown : String)
  | indexOutOfRange (k : SequenceKind)
  /-- The position of an item to be replaced. -/
  | noPlace
  | indexTooLarge
  /-- No position, for a view of one dimension. -/
  | noPosition
  | notByte
  /-- A window with items of several bytes has no digest. -/
  | wideItems
  | notMember (shown className : String)
  | template (f : TemplateFault)
  | log (f : LogFault)
  | file (f : FileFault)
  /-- An error of the caller's own. -/
  | raised (r : Raised)
  /-- A name that nothing was bound to. -/
  | unbound (name : String)

namespace Fault

def className : Fault → String
  | rejection _ => "ValidationError"
  | argument _ => "InvalidArgumentError"
  | support _ => "UnsupportedConfigurationError"
  | setting _ | literal _ => "ValueError"
  | type _ => "TypeError"
  | noAttribute .. => "AttributeError"
  | frozenField _ => "FrozenInstanceError"
  | fixedAttribute _ | frozenParameters | frozenSettings => "AttributeError"
  | missingKey _ => "KeyError"
  | indexOutOfRange _ | noPlace | indexTooLarge => "IndexError"
  | noPosition => "NotImplementedError"
  | notByte | wideItems => "ValueError"
  | notMember .. => "ValueError"
  | template f => f.className
  | log f =>
    match f with
    | .unknownLevel _ | .climbingPath | .nulInPath | .yearOutOfRange _ => "ValueError"
    | .levelNotText _ | .keyNotText _ => "TypeError"
    | .noSuchLevel _ => "AttributeError"
    | .overwrites _ => "KeyError"
  | file f => f.refusal.className
  | raised r => r.className
  | unbound _ => "UnboundRef"

def logMessage : LogFault → String
  | .unknownLevel shown => "Unknown level: " ++ shown
  | .levelNotText shown => "Level not an integer or a valid string: " ++ shown
  | .noSuchLevel name => "module 'logging' has no attribute '" ++ name ++ "'"
  | .climbingPath => "Log path cannot contain path traversal sequences"
  | .nulInPath => "embedded null byte"
  | .overwrites field =>
    Text.quoted ("Attempt to overwrite " ++ Text.quoted field ++ " in LogRecord")
  | .keyNotText typeName => "keys must be str, int, float, bool or None, not " ++ typeName
  | .yearOutOfRange year => "year " ++ toString year ++ " is out of range"

def message : Fault → String
  | rejection r => r.message
  | argument f => f.message
  | support f => f.message
  | setting f => f.message
  | literal f => f.message
  | type f => f.message
  | noAttribute typeName name => "'" ++ typeName ++ "' object has no attribute '" ++ name ++ "'"
  | fixedAttribute f => f.message
  | frozenField name => "cannot assign to field " ++ Text.quoted name
  | frozenParameters => "ParameterSet is immutable"
  | frozenSettings => "LayerCryptConfig is immutable after initialization"
  | missingKey shown => shown
  | indexOutOfRange k => k.outOfRange
  | noPlace => "list assignment index out of range"
  | indexTooLarge => "cannot fit 'int' into an index-sized integer"
  | noPosition => "sub-views are not implemented"
  | notByte => "byte must be in range(0, 256)"
  | wideItems => "memoryview: hashing is restricted to formats 'B', 'b' or 'c'"
  | notMember shown className => shown ++ " is not a valid " ++ className
  | template f => f.message
  | log f => logMessage f
  | file f => f.message
  | raised r => r.message
  | unbound name => name

end Fault

end KeyBundle

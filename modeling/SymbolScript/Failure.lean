import SymbolScript.Text.Quoted

/-!
Why an operation fails. Failures are grouped by what was wrong with the input: a number, a symbol,
a source text or file, a value out of range, or a value of the wrong shape. Each has one message.
-/

namespace SymbolScript

open Text (quoted)

/-! ## Causes -/

inductive NumberFault
  | notWhole (shown : Text)
  | negative (number : Int)
  | emptyBase64
  | base64Character (c : Char)
  | noBase64Literal (text : Text)
  | vectorDigit (c : Char)
  | notEncodable (shown : Text)
  | notANumber
  | emptyVector (text : Text)
  | malformedFraction (text : Text)
  | unknownFormat (shown : Text)
deriving DecidableEq, Repr

inductive SymbolFault
  | unknownCategory (shown : Text)
  | unmapped (key category : Text)
  | unknownLevel (level : Text)
  | notADigit (text : Text)
  | unknownModifier (name : Text)
  | notAWordCode (code : Text)
  | unknownWordIndex (index : Nat)
deriving DecidableEq, Repr

/-- What the file store says about a path that it cannot read or write. -/
inductive StoreFault
  | missing (path : Text)
  | isDirectory (path : Text)
  | notDirectory (path : Text)
  | denied (path : Text)
  | nameTooLong (path : Text)
deriving DecidableEq, Repr

inductive SourceFault
  | unbalanced (opener : Char) (offset : Nat)
  | cannotRead (path : Text) (cause : StoreFault)
  | cannotWrite (path : Text) (cause : StoreFault)
deriving DecidableEq, Repr

inductive CellFault
  | unknownFormat (format : Text)
  | sign
  | space
  | alternateForm
  | negativeZero
  | innerAlignment
  | grouping (mark digit : Char)
  | missingPrecision
  | tooManyDigits
deriving DecidableEq, Repr

inductive ValueFault
  | tooManyDigitsToWrite
  | tooManyDigitsToRead (count : Nat)
  | notAnInteger (text : Text)
  | notADecimal (text : Text)
  | wholeOfNotANumber
  | logarithmOfZero
  | emptyCluster
  | unknownTarget (shown : Text)
  | unknownLogLevel (shown : Text)
  | cellFormat (cause : CellFault)
  | embeddedNull
  | infiniteNumber
deriving DecidableEq, Repr

/-- An integer or a quotient beyond the range of doubles, a count beyond the range of words, or an
infinity where a whole number is needed. -/
inductive RangeFault
  | wholeOfInfinity
  | integerTooLarge
  | quotientTooLarge
  | countTooLarge
deriving DecidableEq, Repr

inductive TypeFault
  | noLength (typeName : String)
  | unhashable (typeName : String)
  | notText (typeName : String)
  | notAReal (typeName : String)
  | unusable
deriving DecidableEq, Repr

/-- Why an operation fails. Passes that are not of the notation may fail for reasons of their own,
of which only the name and the message are known. -/
inductive Failure
  | number (cause : NumberFault)
  | symbol (cause : SymbolFault)
  | source (cause : SourceFault)
  | store (cause : StoreFault)
  | value (cause : ValueFault)
  | undecodable
  | range (cause : RangeFault)
  | zeroDivision
  | missingPosition
  | missingKey (key : Text)
  | type (cause : TypeFault)
  | missingMember (typeName member : String)
  | other (title : String) (message : Text)
deriving DecidableEq, Repr

/-! ## Messages -/

private def say (parts : List Text) : Text :=
  parts.flatten

def NumberFault.message : NumberFault → Text
  | notWhole shown => "Base64 numbers encode integers, got ".toList ++ shown
  | negative number =>
    "Base64 numbers are non-negative, got ".toList ++ Decimal.ofInt number
  | emptyBase64 => "Empty Base64 number".toList
  | base64Character c => "Invalid base64 character: ".toList ++ [c]
  | noBase64Literal text => "Invalid Base64 number format: ".toList ++ text
  | vectorDigit c => "Invalid vector digit: ".toList ++ quoted [c]
  | notEncodable shown => say ["Cannot encode ".toList, shown, " as a vector number".toList]
  | notANumber => "NaN has no vector encoding".toList
  | emptyVector text => "Empty vector number: ".toList ++ quoted text
  | malformedFraction text => "Malformed fractional vector number: ".toList ++ quoted text
  | unknownFormat shown => "Unknown format: ".toList ++ shown

def SymbolFault.message : SymbolFault → Text
  | unknownCategory shown => "Unknown symbol category: ".toList ++ shown
  | unmapped key category =>
    say [quoted key, " is not mapped in category ".toList, quoted category]
  | unknownLevel level =>
    say ["Unknown fallback level: ".toList, quoted level,
      " (expected one of ['short', 'word', 'name'])".toList]
  | notADigit text => "Not a Chinese digit or decimal integer: ".toList ++ quoted text
  | unknownModifier name => "Unknown type modifier: ".toList ++ quoted name
  | notAWordCode code => "Not a word code: ".toList ++ quoted code
  | unknownWordIndex index => "Unknown word index: ".toList ++ Decimal.ofNat index

def StoreFault.message : StoreFault → Text
  | missing path => "[Errno 2] No such file or directory: ".toList ++ quoted path
  | isDirectory path => "[Errno 21] Is a directory: ".toList ++ quoted path
  | notDirectory path => "[Errno 20] Not a directory: ".toList ++ quoted path
  | denied path => "[Errno 13] Permission denied: ".toList ++ quoted path
  | nameTooLong path => "[Errno 36] File name too long: ".toList ++ quoted path

def SourceFault.message : SourceFault → Text
  | unbalanced opener offset =>
    say ["Unbalanced brackets after ".toList, quoted [opener], " at offset ".toList,
      Decimal.ofNat offset]
  | cannotRead path cause => say ["Cannot read ".toList, path, ": ".toList, cause.message]
  | cannotWrite path cause => say ["Cannot write ".toList, path, ": ".toList, cause.message]

def CellFault.message : CellFault → Text
  | unknownFormat format =>
    say ["Invalid format specifier '".toList, format, "' for object of type 'str'".toList]
  | sign => "Sign not allowed in string format specifier".toList
  | space => "Space not allowed in string format specifier".toList
  | alternateForm => "Alternate form (#) not allowed in string format specifier".toList
  | negativeZero =>
    "Negative zero coercion (z) not allowed in string format specifier".toList
  | innerAlignment => "'=' alignment not allowed in string format specifier".toList
  | grouping mark digit =>
    say ["Cannot specify '".toList, [mark], "' with '".toList, [digit], "'.".toList]
  | missingPrecision => "Format specifier missing precision".toList
  | tooManyDigits => "Too many decimal digits in format string".toList

def ValueFault.message : ValueFault → Text
  | tooManyDigitsToWrite =>
    ("Exceeds the limit (4300 digits) for integer string conversion; " ++
      "use sys.set_int_max_str_digits() to increase the limit").toList
  | tooManyDigitsToRead count =>
    say ["Exceeds the limit (4300 digits) for integer string conversion: value has ".toList,
      Decimal.ofNat count,
      " digits; use sys.set_int_max_str_digits() to increase the limit".toList]
  | notAnInteger text =>
    "invalid literal for int() with base 10: ".toList ++ (quoted text).take 200
  | notADecimal text => "could not convert string to float: ".toList ++ quoted text
  | wholeOfNotANumber => "cannot convert float NaN to integer".toList
  | logarithmOfZero => "math domain error".toList
  | emptyCluster => "need at least one array to stack".toList
  | unknownTarget shown => shown ++ " is not a valid Target".toList
  | unknownLogLevel shown => "Unknown level: ".toList ++ shown
  | cellFormat cause => cause.message
  | embeddedNull => "embedded null byte".toList
  | infiniteNumber => "Out of range float values are not JSON compliant".toList

def RangeFault.message : RangeFault → Text
  | wholeOfInfinity => "cannot convert float infinity to integer".toList
  | integerTooLarge => "int too large to convert to float".toList
  | quotientTooLarge => "integer division result too large for a float".toList
  | countTooLarge => "count too large for a word".toList

def TypeFault.message : TypeFault → Text
  | noLength typeName => say ["object of type '".toList, typeName.toList, "' has no len()".toList]
  | unhashable typeName => say ["unhashable type: '".toList, typeName.toList, "'".toList]
  | notText typeName =>
    say ["expected string or bytes-like object, got '".toList, typeName.toList, "'".toList]
  | notAReal typeName =>
    say ["float() argument must be a string or a real number, not '".toList, typeName.toList,
      "'".toList]
  | unusable => "value has the wrong type".toList

namespace Failure

def message : Failure → Text
  | number cause => cause.message
  | symbol cause => cause.message
  | source cause => cause.message
  | store cause => cause.message
  | value cause => cause.message
  | undecodable => "invalid UTF-8 text".toList
  | range cause => cause.message
  | zeroDivision => "division by zero".toList
  | missingPosition => "string index out of range".toList
  | missingKey key => quoted key
  | type cause => cause.message
  | missingMember typeName member =>
    say ["'".toList, typeName.toList, "' object has no attribute '".toList, member.toList,
      "'".toList]
  | other _ message => message

def title : Failure → String
  | number _ => "NumberFormatError"
  | symbol _ => "SymbolError"
  | source _ => "CompileError"
  | store (.missing _) => "FileNotFoundError"
  | store (.isDirectory _) => "IsADirectoryError"
  | store (.notDirectory _) => "NotADirectoryError"
  | store (.denied _) => "PermissionError"
  | store (.nameTooLong _) => "OSError"
  | value _ => "ValueError"
  | undecodable => "UnicodeDecodeError"
  | range _ => "OverflowError"
  | zeroDivision => "ZeroDivisionError"
  | missingPosition => "IndexError"
  | missingKey _ => "KeyError"
  | type _ => "TypeError"
  | missingMember _ _ => "AttributeError"
  | other title _ => title

/-- Failures of the notation itself, which are reported by their message alone. -/
def isOwn : Failure → Bool
  | number _ | symbol _ | source _ => true
  | _ => false

end Failure

end SymbolScript

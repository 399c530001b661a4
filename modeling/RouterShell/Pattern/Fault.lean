/-!
# Faults of patterns

What makes a typed pattern unusable: how it is written, what it would mean, or how large it would
become.
-/

namespace RouterShell.Pattern

/-- Why a text is no pattern. -/
inductive Fault where
  /-- A group has no closing parenthesis. -/
  | groupUnclosed
  /-- A closing parenthesis closes nothing. -/
  | groupUnopened
  /-- A class has no closing bracket. -/
  | classUnclosed
  /-- Something that is no character stands in a class. -/
  | classEscapeInvalid
  /-- A range ends before it starts. -/
  | classRangeInvalid
  /-- An end of a range is no single character. -/
  | classRangeLiteral
  /-- A number has no digits. -/
  | decimalEmpty
  /-- A number exceeds 32 bits. -/
  | decimalInvalid
  /-- Braces of a hexadecimal code are empty. -/
  | hexEmpty
  /-- A hexadecimal code names no character. -/
  | hexInvalid
  /-- A character is no hexadecimal digit. -/
  | hexInvalidDigit
  /-- The pattern ends inside an escape. -/
  | escapeUnfinished
  /-- The character after a backslash means nothing there. -/
  | escapeUnrecognized
  /-- A minus sign among flags negates none. -/
  | flagDanglingNegation
  /-- A flag is given twice. -/
  | flagDuplicate
  /-- There are two minus signs among flags. -/
  | flagRepeatedNegation
  /-- The pattern ends among flags. -/
  | flagUnfinished
  /-- A letter is no flag. -/
  | flagUnrecognized
  /-- Two groups have one name. -/
  | groupNameDuplicate
  /-- The name of a group is empty. -/
  | groupNameEmpty
  /-- A character cannot stand in the name of a group. -/
  | groupNameInvalid
  /-- The pattern ends inside the name of a group. -/
  | groupNameUnfinished
  /-- Groups and repetitions are nested too deeply. -/
  | nestingTooDeep (limit : Nat)
  /-- The largest count is below the smallest. -/
  | countInvalid
  /-- A count has no digits. -/
  | countEmpty
  /-- A count has no closing brace. -/
  | countUnclosed
  /-- There is nothing to repeat. -/
  | repetitionMissing
  /-- The name of a word boundary is not closed. -/
  | boundaryUnclosed
  /-- A word boundary has an unknown name. -/
  | boundaryUnrecognized
  /-- The pattern ends after the brace behind a word boundary. -/
  | boundaryUnfinished
  /-- A property is not written in letters or braces. -/
  | propertyInvalid
  /-- References to groups are not understood. -/
  | backreference
  /-- Looking ahead or behind is not understood. -/
  | lookAround
  /-- Something needs Unicode while the flag for it is off. -/
  | unicodeNotAllowed
  /-- The pattern would match parts of characters. -/
  | invalidUtf8
  /-- There is no such property. -/
  | propertyNotFound
  /-- The property has no such value. -/
  | propertyValueNotFound
  /-- The pattern takes too much memory. -/
  | tooBig (limit : Nat)
  deriving DecidableEq, Repr

/-- The wording of a fault. -/
def Fault.message : Fault → String
  | .groupUnclosed => "unclosed group"
  | .groupUnopened => "unopened group"
  | .classUnclosed => "unclosed character class"
  | .classEscapeInvalid => "invalid escape sequence found in character class"
  | .classRangeInvalid => "invalid character class range, the start must be <= the end"
  | .classRangeLiteral => "invalid range boundary, must be a literal"
  | .decimalEmpty => "decimal literal empty"
  | .decimalInvalid => "decimal literal invalid"
  | .hexEmpty => "hexadecimal literal empty"
  | .hexInvalid => "hexadecimal literal is not a Unicode scalar value"
  | .hexInvalidDigit => "invalid hexadecimal digit"
  | .escapeUnfinished => "incomplete escape sequence, reached end of pattern prematurely"
  | .escapeUnrecognized => "unrecognized escape sequence"
  | .flagDanglingNegation => "dangling flag negation operator"
  | .flagDuplicate => "duplicate flag"
  | .flagRepeatedNegation => "flag negation operator repeated"
  | .flagUnfinished => "expected flag but got end of regex"
  | .flagUnrecognized => "unrecognized flag"
  | .groupNameDuplicate => "duplicate capture group name"
  | .groupNameEmpty => "empty capture group name"
  | .groupNameInvalid => "invalid capture group character"
  | .groupNameUnfinished => "unclosed capture group name"
  | .nestingTooDeep limit => s!"exceed the maximum number of nested parentheses/brackets ({limit})"
  | .countInvalid => "invalid repetition count range, the start must be <= the end"
  | .countEmpty => "repetition quantifier expects a valid decimal"
  | .countUnclosed => "unclosed counted repetition"
  | .repetitionMissing => "repetition operator missing expression"
  | .boundaryUnclosed =>
    "special word boundary assertion is either unclosed or contains an invalid character"
  | .boundaryUnrecognized =>
    "unrecognized special word boundary assertion, " ++
      "valid choices are: start, end, start-half or end-half"
  | .boundaryUnfinished =>
    "found either the beginning of a special word boundary or a bounded repetition " ++
      "on a \\b with an opening brace, but no closing brace"
  | .propertyInvalid => "invalid Unicode character class"
  | .backreference => "backreferences are not supported"
  | .lookAround => "look-around, including look-ahead and look-behind, is not supported"
  | .unicodeNotAllowed => "Unicode not allowed here"
  | .invalidUtf8 => "pattern can match invalid UTF-8"
  | .propertyNotFound => "Unicode property not found"
  | .propertyValueNotFound => "Unicode property value not found"
  | .tooBig limit => s!"Compiled regex exceeds size limit of {limit} bytes."

end RouterShell.Pattern

import BasicTokens.Character

/-!
# Grammar — the whole texts that are names, numbers, strings, symbols and comments

Each predicate reads a complete text and says whether it is one lexical item of its kind.  How a
source is cut into items is not decided here (`Lexeme/Matcher`), so that the two can be compared.
-/

namespace BasicTokens

namespace Grammar

open Character

/-! ## Tables -/

/-- The marker that makes the rest of its line a comment. -/
def remark : Text := "REM".toList

/-- The reserved words, in upper case. -/
def keywords : List Text :=
  ["IF".toList, "THEN".toList, "PRINT".toList, "GOTO".toList, "FOR".toList, "NEXT".toList,
   "LET".toList, "REM".toList, "INPUT".toList, "END".toList]

/-- The operators, pairs first. -/
def operators : List Text :=
  [['<', '>'], ['<', '='], ['>', '='], ['='], ['+'], ['-'], ['*'], ['/'], ['<'], ['>']]

/-- The delimiters. -/
def delimiters : List Text := [['('], [')'], [',']]

/-! ## Recognizers -/

/-- A letter or underscore, then letters, digits and underscores. -/
def isIdentifier : Text → Bool
  | [] => false
  | c :: t => isNameStart c && t.all isNamePart

/-- The reserved word that a text spells in any case. -/
def keyword? (t : Text) : Option Text := keywords.find? (·.equalsIgnoringCase t)

/-- Reads digits and at most one point to the end, given whether a digit and whether the point came
before; at least one digit is needed. -/
def digitsAndPoint (digitSeen pointSeen : Bool) : Text → Bool
  | [] => digitSeen
  | c :: t =>
    if c.isDigit then digitsAndPoint true pointSeen t
    else if c = '.' then !pointSeen && digitsAndPoint digitSeen true t
    else false

/-- Digits with at most one point, at least one digit, and no point at the end. -/
def isNumber (t : Text) : Bool := digitsAndPoint false false t && t.getLast? != some '.'

/-- A quote at either end and none between. -/
def isStringLiteral : Text → Bool
  | '"' :: t => t.getLast? == some '"' && !t.dropLast.contains '"'
  | _ => false

/-- A quote, then neither quotes nor line ends. -/
def isOpenString : Text → Bool
  | '"' :: t => t.all fun c => c != '"' && !isLineEnd c
  | _ => false

/-- Whether a text begins with the comment marker, in any case if `ignoreCase`. -/
def startsRemark (ignoreCase : Bool) (t : Text) : Bool :=
  let opening : Text := t.take remark.length
  if ignoreCase then opening.equalsIgnoringCase remark else opening == remark

/-- One of the operators. -/
def isOperator (t : Text) : Bool := operators.contains t

/-- One of the delimiters. -/
def isDelimiter (t : Text) : Bool := delimiters.contains t

/-- A keyword is the table's own spelling of the text it was found for. -/
theorem mem_keywords_of_keyword? {t k : Text} (h : keyword? t = some k) : k ∈ keywords :=
  List.mem_of_find?_eq_some h

theorem toUpper_eq_of_keyword? {t k : Text} (h : keyword? t = some k) :
    k.toUpper = t.toUpper := by
  simpa [Text.equalsIgnoringCase] using List.find?_some h

/-- A marker found in upper case is found in any case. -/
theorem startsRemark_of_exact {t : Text} (h : startsRemark false t = true) (ignoreCase : Bool) :
    startsRemark ignoreCase t = true := by
  cases ignoreCase
  · exact h
  · simp only [startsRemark, Bool.false_eq_true, if_false, beq_iff_eq] at h
    simp [startsRemark, Text.equalsIgnoringCase, h]

end Grammar

end BasicTokens

import Companion.Syntax.Token

set_option autoImplicit false

namespace Companion.Syntax

/-- Rules of the grammar beyond the mere order of tokens. -/
inductive Rule where
  | wordExpected
  | segmentAfterColons
  | attributeInsideAttribute
  | delimiterExpected
  | objectNeedsTrait
  | bareImplNeedsTrait
  | noPreciseCapture
  | noConditionalConst
  | noConst
  | binderWithMaybe
  | statementEnds
  | secondReceiver
  | lateReceiver
  | negativeInherent
  | renameExpected
  | chainedComparison
  | castFollowedBy (what : String)
  | expressionExpected
  | labelledBlock
  | commaOrSemicolon
  | parenthesesRequired
  | attributeOnRange
  | rangeUpperBound
  | openRangeInSlice
  | memberExpected
  | suffixedIndex
  | largeIndex
  | wholeNumberExpected
  | genericClause
  deriving DecidableEq, Repr

def Rule.text : Rule → String
  | wordExpected => "expected ident"
  | segmentAfterColons => "expected path segment after `::`"
  | attributeInsideAttribute => "unexpected attribute inside of attribute"
  | delimiterExpected => "expected delimiter"
  | objectNeedsTrait => "at least one trait is required for an object type"
  | bareImplNeedsTrait => "at least one trait must be specified"
  | noPreciseCapture => "`use<...>` precise capturing syntax is not allowed here"
  | noConditionalConst => "`[const]` is not allowed here"
  | noConst => "`const` is not allowed here"
  | binderWithMaybe => "`for<...>` binder not allowed with `?` trait polarity modifier"
  | statementEnds => "unexpected token, expected `;`"
  | secondReceiver => "unexpected second method receiver"
  | lateReceiver => "unexpected method receiver"
  | negativeInherent => "inherent impls cannot be negative"
  | renameExpected => "expected identifier or underscore"
  | chainedComparison => "comparison operators cannot be chained"
  | castFollowedBy what => "casts cannot be followed by " ++ what
  | expressionExpected => "expected an expression"
  | labelledBlock => "expected loop or block expression"
  | commaOrSemicolon => "expected `,` or `;`"
  | parenthesesRequired => "parentheses required"
  | attributeOnRange => "attributes are not allowed on range expressions starting with `..`"
  | rangeUpperBound => "expected range upper bound"
  | openRangeInSlice => "range pattern is not allowed unparenthesized inside slice pattern"
  | memberExpected => "expected identifier or integer"
  | suffixedIndex => "expected unsuffixed integer"
  | largeIndex => "number too large to fit in target type"
  | wholeNumberExpected => "expected integer literal"
  | genericClause => "generic parameters on `where` clauses are reserved for future use"

inductive Complaint where
  /-- The text does not divide into tokens. -/
  | noTokens
  /-- None of the things that may stand here does. -/
  | expected (alternatives : List String) (atEnd : Bool)
  /-- A sign is missing. -/
  | signExpected (sign : String)
  /-- A keyword stands where an identifier must. -/
  | keyword (word : String)
  /-- Tokens are left over at the end of a group, or of the text. -/
  | leftOver (delimiter : Option Delimiter)
  /-- A rule is broken at this place. -/
  | broken (rule : Rule)
  /-- A rule is broken in front of this place. -/
  | missing (rule : Rule) (atEnd : Bool)
  deriving DecidableEq, Repr

namespace Complaint

/-- What is put in front when the text, or the group, has come to its end. -/
def atEndMark (atEnd : Bool) : String :=
  if atEnd then "unexpected end of input, " else ""

def phrase : List String → String
  | [] => ""
  | [one] => "expected " ++ one
  | [one, other] => "expected " ++ one ++ " or " ++ other
  | several => "expected one of: " ++ String.intercalate ", " several

def message : Complaint → String
  | noTokens => "cannot parse string into token stream"
  | expected [] atEnd => if atEnd then "unexpected end of input" else "unexpected token"
  | expected alternatives atEnd => atEndMark atEnd ++ phrase alternatives
  | signExpected sign => "expected `" ++ sign ++ "`"
  | keyword word => "expected identifier, found keyword `" ++ word ++ "`"
  | leftOver none => "unexpected token"
  | leftOver (some .parenthesis) => "unexpected token, expected `)`"
  | leftOver (some .bracket) => "unexpected token, expected `]`"
  | leftOver (some .brace) => "unexpected token, expected `\x7d`"
  | broken rule => rule.text
  | missing rule atEnd => atEndMark atEnd ++ rule.text

end Complaint

structure SyntaxError where
  place : Position
  complaint : Complaint
  deriving DecidableEq, Repr

end Companion.Syntax

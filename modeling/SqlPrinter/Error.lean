/-
What can go wrong between the JSON form of a statement and its text, told as
causes.  The wording of each cause stands in `Error.message?` alone.
-/
import SqlPrinter.Feature

namespace SqlPrinter

/-- A combination of clauses for which a dialect has no words at all. -/
inductive Construct where
  | attachDatabase
  | ignoreWithUpdate
  | duplicateKeyCondition
  | positionalSortKey
deriving DecidableEq

/-- What a message calls the construct. -/
def Construct.label : Construct → String
  | attachDatabase => "ATTACH DATABASE"
  | ignoreWithUpdate => "INSERT IGNORE with ON CONFLICT DO UPDATE"
  | duplicateKeyCondition => "ON DUPLICATE KEY UPDATE ... WHERE"
  | positionalSortKey => "positional parameter in emulated NULLS FIRST/LAST"

/-- Why a JSON value is not the written form of a node. -/
inductive Fault where
  /-- A value of the wrong kind, a missing field or an unknown word. -/
  | shape
  /-- A unary operator that does not exist, as it was given. -/
  | unknownUnary (given : String)
deriving DecidableEq

/-- The message of a fault; a value of the wrong shape has none. -/
def Fault.message? : Fault → Option String
  | shape => none
  | unknownUnary given => some ("unknown unary operator: " ++ given)

/-- Why there is no text. -/
inductive Error where
  /-- A strict policy refused a feature that the dialect lacks. -/
  | unsupportedFeature (feature : Feature) (dialect : Dialect)
  /-- The dialect has no words for a construct, whatever the policy. -/
  | unsupportedConstruct (construct : Construct) (dialect : Dialect)
  /-- A part of a node is empty that must not be. -/
  | missingField (node field : String)
  /-- No dialect answers to the name. -/
  | unknownDialect (name : String)
  /-- The text is not JSON. -/
  | notJson
  /-- The text is JSON, but not the written form of a statement. -/
  | notTree (fault : Fault)
deriving DecidableEq

/-- The message of an error.  A text that is no JSON and a JSON value of the
wrong shape have none: their cause says all there is to say. -/
def Error.message? : Error → Option String
  | unsupportedFeature feature dialect =>
      some ("Feature: " ++ feature.label ++
        " is not supported by dialect: " ++ dialect.name)
  | unsupportedConstruct construct dialect =>
      some ("Construct: " ++ construct.label ++ " has no syntax in dialect: " ++
        dialect.name)
  | missingField node field =>
      some ("Malformed " ++ node ++ " node: missing required field `" ++
        field ++ "`")
  | unknownDialect name => some ("Unknown database dialect: " ++ name)
  | notTree fault => fault.message?.map ("Invalid AST json: " ++ ·)
  | notJson => none

namespace Dialect

/-- Read the name of a dialect. -/
def parse (s : String) : Except Error Dialect :=
  match ofName? s with
  | some d => .ok d
  | none => .error (.unknownDialect s)

end Dialect

end SqlPrinter

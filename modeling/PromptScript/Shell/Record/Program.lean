import PromptScript.Pattern.Regular
import PromptScript.Shell.Record.Value

/-!
# Record programs

The programs of the tool that works on texts record by record: rules that say what is done with
which records, and functions.  Names stand for places: those that all parts of a program share, and
those of the function that runs.
-/

namespace PromptScript.Shell.Record

open Pattern (Regular)

/-- The place of a variable: one for the whole program, or one of the running function. -/
inductive Place where
  | shared (slot : Nat)
  | own (slot : Nat)
  deriving DecidableEq, Repr

/-- A calculation with two numbers. -/
inductive Calculation where
  | add
  | subtract
  | multiply
  | divide
  | remainder
  | power
  deriving DecidableEq, Repr

/-- The functions of the language. -/
inductive Builtin where
  | arctangent
  | close
  | cosine
  | exponential
  | flush
  | index
  | integer
  | length
  | logarithm
  | lower
  | matchPlace
  | random
  | seed
  | sine
  | split
  | format
  | root
  | substitute (isGlobal : Bool)
  | part
  | run
  | upper
  | time
  deriving DecidableEq, Repr

mutual

/-- An expression. -/
inductive Expr where
  | number (value : Float)
  | text (content : Octets)
  /-- A pattern: as a value it tells whether the record matches. -/
  | pattern (expression : Regular)
  | target (target : Target)
  | assign (target : Target) (change? : Option Calculation) (value : Expr)
  /-- Counts up or down; the value is the one before or the one after. -/
  | step (target : Target) (isUp isBefore : Bool)
  | calculate (calculation : Calculation) (left right : Expr)
  | positive (body : Expr)
  | negative (body : Expr)
  | not (body : Expr)
  | join (left right : Expr)
  | relate (relation : Relation) (left right : Expr)
  | matching (isNegated : Bool) (subject pattern : Expr)
  | both (left right : Expr)
  | either (left right : Expr)
  | choose (condition yes no : Expr)
  /-- Whether a list has a key. -/
  | contains (keys : List Expr) (list : Place)
  | call (function : Nat) (arguments : List Expr)
  | builtin (builtin : Builtin) (arguments : List Expr)
  /-- Reads a record. -/
  | fetch (origin : Origin) (target? : Option Target)

/-- What can be assigned to. -/
inductive Target where
  | scalar (place : Place)
  | field (index : Expr)
  | element (list : Place) (keys : List Expr)

/-- Where records are read from. -/
inductive Origin where
  | main
  | file (name : Expr)
  | command (command : Expr)

end

instance : Inhabited Expr := ⟨.number 0.0⟩

/-- Where a program writes to. -/
inductive Way where
  | replace
  | append
  | command
  deriving DecidableEq, Repr

/-- A statement. -/
inductive Statement where
  | expression (body : Expr)
  | print (arguments : List Expr) (output? : Option (Way × Expr))
  | format (arguments : List Expr) (output? : Option (Way × Expr))
  | conditional (condition : Expr) (yes : Statement) (no? : Option Statement)
  /-- A loop whose condition is tested before each round, or after it. -/
  | loop (testsFirst : Bool) (condition : Option Expr) (afterwards : Option Expr)
      (body : Statement)
  /-- Visits the keys of a list. -/
  | visit (place list : Place) (body : Statement)
  | block (statements : List Statement)
  | next
  | nextFile
  | exit (status? : Option Expr)
  | return (value? : Option Expr)
  | break
  | continue
  | delete (list : Place) (keys : List Expr)
  | clear (list : Place)

instance : Inhabited Statement := ⟨.block []⟩

/-- Which records a rule is for. -/
inductive Condition where
  | always
  | holds (condition : Expr)
  /-- The records from one on up to another. -/
  | range (first last : Expr)

/-- A rule.  Where it says nothing else, the record is printed. -/
structure Rule where
  condition : Condition
  action? : Option Statement

/-- A function. -/
structure Function where
  name : Octets
  /-- For every parameter whether it is a list. -/
  parameters : List Bool := []
  body? : Option Statement := none
  deriving Inhabited

/-- A program. -/
structure Program where
  starts : List Statement := []
  rules : List Rule := []
  ends : List Statement := []
  functions : Array Function := #[]
  /-- The names of the shared places. -/
  names : Array Octets := #[]

/-! ## Places with a meaning -/

namespace Place

/-- The names of the places that the language uses itself. -/
def reserved : List String :=
  ["NR", "FNR", "NF", "FS", "OFS", "ORS", "RS", "SUBSEP", "RSTART", "RLENGTH", "FILENAME",
    "CONVFMT", "OFMT", "ARGC", "ENVIRON", "ARGV"]

/-- The number of records. -/
def recordCount : Nat := 0

/-- The number of records of the present file. -/
def fileRecordCount : Nat := 1

/-- The number of fields. -/
def fieldCount : Nat := 2

/-- What separates fields. -/
def fieldSeparator : Nat := 3

/-- What is written between fields. -/
def outputSeparator : Nat := 4

/-- What is written behind records. -/
def outputEnd : Nat := 5

/-- What separates records. -/
def recordSeparator : Nat := 6

/-- What stands between the parts of keys. -/
def keySeparator : Nat := 7

/-- Where the last match began. -/
def matchStart : Nat := 8

/-- How long the last match was. -/
def matchLength : Nat := 9

/-- The name of the present file. -/
def fileName : Nat := 10

/-- The format of numbers that become texts. -/
def numberFormat : Nat := 11

/-- The format of numbers that are printed. -/
def outputFormat : Nat := 12

/-- The number of arguments. -/
def argumentCount : Nat := 13

/-- The variables of the environment. -/
def environment : Nat := 14

/-- The arguments. -/
def arguments : Nat := 15

end Place

end PromptScript.Shell.Record

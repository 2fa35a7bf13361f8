import TableExchange.Text.Digits

/-!
# Column type codes

Drivers report the type of a column as a number. The table `TypeCode.names` lists the codes with a
name; a handful of classes decides what becomes of a column's values.
-/

namespace TableExchange

structure TypeCode where
  code : Int
  deriving DecidableEq, Repr

namespace TypeCode

def bit : TypeCode := ⟨-7⟩
def tinyInt : TypeCode := ⟨-6⟩
def smallInt : TypeCode := ⟨5⟩
def integer : TypeCode := ⟨4⟩
def bigInt : TypeCode := ⟨-5⟩
def float : TypeCode := ⟨6⟩
def real : TypeCode := ⟨7⟩
def double : TypeCode := ⟨8⟩
def numeric : TypeCode := ⟨2⟩
def decimal : TypeCode := ⟨3⟩
def char : TypeCode := ⟨1⟩
def varChar : TypeCode := ⟨12⟩
def longVarChar : TypeCode := ⟨-1⟩
def nChar : TypeCode := ⟨-15⟩
def nVarChar : TypeCode := ⟨-9⟩
def longNVarChar : TypeCode := ⟨-16⟩
def clob : TypeCode := ⟨2005⟩
def nClob : TypeCode := ⟨2011⟩
def date : TypeCode := ⟨91⟩
def time : TypeCode := ⟨92⟩
def timestamp : TypeCode := ⟨93⟩
def binary : TypeCode := ⟨-2⟩
def varBinary : TypeCode := ⟨-3⟩
def longVarBinary : TypeCode := ⟨-4⟩
def blob : TypeCode := ⟨2004⟩
def boolean : TypeCode := ⟨16⟩
def null : TypeCode := ⟨0⟩

def names : List (TypeCode × String) :=
  [(bit, "BIT"), (tinyInt, "TINYINT"), (smallInt, "SMALLINT"), (integer, "INTEGER"),
    (bigInt, "BIGINT"), (float, "FLOAT"), (real, "REAL"), (double, "DOUBLE"),
    (numeric, "NUMERIC"), (decimal, "DECIMAL"), (char, "CHAR"), (varChar, "VARCHAR"),
    (longVarChar, "LONGVARCHAR"), (nChar, "NCHAR"), (nVarChar, "NVARCHAR"),
    (longNVarChar, "LONGNVARCHAR"), (clob, "CLOB"), (nClob, "NCLOB"), (date, "DATE"),
    (time, "TIME"), (timestamp, "TIMESTAMP"), (binary, "BINARY"), (varBinary, "VARBINARY"),
    (longVarBinary, "LONGVARBINARY"), (blob, "BLOB"), (boolean, "BOOLEAN"), (null, "NULL")]

/-- The name of a code, or the number itself. -/
def label (c : TypeCode) : String :=
  match names.find? (·.1 = c) with
  | some (_, name) => name
  | none => "type code " ++ intText c.code

def isInteger (c : TypeCode) : Bool := c ∈ [bigInt, integer, smallInt, tinyInt]

/-- Decimals of a declared precision. -/
def isExactNumeric (c : TypeCode) : Bool := c ∈ [numeric, decimal]

/-- Floating-point numbers. -/
def isApproximateNumeric (c : TypeCode) : Bool := c ∈ [float, real, double]

/-- Text of bounded length, the only text that a table is split by. -/
def isCharacter (c : TypeCode) : Bool := c ∈ [char, nChar, varChar, longVarChar, nVarChar]

def isTextual (c : TypeCode) : Bool := c.isCharacter || c ∈ [longNVarChar, clob, nClob]

def isBinary (c : TypeCode) : Bool := c ∈ [binary, varBinary, longVarBinary, blob]

def isBoolean (c : TypeCode) : Bool := c ∈ [bit, boolean]

end TypeCode

end TableExchange

import RequiemDB.Idmef.Message

/-!
# Tables, rows and statements of the classic schema

Every table of the schema but the two message tables keys its rows by some of
`_parent_type`, `_message_ident`, `_parent0_index` to `_parent2_index` and
`_index`, and has that key as its primary key. The key columns are fields of
`Row`, the others a list of columns and cells in the order of the source. All
statements of the plugin select rows by their key columns alone.
-/

namespace RequiemDB

/-- The tables a message is spread over, `Requiem_Alert` and `Requiem_Heartbeat` included. -/
inductive Table where
  | alert | heartbeat | alertident | toolAlert | correlationAlert | overflowAlert | analyzer
  | classification | reference | source | target | file | fileAccess | fileAccessPermission
  | linkage | inode | checksum | impact | action | confidence | assessment | additionalData
  | createTime | detectTime | analyzerTime | node | address | user | userId | process
  | processArg | processEnv | service | webService | webServiceArg | snmpService
deriving DecidableEq

/-- The two tables whose rows the server numbers. -/
inductive MessageTable where
  | alert | heartbeat
deriving DecidableEq

def MessageTable.table : MessageTable → Table
  | .alert => .alert
  | .heartbeat => .heartbeat

/-- The letters of `_parent_type`. -/
inductive ParentType where
  | A | C | F | H | S | T
deriving DecidableEq

/-- The columns that are not part of a key. -/
inductive Column where
  | address | alertident | algorithm | analyzerid | arg | buffer | cMajorDevice | cMinorDevice
  | category | cgi | changeTime | changeTimeGmtoff | checksumKey | class_ | command
  | completion | confidence | contextEngineId | contextName | createTime
  | createTimeGmtoff | accessTime | accessTimeGmtoff | data | dataSize | decoy | description
  | diskSize | env | fileType | fstype | gmtoff | heartbeatInterval | httpMethod
  | ianaProtocolName | ianaProtocolNumber | ident | interface | ipVersion | location
  | majorDevice | manufacturer | meaning | messageProcessingModel | messageid | minorDevice
  | model | modifyTime | modifyTimeGmtoff | name | netmask | number | origin | ostype
  | osversion | path | permission | pid | port | portlist | program | protocol | rating
  | securityLevel | securityModel | securityName | severity | size | snmpOid | spoofed | text
  | time | tty | type | url | usec | value | version | vlanName | vlanNum
deriving DecidableEq

/--
The value of a cell, by the literal that writes it: `NULL`, a quoted string, a
decimal number, a number with six decimals, a timestamp, a binary string.
-/
inductive Cell where
  | null
  | text (value : String)
  | number (value : Int)
  | decimal (millionths : Int)
  | timestamp (sec : UInt32)
  | blob (value : List UInt8)
deriving DecidableEq

structure Row where
  table : Table
  parentType : Option ParentType
  messageIdent : Nat
  parents : List Int
  index : Option Int
  cells : List (Column × Cell)
deriving DecidableEq

/-- The cell of a column, NULL where the statement that wrote the row did not name it. -/
def Row.cell (row : Row) (column : Column) : Cell :=
  (row.cells.lookup column).getD .null

/-- How a statement tests `_message_ident`: `= ident` or `IN (ident, ...)`. -/
inductive IdentTest where
  | equal (ident : Nat)
  | among (idents : List Nat)
deriving DecidableEq

def IdentTest.Holds : IdentTest → Nat → Prop
  | .equal wanted, ident => ident = wanted
  | .among wanted, ident => ident ∈ wanted

instance : ∀ (test : IdentTest) (ident : Nat), Decidable (test.Holds ident)
  | .equal wanted, ident => inferInstanceAs (Decidable (ident = wanted))
  | .among wanted, ident => inferInstanceAs (Decidable (ident ∈ wanted))

/-- How a statement tests `_parent_type`: not at all, `= 'X'` or `!= 'X'`. -/
inductive ParentTypeTest where
  | any
  | is (parentType : ParentType)
  | isNot (parentType : ParentType)
deriving DecidableEq

def ParentTypeTest.Holds : ParentTypeTest → Option ParentType → Prop
  | .any, _ => True
  | .is wanted, some letter => letter = wanted
  | .isNot unwanted, some letter => letter ≠ unwanted
  | _, none => False

instance : ∀ (test : ParentTypeTest) (parentType : Option ParentType),
    Decidable (test.Holds parentType)
  | .any, _ => inferInstanceAs (Decidable True)
  | .is wanted, some letter => inferInstanceAs (Decidable (letter = wanted))
  | .isNot unwanted, some letter => inferInstanceAs (Decidable (letter ≠ unwanted))
  | .is _, none | .isNot _, none => inferInstanceAs (Decidable False)

/--
A query of the reader on one message: its parent letter, the values of all parent indexes of
the table and, for a listed table, `_index != -1 ORDER BY _index ASC`.
-/
structure Select where
  table : Table
  parentType : ParentTypeTest
  messageIdent : Nat
  parents : List Int
  listed : Bool
deriving DecidableEq

/-- The rows the `WHERE` clause of a query keeps. -/
def Select.Matches (query : Select) (row : Row) : Prop :=
  row.table = query.table ∧ query.parentType.Holds row.parentType ∧
    row.messageIdent = query.messageIdent ∧ row.parents = query.parents ∧
      (query.listed = true → row.index ≠ some (-1))

instance (query : Select) (row : Row) : Decidable (query.Matches row) :=
  inferInstanceAs (Decidable (_ ∧ _ ∧ _ ∧ _ ∧ _))

/-- One `DELETE FROM table WHERE _message_ident test AND _parent_type test`. -/
structure Delete where
  table : Table
  parentType : ParentTypeTest
  ident : IdentTest
deriving DecidableEq

def Delete.Matches (statement : Delete) (row : Row) : Prop :=
  row.table = statement.table ∧ statement.parentType.Holds row.parentType ∧
    statement.ident.Holds row.messageIdent

instance (statement : Delete) (row : Row) : Decidable (statement.Matches row) :=
  inferInstanceAs (Decidable (_ ∧ _ ∧ _))

end RequiemDB

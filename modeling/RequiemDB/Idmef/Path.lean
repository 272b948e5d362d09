import Mathlib.Data.List.Basic
import RequiemDB.Sql.Statement

/-!
# IDMEF paths

A path leads from a message class to one of its attributes, through classes; each
element of a list has an index of its own or stands for all of them. The classes
and their children are those of the IDMEF tree of librequiem, which names them
and compares paths by the names and indexes of their elements.
-/

namespace RequiemDB

inductive ClassId where
  | alert | heartbeat | analyzer | source | target | classification | reference | assessment
  | impact | action | confidence | additionalData | toolAlert | correlationAlert
  | overflowAlert | alertident | node | address | user | userId | process | service
  | webService | snmpService | file | fileAccess | linkage | inode | checksum
deriving DecidableEq

inductive ValueType where
  | int32 | uint8 | uint16 | uint32 | uint64 | float | string | time | data | enum | class_
deriving DecidableEq

/-- What a child of a class is: a value, or a class of its own. -/
inductive Content where
  | value (type : ValueType)
  | cls (id : ClassId)
deriving DecidableEq

/-- `idmef_path_get_value_type` of an element. -/
def Content.type : Content → ValueType
  | .value type => type
  | .cls _ => .class_

/-- `idmef_path_get_class` of an element. -/
def Content.classId : Content → Option ClassId
  | .value _ => none
  | .cls id => some id

/-- A child of a class, and whether the class has a list of it. -/
structure Child where
  content : Content
  listed : Bool
deriving DecidableEq

namespace Child

def string : Child := ⟨.value .string, false⟩
def enum : Child := ⟨.value .enum, false⟩
def time : Child := ⟨.value .time, false⟩
def data : Child := ⟨.value .data, false⟩
def int32 : Child := ⟨.value .int32, false⟩
def uint8 : Child := ⟨.value .uint8, false⟩
def uint16 : Child := ⟨.value .uint16, false⟩
def uint32 : Child := ⟨.value .uint32, false⟩
def uint64 : Child := ⟨.value .uint64, false⟩
def float : Child := ⟨.value .float, false⟩
def strings : Child := ⟨.value .string, true⟩
def one (id : ClassId) : Child := ⟨.cls id, false⟩
def many (id : ClassId) : Child := ⟨.cls id, true⟩

end Child

namespace ClassId

/-- `idmef_class_get_name`. -/
def name : ClassId → String
  | .alert => "alert"
  | .heartbeat => "heartbeat"
  | .analyzer => "analyzer"
  | .source => "source"
  | .target => "target"
  | .classification => "classification"
  | .reference => "reference"
  | .assessment => "assessment"
  | .impact => "impact"
  | .action => "action"
  | .confidence => "confidence"
  | .additionalData => "additional_data"
  | .toolAlert => "tool_alert"
  | .correlationAlert => "correlation_alert"
  | .overflowAlert => "overflow_alert"
  | .alertident => "alertident"
  | .node => "node"
  | .address => "address"
  | .user => "user"
  | .userId => "user_id"
  | .process => "process"
  | .service => "service"
  | .webService => "web_service"
  | .snmpService => "snmp_service"
  | .file => "file"
  | .fileAccess => "file_access"
  | .linkage => "linkage"
  | .inode => "inode"
  | .checksum => "checksum"

/-- The children of a class by name. -/
def children : ClassId → List (String × Child)
  | .alert => [("messageid", .string), ("analyzer", .many .analyzer), ("create_time", .time),
      ("classification", .one .classification), ("detect_time", .time), ("analyzer_time", .time),
      ("source", .many .source), ("target", .many .target), ("assessment", .one .assessment),
      ("additional_data", .many .additionalData), ("tool_alert", .one .toolAlert),
      ("correlation_alert", .one .correlationAlert), ("overflow_alert", .one .overflowAlert)]
  | .heartbeat => [("messageid", .string), ("analyzer", .many .analyzer), ("create_time", .time),
      ("analyzer_time", .time), ("heartbeat_interval", .uint32),
      ("additional_data", .many .additionalData)]
  | .analyzer => [("analyzerid", .string), ("name", .string), ("manufacturer", .string),
      ("model", .string), ("version", .string), ("class", .string), ("ostype", .string),
      ("osversion", .string), ("node", .one .node), ("process", .one .process)]
  | .source => [("ident", .string), ("spoofed", .enum), ("interface", .string),
      ("node", .one .node), ("user", .one .user), ("process", .one .process),
      ("service", .one .service)]
  | .target => [("ident", .string), ("decoy", .enum), ("interface", .string),
      ("node", .one .node), ("user", .one .user), ("process", .one .process),
      ("service", .one .service), ("file", .many .file)]
  | .classification => [("ident", .string), ("text", .string), ("reference", .many .reference)]
  | .reference => [("origin", .enum), ("name", .string), ("url", .string), ("meaning", .string)]
  | .assessment => [("impact", .one .impact), ("action", .many .action),
      ("confidence", .one .confidence)]
  | .impact => [("severity", .enum), ("completion", .enum), ("type", .enum),
      ("description", .string)]
  | .action => [("category", .enum), ("description", .string)]
  | .confidence => [("rating", .enum), ("confidence", .float)]
  | .additionalData => [("type", .enum), ("meaning", .string), ("data", .data)]
  | .toolAlert => [("name", .string), ("command", .string), ("alertident", .many .alertident)]
  | .correlationAlert => [("name", .string), ("alertident", .many .alertident)]
  | .overflowAlert => [("program", .string), ("size", .uint32), ("buffer", .data)]
  | .alertident => [("alertident", .string), ("analyzerid", .string)]
  | .node => [("ident", .string), ("category", .enum), ("location", .string), ("name", .string),
      ("address", .many .address)]
  | .address => [("ident", .string), ("category", .enum), ("vlan_name", .string),
      ("vlan_num", .int32), ("address", .string), ("netmask", .string)]
  | .user => [("ident", .string), ("category", .enum), ("user_id", .many .userId)]
  | .userId => [("ident", .string), ("type", .enum), ("name", .string), ("number", .uint32),
      ("tty", .string)]
  | .process => [("ident", .string), ("name", .string), ("pid", .uint32), ("path", .string),
      ("arg", .strings), ("env", .strings)]
  | .service => [("ident", .string), ("ip_version", .uint8), ("name", .string),
      ("port", .uint16), ("iana_protocol_number", .uint8), ("iana_protocol_name", .string),
      ("portlist", .string), ("protocol", .string), ("web_service", .one .webService),
      ("snmp_service", .one .snmpService)]
  | .webService => [("url", .string), ("cgi", .string), ("http_method", .string),
      ("arg", .strings)]
  | .snmpService => [("oid", .string), ("message_processing_model", .uint32),
      ("security_model", .uint32), ("security_name", .string), ("security_level", .uint32),
      ("context_name", .string), ("context_engine_id", .string), ("command", .string)]
  | .file => [("ident", .string), ("name", .string), ("path", .string), ("create_time", .time),
      ("modify_time", .time), ("access_time", .time), ("data_size", .uint64),
      ("disk_size", .uint64), ("file_access", .many .fileAccess), ("linkage", .many .linkage),
      ("inode", .one .inode), ("checksum", .many .checksum), ("category", .enum),
      ("fstype", .enum), ("file_type", .string)]
  | .fileAccess => [("user_id", .one .userId), ("permission", .strings)]
  | .linkage => [("category", .enum), ("name", .string), ("path", .string), ("file", .one .file)]
  | .inode => [("change_time", .time), ("number", .uint32), ("major_device", .uint32),
      ("minor_device", .uint32), ("c_major_device", .uint32), ("c_minor_device", .uint32)]
  | .checksum => [("value", .string), ("key", .string), ("algorithm", .enum)]

def child (id : ClassId) (name : String) : Option Child := id.children.lookup name

theorem mem_children_of_child {id : ClassId} {name : String} {child : Child}
    (isChild : id.child name = some child) : (name, child) ∈ id.children := by
  rcases List.lookup_eq_some_iff.mp isChild with ⟨before, after, split, _⟩
  simp [split]

end ClassId

def MessageTable.classId : MessageTable → ClassId
  | .alert => .alert
  | .heartbeat => .heartbeat

/--
The index of an element: `REQUIEM_ERROR_IDMEF_PATH_INDEX_FORBIDDEN` where the element is no
list, `REQUIEM_ERROR_IDMEF_PATH_INDEX_UNDEFINED` where it stands for the whole list, else
a number; -1 is the last element.
-/
inductive PathIndex where
  | forbidden
  | undefined
  | number (index : Int)
deriving DecidableEq

/-- An index is there for lists only. -/
def PathIndex.Fits : PathIndex → Bool → Prop
  | .forbidden, listed => listed = false
  | .undefined, listed => listed = true
  | .number index, listed => listed = true ∧ -1 ≤ index

instance : ∀ (index : PathIndex) (listed : Bool), Decidable (index.Fits listed)
  | .forbidden, listed => inferInstanceAs (Decidable (listed = false))
  | .undefined, listed => inferInstanceAs (Decidable (listed = true))
  | .number index, listed => inferInstanceAs (Decidable (listed = true ∧ -1 ≤ index))

theorem PathIndex.Fits.listed_eq {index : PathIndex} {listed : Bool} (fits : index.Fits listed) :
    listed = true ↔ index ≠ .forbidden := by
  cases index <;> simp_all [PathIndex.Fits]

structure PathElement where
  name : String
  index : PathIndex
  content : Content
deriving DecidableEq

/-- The elements lead from a class to a child of a child, and end at the first value. -/
def Follows : ClassId → List PathElement → Prop
  | _, [] => True
  | id, element :: rest =>
      (∃ child ∈ id.child element.name, child.content = element.content ∧
        element.index.Fits child.listed) ∧
      match element.content with
      | .value _ => rest = []
      | .cls next => Follows next rest

instance decidableFollows : ∀ (id : ClassId) (elements : List PathElement),
    Decidable (Follows id elements)
  | _, [] => inferInstanceAs (Decidable True)
  | _, element :: rest =>
      have : Decidable (match element.content with
          | .value _ => rest = []
          | .cls next => Follows next rest) :=
        match element.content with
        | .value _ => inferInstanceAs (Decidable (rest = []))
        | .cls next => decidableFollows next rest
      inferInstanceAs (Decidable (_ ∧ _))

/-- A path to something inside a message: its class, and at least one element below it. -/
structure IdmefPath where
  top : MessageTable
  below : List PathElement
  notEmpty : below ≠ []
  follows : Follows top.classId below
deriving DecidableEq

namespace IdmefPath

variable (path : IdmefPath)

def elements : List PathElement :=
  ⟨path.top.classId.name, .forbidden, .cls path.top.classId⟩ :: path.below

/-- `idmef_path_get_depth`. -/
def getDepth : Nat := path.elements.length

/-- `idmef_path_get_class`, nothing where the element is no class or the path has none there. -/
def getClass (depth : Nat) : Option ClassId :=
  (path.elements[depth]?).bind fun element => element.content.classId

/-- `idmef_path_get_name`. -/
def getName (depth : Nat) : String := (path.elements[depth]?).elim "" PathElement.name

/-- `idmef_path_get_index`. -/
def getIndex (depth : Nat) : PathIndex := (path.elements[depth]?).elim .forbidden PathElement.index

/-- `idmef_path_get_value_type`. -/
def getValueType (depth : Nat) : ValueType :=
  (path.elements[depth]?).elim .class_ fun element => element.content.type

/-- What librequiem compares of an element. -/
def key (element : PathElement) : String × PathIndex := (element.name, element.index)

/-- `idmef_path_compare` is 0. -/
def Same (other : IdmefPath) : Prop := path.elements.map key = other.elements.map key

/-- `idmef_path_ncompare` is 0. -/
def SameUpTo (other : IdmefPath) (depth : Nat) : Prop :=
  (path.elements.map key).take depth = (other.elements.map key).take depth

instance (other : IdmefPath) : Decidable (path.Same other) := inferInstanceAs (Decidable (_ = _))

instance (other : IdmefPath) (depth : Nat) : Decidable (path.SameUpTo other depth) :=
  inferInstanceAs (Decidable (_ = _))

/-- The name of the last element. -/
def leafName : String := path.getName (path.getDepth - 1)

/-- The class that the last element belongs to. -/
def parentClass : Option ClassId := path.getClass (path.getDepth - 2)

/-- The type of the last element. -/
def leafType : ValueType := path.getValueType (path.getDepth - 1)

/-- The index of the last element. -/
def leafIndex : PathIndex := path.getIndex (path.getDepth - 1)

end IdmefPath

namespace IdmefPath

variable {path other : IdmefPath}

theorem two_le_getDepth (path : IdmefPath) : 2 ≤ path.getDepth := by
  have notEmpty := List.length_pos_iff.mpr path.notEmpty
  simp only [getDepth, elements, List.length_cons]
  omega

theorem Same.upTo (same : path.Same other) (depth : Nat) : path.SameUpTo other depth :=
  congrArg (List.take depth) same

/-- Paths with the same first elements start with the same class. -/
theorem SameUpTo.top {depth : Nat} (same : path.SameUpTo other depth) (positive : 0 < depth) :
    path.top = other.top := by
  rcases depth with _ | depth
  · exact absurd positive (Nat.lt_irrefl 0)
  simp only [SameUpTo, elements, key, List.map_cons, List.take_succ_cons, List.cons.injEq,
    Prod.mk.injEq, and_true] at same
  have names := same.1
  cases isTop : path.top <;> cases isOther : other.top <;>
    simp [isTop, isOther, MessageTable.classId, ClassId.name] at names ⊢

end IdmefPath

/-- Elements below a class end in a child of the class before the last one. -/
theorem Follows.last {id : ClassId} {elements : List PathElement} (follows : Follows id elements)
    (notEmpty : elements ≠ []) {top : PathElement} (isTop : top.content = .cls id) :
    ∃ before parent leaf owner child, top :: elements = before ++ [parent, leaf] ∧
      parent.content = .cls owner ∧ owner.child leaf.name = some child ∧
        child.content = leaf.content ∧ leaf.index.Fits child.listed := by
  induction elements generalizing id top with
  | nil => exact absurd rfl notEmpty
  | cons element rest ih =>
      rcases follows with ⟨⟨child, isChild, content, fits⟩, later⟩
      rcases rest with _ | ⟨next, rest⟩
      · exact ⟨[], top, element, id, child, rfl, isTop, isChild, content, fits⟩
      · cases isContent : element.content with
        | value type => simp [isContent] at later
        | cls next =>
            simp only [isContent] at later
            rcases ih later (by simp) isContent with
              ⟨before, parent, leaf, owner, child, elements, found⟩
            exact ⟨top :: before, parent, leaf, owner, child, by rw [elements]; rfl, found⟩

/-- The last element of a path is a child of the class before it. -/
theorem IdmefPath.leaf_of_parent (path : IdmefPath) :
    ∃ owner child, path.parentClass = some owner ∧ owner.child path.leafName = some child ∧
      child.content.type = path.leafType ∧
        child.content.classId = path.getClass (path.getDepth - 1) ∧
          path.leafIndex.Fits child.listed := by
  rcases Follows.last path.follows path.notEmpty
      (rfl : (⟨path.top.classId.name, .forbidden, .cls path.top.classId⟩ : PathElement).content = _)
    with
    ⟨before, parent, leaf, owner, child, elements, isOwner, isChild, content, fits⟩
  have all : path.elements = before ++ [parent, leaf] := elements
  have depth : path.getDepth = before.length + 2 := by simp [getDepth, all]
  refine ⟨owner, child, ?_, ?_, ?_, ?_, ?_⟩
  · simp [parentClass, getClass, depth, all, isOwner, Content.classId]
  · simpa [leafName, getName, depth, all] using isChild
  · simp [leafType, getValueType, depth, all, content]
  · simp [getClass, depth, all, content]
  · simpa [leafIndex, getIndex, depth, all] using fits

/-- Elements below a class are determined by their names and indexes. -/
theorem Follows.take_eq {id : ClassId} {left right : List PathElement} (inLeft : Follows id left)
    (inRight : Follows id right) {count : Nat}
    (same : (left.map IdmefPath.key).take count = (right.map IdmefPath.key).take count) :
    left.take count = right.take count := by
  induction count generalizing id left right with
  | zero => rfl
  | succ count ih =>
      rcases left with _ | ⟨first, left⟩ <;> rcases right with _ | ⟨second, right⟩
      · rfl
      · simp at same
      · simp at same
      · simp only [List.map_cons, List.take_succ_cons, List.cons.injEq, IdmefPath.key,
          Prod.mk.injEq] at same
        rcases same with ⟨⟨sameName, sameIndex⟩, sameRest⟩
        rcases inLeft with ⟨⟨child, isChild, content, _⟩, laterLeft⟩
        rcases inRight with ⟨⟨other, isOther, otherContent, _⟩, laterRight⟩
        have isSame : child = other := by
          rw [sameName] at isChild
          exact Option.mem_unique isChild isOther
        have elements : first = second := by
          rcases first with ⟨name, index, _⟩
          rcases second with ⟨_, _, _⟩
          simp_all
        subst elements
        cases isContent : first.content with
        | value type =>
            simp only [isContent] at laterLeft laterRight
            rw [laterLeft, laterRight]
        | cls next =>
            simp only [isContent] at laterLeft laterRight
            rw [List.take_succ_cons, List.take_succ_cons, ih laterLeft laterRight sameRest]

/-- The classes that are found at the start of a path only. -/
def outerClasses : List Content :=
  [.cls .alert, .cls .heartbeat, .cls .toolAlert, .cls .correlationAlert]

/-- Below any class but an alert there are no outer classes. -/
theorem Follows.not_outer {id : ClassId} {elements : List PathElement}
    (follows : Follows id elements) (notAlert : id ≠ .alert) :
    ∀ element ∈ elements, element.content ∉ outerClasses := by
  have inside : ∀ id : ClassId, id ≠ .alert → ∀ entry ∈ id.children,
      entry.2.content ∉ outerClasses := by
    intro id
    cases id <;> decide
  induction elements generalizing id with
  | nil => simp
  | cons first rest ih =>
      rcases follows with ⟨⟨child, isChild, content, _⟩, later⟩
      have here := inside id notAlert _ (ClassId.mem_children_of_child isChild)
      rw [content] at here
      refine List.forall_mem_cons.mpr ⟨here, ?_⟩
      cases isContent : first.content with
      | value type =>
          simp only [isContent] at later
          simp [later]
      | cls next =>
          simp only [isContent] at later
          apply ih later
          rintro rfl
          exact here (by simp [isContent, outerClasses])

namespace IdmefPath

variable {path other : IdmefPath}

/-- The elements of two paths are the same where their names and indexes are. -/
theorem SameUpTo.take_elements {depth : Nat} (same : path.SameUpTo other depth) :
    path.elements.take depth = other.elements.take depth := by
  rcases depth with _ | depth
  · rfl
  have sameTop := same.top (Nat.succ_pos depth)
  simp only [SameUpTo, elements, List.map_cons, List.take_succ_cons, List.cons.injEq] at same
  rw [elements, elements, List.take_succ_cons, List.take_succ_cons, sameTop,
    Follows.take_eq path.follows (sameTop ▸ other.follows) same.2]

theorem Same.eq (same : path.Same other) : path = other := by
  have lengths : path.elements.length = other.elements.length := by
    simpa using congrArg List.length same
  have elementsEq : path.elements = other.elements := by
    have all := (same.upTo path.elements.length).take_elements
    rwa [List.take_length, lengths, List.take_length] at all
  have sameTop := (same.upTo 1).top Nat.one_pos
  rcases path with ⟨top, below, _, _⟩
  rcases other with ⟨otherTop, otherBelow, _, _⟩
  simp only [elements, List.cons.injEq] at elementsEq
  simp_all

/-- Behind the first element below a message no outer class is found. -/
theorem not_outer (path : IdmefPath) : ∀ element ∈ path.below.drop 1,
    element.content ∉ outerClasses := by
  have follows := path.follows
  cases isBelow : path.below with
  | nil => simp
  | cons first rest =>
      rw [isBelow] at follows
      rcases follows with ⟨⟨child, isChild, content, _⟩, later⟩
      cases isContent : first.content with
      | value type =>
          simp only [isContent] at later
          simp [later]
      | cls next =>
          simp only [isContent] at later
          apply later.not_outer
          rintro rfl
          have notAlert : ∀ entry ∈ path.top.classId.children, entry.2.content ≠ .cls .alert := by
            cases path.top <;> decide
          exact notAlert _ (ClassId.mem_children_of_child isChild) (content.trans isContent)

/-- An outer class before the last element is the message's own, or a kind of alert. -/
theorem outer_parentClass {owner : ClassId} (isOwner : path.parentClass = some owner)
    (outer : .cls owner ∈ outerClasses) :
    path.getDepth = 2 ∧ owner = path.top.classId ∨
      path.getDepth = 3 ∧ path.top = .alert ∧ owner ≠ .alert ∧ owner ≠ .heartbeat := by
  rcases Option.bind_eq_some_iff.mp isOwner with ⟨element, present, content⟩
  have isContent : element.content = .cls owner := by
    cases isContent : element.content <;> simp_all [Content.classId]
  have deep := path.two_le_getDepth
  rcases Nat.lt_or_ge 3 path.getDepth with deeper | short
  · have behind : path.getDepth - 2 = (1 + (path.getDepth - 4)) + 1 := by omega
    rw [elements, behind, List.getElem?_cons_succ, ← List.getElem?_drop] at present
    have notOuter := path.not_outer element (List.mem_of_getElem? present)
    rw [isContent] at notOuter
    exact absurd outer notOuter
  · rcases Nat.lt_or_ge 2 path.getDepth with three | two
    · right
      have isThree : path.getDepth = 3 := by omega
      have follows := path.follows
      cases isBelow : path.below with
      | nil => exact absurd isBelow path.notEmpty
      | cons first rest =>
          rw [isBelow] at follows
          rcases follows with ⟨⟨child, isChild, sameContent, _⟩, _⟩
          have isFirst : element = first := by
            simpa [elements, isThree, isBelow, eq_comm] using present
          have outerChild : ∀ entry ∈ path.top.classId.children,
              entry.2.content ∈ outerClasses → path.top = .alert ∧
                entry.2.content ≠ .cls .alert ∧ entry.2.content ≠ .cls .heartbeat := by
            cases path.top <;> decide
          have found := outerChild _ (ClassId.mem_children_of_child isChild)
          rw [sameContent, ← isFirst, isContent] at found
          rcases found outer with ⟨isAlert, notAlert, notHeartbeat⟩
          exact ⟨isThree, isAlert, fun same => notAlert (congrArg _ same),
            fun same => notHeartbeat (congrArg _ same)⟩
    · left
      have isTwo : path.getDepth = 2 := by omega
      refine ⟨isTwo, ?_⟩
      simp only [isTwo, elements, List.getElem?_cons_zero, Nat.sub_self, Option.some.injEq]
        at present
      simpa [← present, eq_comm] using isContent

end IdmefPath

/-- `alert.messageid` -/
def messageidPath : IdmefPath where
  top := .alert
  below := [⟨"messageid", .forbidden, .value .string⟩]
  notEmpty := by decide
  follows := by decide

end RequiemDB

import Mathlib.Logic.Basic

/-!
# Conditions with unknown truth values, and their text

Conditions over atomic comparisons with the three truth values of SQL, and a
parser for their text in which NOT binds before AND and AND before OR. The parser
reads one token at a time and keeps a frame for each open parenthesis.

The text of a larger condition is put together from parts without being parsed
again: `Conjunct` and `Conjunction` tell what a part adds to whatever frame it is
read in.
-/

namespace Lib

universe u

/-- The truth values of SQL. -/
inductive Truth where
  | holds | fails | unknown
deriving DecidableEq

namespace Truth

def not : Truth → Truth
  | .holds => .fails
  | .fails => .holds
  | .unknown => .unknown

def and : Truth → Truth → Truth
  | .fails, _ | _, .fails => .fails
  | .holds, .holds => .holds
  | _, _ => .unknown

def or : Truth → Truth → Truth
  | .holds, _ | _, .holds => .holds
  | .fails, .fails => .fails
  | _, _ => .unknown

/-- The truth value of a comparison without unknown operands. -/
def ofBool (value : Bool) : Truth := if value then .holds else .fails

/-- The conjunction of truth values. -/
def all : List Truth → Truth
  | [] => .holds
  | value :: values => value.and (all values)

@[simp]
theorem and_holds (value : Truth) : value.and .holds = value := by
  cases value <;> rfl

theorem and_assoc (left middle right : Truth) :
    (left.and middle).and right = left.and (middle.and right) := by
  cases left <;> cases middle <;> cases right <;> rfl

@[simp]
theorem and_eq_holds {left right : Truth} :
    left.and right = .holds ↔ left = .holds ∧ right = .holds := by
  cases left <;> cases right <;> decide

@[simp]
theorem or_eq_holds {left right : Truth} :
    left.or right = .holds ↔ left = .holds ∨ right = .holds := by
  cases left <;> cases right <;> decide

@[simp]
theorem not_eq_holds {value : Truth} : value.not = .holds ↔ value = .fails := by
  cases value <;> decide

@[simp]
theorem ofBool_eq_holds {value : Bool} : ofBool value = .holds ↔ value = true := by
  cases value <;> decide

@[simp]
theorem ofBool_eq_fails {value : Bool} : ofBool value = .fails ↔ value = false := by
  cases value <;> decide

theorem all_eq_holds {values : List Truth} :
    all values = .holds ↔ ∀ value ∈ values, value = .holds := by
  induction values with
  | nil => simp [all]
  | cons value values ih => simp [all, ih]

theorem ofBool_and (left right : Bool) :
    (ofBool left).and (ofBool right) = ofBool (left && right) := by
  cases left <;> cases right <;> rfl

/-- A conjunction of comparisons without unknown operands has a definite value. -/
theorem all_map_ofBool {α : Type u} (test : α → Bool) (values : List α) :
    all (values.map fun value => ofBool (test value)) = ofBool (values.all test) := by
  induction values with
  | nil => rfl
  | cons value values ih => rw [List.map_cons, all, ih, ofBool_and, List.all_cons]

end Truth

/-- A condition over atomic comparisons. -/
inductive Condition (α : Type u) where
  | atom (atom : α)
  | not (condition : Condition α)
  | and (left right : Condition α)
  | or (left right : Condition α)
deriving DecidableEq

/-- The tokens of the text of a condition. -/
inductive ConditionToken (α : Type u) where
  | lparen | rparen | and | or | not
  | atom (atom : α)
deriving DecidableEq

variable {α : Type u}

/-- The value of a condition under an assignment of truth values to the comparisons. -/
def Condition.eval (assignment : α → Truth) : Condition α → Truth
  | .atom comparison => assignment comparison
  | .not condition => (condition.eval assignment).not
  | .and left right => (left.eval assignment).and (right.eval assignment)
  | .or left right => (left.eval assignment).or (right.eval assignment)

/-- As many negations of a condition. -/
def Condition.negated : Nat → Condition α → Condition α
  | 0, condition => condition
  | negations + 1, condition => .not (condition.negated negations)

theorem negated_succ (negations : Nat) (condition : Condition α) :
    condition.negated (negations + 1) = (Condition.not condition).negated negations := by
  induction negations with
  | zero => rfl
  | succ negations ih => exact congrArg Condition.not ih

/--
What was read behind an open parenthesis: the condition in front of the last OR, the
conjunction in front of the last AND behind that, and the number of NOTs behind that.
-/
structure Frame (α : Type u) where
  disjunct : Option (Condition α)
  conjunct : Option (Condition α)
  negations : Nat

def Frame.empty : Frame α := ⟨none, none, 0⟩

/-- The condition with what stands in front of it. -/
def joinLeft (connect : Condition α → Condition α → Condition α) :
    Option (Condition α) → Condition α → Condition α
  | none, right => right
  | some left, right => connect left right

/-- The conjunction that ends with an operand, and the condition of the frame that ends with it. -/
def Frame.conjunction (frame : Frame α) (operand : Condition α) : Condition α :=
  joinLeft .and frame.conjunct operand

def Frame.whole (frame : Frame α) (operand : Condition α) : Condition α :=
  joinLeft .or frame.disjunct (frame.conjunction operand)

/-- The parser is in front of an operand or behind one; the outer frames wait for theirs. -/
inductive Reading (α : Type u) where
  | before (frame : Frame α) (outer : List (Frame α))
  | behind (frame : Frame α) (operand : Condition α) (outer : List (Frame α))

/-- The operand in front of which the NOTs of the frame stand. -/
def Reading.operand (frame : Frame α) (condition : Condition α) (outer : List (Frame α)) :
    Reading α :=
  .behind { frame with negations := 0 } (condition.negated frame.negations) outer

def Reading.next : Reading α → ConditionToken α → Option (Reading α)
  | .before frame outer, .lparen => some (.before .empty (frame :: outer))
  | .before frame outer, .not =>
      some (.before { frame with negations := frame.negations + 1 } outer)
  | .before frame outer, .atom atom => some (.operand frame (.atom atom) outer)
  | .before _ _, .rparen | .before _ _, .and | .before _ _, .or => none
  | .behind frame operand outer, .and =>
      some (.before ⟨frame.disjunct, some (frame.conjunction operand), 0⟩ outer)
  | .behind frame operand outer, .or => some (.before ⟨some (frame.whole operand), none, 0⟩ outer)
  | .behind frame operand (enclosing :: outer), .rparen =>
      some (.operand enclosing (frame.whole operand) outer)
  | .behind _ _ [], .rparen => none
  | .behind _ _ _, .lparen | .behind _ _ _, .not | .behind _ _ _, .atom _ => none

def Reading.run : List (ConditionToken α) → Reading α → Option (Reading α)
  | [], reading => some reading
  | token :: tokens, reading => (reading.next token).bind (run tokens)

/-- The condition that a text stands for, if it is one. -/
def parseCondition (tokens : List (ConditionToken α)) : Option (Condition α) :=
  match Reading.run tokens (.before .empty []) with
  | some (.behind frame operand []) => some (frame.whole operand)
  | _ => none

theorem run_append (first second : List (ConditionToken α)) (reading : Reading α) :
    Reading.run (first ++ second) reading =
      (Reading.run first reading).bind (Reading.run second) := by
  induction first generalizing reading with
  | nil => rfl
  | cons token tokens ih =>
      simp only [List.cons_append, Reading.run]
      cases reading.next token with
      | none => rfl
      | some next => exact ih next

section Eval

variable (assignment : α → Truth)

/-- The value of the conjunction behind the last OR. -/
def Frame.conjunctionValue (frame : Frame α) (value : Truth) : Truth :=
  frame.conjunct.elim value fun conjunct => (conjunct.eval assignment).and value

theorem eval_joinLeft_and (left : Option (Condition α)) (right : Condition α) :
    (joinLeft .and left right).eval assignment =
      left.elim (right.eval assignment) fun left =>
        (left.eval assignment).and (right.eval assignment) := by
  cases left <;> rfl

theorem eval_joinLeft_or (left : Option (Condition α)) (right : Condition α) :
    (joinLeft .or left right).eval assignment =
      left.elim (right.eval assignment) fun left =>
        (left.eval assignment).or (right.eval assignment) := by
  cases left <;> rfl

theorem eval_conjunction (frame : Frame α) (operand : Condition α) :
    (frame.conjunction operand).eval assignment =
      frame.conjunctionValue assignment (operand.eval assignment) :=
  eval_joinLeft_and assignment _ _

theorem eval_whole (frame : Frame α) (operand : Condition α) :
    (frame.whole operand).eval assignment =
      frame.disjunct.elim (frame.conjunctionValue assignment (operand.eval assignment))
        fun disjunct => (disjunct.eval assignment).or
          (frame.conjunctionValue assignment (operand.eval assignment)) := by
  rw [Frame.whole, eval_joinLeft_or, eval_conjunction]

end Eval

/-- The value of a condition under every assignment. -/
abbrev Meaning (α : Type u) := (α → Truth) → Truth

/-- A text that is read as one operand, behind any number of NOTs. -/
def Conjunct (tokens : List (ConditionToken α)) (meaning : Meaning α) : Prop :=
  ∀ frame outer, ∃ condition : Condition α,
    Reading.run tokens (.before frame outer) = some (.operand frame condition outer) ∧
      ∀ assignment, condition.eval assignment = meaning assignment

/-- A text that is read as operands with AND between them, behind no NOT. -/
def Conjunction (tokens : List (ConditionToken α)) (meaning : Meaning α) : Prop :=
  ∀ frame outer, frame.negations = 0 →
    ∃ conjunct operand,
      Reading.run tokens (.before frame outer) =
        some (.behind ⟨frame.disjunct, conjunct, 0⟩ operand outer) ∧
      ∀ assignment, (Frame.conjunctionValue assignment ⟨frame.disjunct, conjunct, 0⟩
        (operand.eval assignment)) = frame.conjunctionValue assignment (meaning assignment)

theorem Conjunct.atom (comparison : α) :
    Conjunct [.atom comparison] fun assignment => assignment comparison :=
  fun _ _ => ⟨.atom comparison, rfl, fun _ => rfl⟩

/-- NOT in front of an operand. -/
theorem Conjunct.not {tokens : List (ConditionToken α)} {meaning : Meaning α}
    (conjunct : Conjunct tokens meaning) :
    Conjunct (.not :: tokens) fun assignment => (meaning assignment).not := by
  intro frame outer
  rcases conjunct { frame with negations := frame.negations + 1 } outer with
    ⟨condition, reads, value⟩
  refine ⟨.not condition, reads.trans ?_, fun assignment => congrArg Truth.not (value assignment)⟩
  simp only [Reading.operand, negated_succ]

namespace Conjunction

variable {tokens first second : List (ConditionToken α)} {meaning left right : Meaning α}

theorem of_conjunct (conjunct : Conjunct tokens meaning) : Conjunction tokens meaning := by
  rintro ⟨disjunct, before, negations⟩ outer rfl
  rcases conjunct ⟨disjunct, before, 0⟩ outer with ⟨condition, reads, value⟩
  refine ⟨before, condition, reads, fun assignment => ?_⟩
  rw [value]

/-- Two conjunctions with AND between them. -/
theorem and (isLeft : Conjunction first left) (isRight : Conjunction second right) :
    Conjunction (first ++ .and :: second)
      fun assignment => (left assignment).and (right assignment) := by
  intro frame outer noNegation
  rcases isLeft frame outer noNegation with ⟨conjunct, operand, reads, value⟩
  rcases isRight ⟨frame.disjunct, some (Frame.conjunction ⟨frame.disjunct, conjunct, 0⟩ operand), 0⟩
    outer rfl with ⟨last, lastOperand, readsLast, valueLast⟩
  refine ⟨last, lastOperand, ?_, fun assignment => ?_⟩
  · rw [run_append, reads]
    exact readsLast
  · rw [valueLast assignment]
    have before := value assignment
    simp only [Frame.conjunctionValue] at before ⊢
    rw [Option.elim_some, eval_conjunction, Frame.conjunctionValue]
    rw [before]
    cases frame.conjunct with
    | none => rfl
    | some conjunct => exact Truth.and_assoc _ _ _

/-- What a conjunction is read as behind an opening parenthesis. -/
theorem reads_whole (isConjunction : Conjunction tokens meaning) (disjunct : Option (Condition α))
    (outer : List (Frame α)) :
    ∃ frame operand, Reading.run tokens (.before ⟨disjunct, none, 0⟩ outer) =
        some (.behind frame operand outer) ∧
      ∀ assignment, (frame.whole operand).eval assignment =
        disjunct.elim (meaning assignment) fun disjunct =>
          (disjunct.eval assignment).or (meaning assignment) := by
  rcases isConjunction ⟨disjunct, none, 0⟩ outer rfl with ⟨conjunct, operand, reads, value⟩
  refine ⟨_, operand, reads, fun assignment => ?_⟩
  rw [eval_whole, value assignment]
  rfl

/-- A conjunction in parentheses is one operand. -/
theorem parens (isConjunction : Conjunction tokens meaning) :
    Conjunct (.lparen :: (tokens ++ [.rparen])) meaning := by
  intro frame outer
  rcases isConjunction.reads_whole none (frame :: outer) with ⟨inner, operand, reads, value⟩
  refine ⟨inner.whole operand, ?_, value⟩
  have behind : Reading.run tokens (.before .empty (frame :: outer)) =
      some (.behind inner operand (frame :: outer)) := reads
  rw [Reading.run, Reading.next, Option.bind_some, run_append, behind]
  rfl

/-- Two conjunctions with OR between them, in parentheses, are one operand. -/
theorem orParens (isLeft : Conjunction first left) (isRight : Conjunction second right) :
    Conjunct (.lparen :: (first ++ .or :: (second ++ [.rparen])))
      fun assignment => (left assignment).or (right assignment) := by
  intro frame outer
  rcases isLeft.reads_whole none (frame :: outer) with ⟨inner, operand, reads, value⟩
  rcases isRight.reads_whole (some (inner.whole operand)) (frame :: outer) with
    ⟨last, lastOperand, readsLast, valueLast⟩
  refine ⟨last.whole lastOperand, ?_, fun assignment => ?_⟩
  · have behind : Reading.run first (.before .empty (frame :: outer)) =
        some (.behind inner operand (frame :: outer)) := reads
    rw [Reading.run, Reading.next, Option.bind_some, run_append, behind, Option.bind_some,
      Reading.run, Reading.next, Option.bind_some, run_append, readsLast]
    rfl
  · rw [valueLast, Option.elim_some, value]
    rfl

/-- The text of a conjunction is a condition with its meaning. -/
theorem parse (isConjunction : Conjunction tokens meaning) :
    ∃ condition, parseCondition tokens = some condition ∧
      ∀ assignment, condition.eval assignment = meaning assignment := by
  rcases isConjunction.reads_whole none [] with ⟨frame, operand, reads, value⟩
  refine ⟨frame.whole operand, ?_, value⟩
  rw [parseCondition, show (Frame.empty : Frame α) = ⟨none, none, 0⟩ from rfl, reads]

end Conjunction

/-- A text that ends in front of an operand, or is no part of a condition. -/
def Hollow (tokens : List (ConditionToken α)) : Prop :=
  ∀ frame outer, Reading.run tokens (.before frame outer) = none ∨
    ∃ later enclosing, Reading.run tokens (.before frame outer) = some (.before later enclosing)

namespace Hollow

variable {tokens first second : List (ConditionToken α)}

theorem nil : Hollow ([] : List (ConditionToken α)) :=
  fun frame outer => .inr ⟨frame, outer, rfl⟩

/-- Behind AND, OR or a closing parenthesis nothing makes up for the operand that is missing. -/
theorem not_read (hollow : Hollow tokens) {token : ConditionToken α}
    (needsOperand : token = .and ∨ token = .or ∨ token = .rparen) (rest : List (ConditionToken α))
    (frame : Frame α) (outer : List (Frame α)) :
    Reading.run (tokens ++ token :: rest) (.before frame outer) = none := by
  rw [run_append]
  rcases hollow frame outer with failed | ⟨later, enclosing, reads⟩
  · rw [failed]
    rfl
  · rw [reads]
    rcases needsOperand with rfl | rfl | rfl <;> rfl

theorem append (hollow : Hollow tokens) {token : ConditionToken α}
    (needsOperand : token = .and ∨ token = .or ∨ token = .rparen)
    (rest : List (ConditionToken α)) : Hollow (tokens ++ token :: rest) :=
  fun frame outer => .inl (hollow.not_read needsOperand rest frame outer)

/-- Parentheses and NOT stand in front of an operand. -/
theorem cons (hollow : Hollow tokens) {token : ConditionToken α}
    (opens : token = .lparen ∨ token = .not) : Hollow (token :: tokens) := by
  intro frame outer
  rcases opens with rfl | rfl
  · exact hollow .empty (frame :: outer)
  · exact hollow { frame with negations := frame.negations + 1 } outer

/-- An operand is missing behind AND or OR, whatever stands in front of it. -/
theorem connect (hollow : Hollow second) {token : ConditionToken α}
    (connects : token = .and ∨ token = .or) (first : List (ConditionToken α)) :
    Hollow (first ++ token :: second) := by
  intro frame outer
  rw [run_append]
  cases Reading.run first (.before frame outer) with
  | none => exact .inl rfl
  | some reading =>
      cases reading with
      | before later enclosing => rcases connects with rfl | rfl <;> exact .inl rfl
      | behind later operand enclosing => rcases connects with rfl | rfl <;> exact hollow _ _

theorem parse (hollow : Hollow tokens) : parseCondition tokens = none := by
  rw [parseCondition]
  rcases hollow .empty [] with failed | ⟨later, enclosing, reads⟩
  · rw [failed]
  · rw [reads]

end Hollow

section Map

universe v

variable {β : Type v} (rename : α → β)

/-- The token with its comparison renamed. -/
def ConditionToken.map : ConditionToken α → ConditionToken β
  | .lparen => .lparen
  | .rparen => .rparen
  | .and => .and
  | .or => .or
  | .not => .not
  | .atom comparison => .atom (rename comparison)

def Condition.map : Condition α → Condition β
  | .atom comparison => .atom (rename comparison)
  | .not condition => .not condition.map
  | .and left right => .and left.map right.map
  | .or left right => .or left.map right.map

def Frame.map (frame : Frame α) : Frame β where
  disjunct := frame.disjunct.map (Condition.map rename)
  conjunct := frame.conjunct.map (Condition.map rename)
  negations := frame.negations

def Reading.map : Reading α → Reading β
  | .before frame outer => .before (frame.map rename) (outer.map (Frame.map rename))
  | .behind frame operand outer =>
      .behind (frame.map rename) (operand.map rename) (outer.map (Frame.map rename))

theorem Condition.eval_map (assignment : β → Truth) (condition : Condition α) :
    (condition.map rename).eval assignment =
      condition.eval fun comparison => assignment (rename comparison) := by
  induction condition with
  | atom comparison => rfl
  | not condition ih => rw [Condition.map, Condition.eval, ih, Condition.eval]
  | and left right left_ih right_ih =>
      rw [Condition.map, Condition.eval, left_ih, right_ih, Condition.eval]
  | or left right left_ih right_ih =>
      rw [Condition.map, Condition.eval, left_ih, right_ih, Condition.eval]

theorem Condition.map_negated (negations : Nat) (condition : Condition α) :
    (condition.negated negations).map rename = (condition.map rename).negated negations := by
  induction negations with
  | zero => rfl
  | succ negations ih => rw [Condition.negated, Condition.map, ih, Condition.negated]

theorem Frame.map_conjunction (frame : Frame α) (operand : Condition α) :
    (frame.conjunction operand).map rename =
      (frame.map rename).conjunction (operand.map rename) := by
  rcases frame with ⟨_, _ | _, _⟩ <;> rfl

theorem Frame.map_whole (frame : Frame α) (operand : Condition α) :
    (frame.whole operand).map rename = (frame.map rename).whole (operand.map rename) := by
  have conjunction := frame.map_conjunction rename operand
  rcases frame with ⟨_ | _, _, _⟩
  · exact conjunction
  · exact congrArg (Condition.or _) conjunction

theorem Reading.map_operand (frame : Frame α) (condition : Condition α) (outer : List (Frame α)) :
    (Reading.operand frame condition outer).map rename =
      .operand (frame.map rename) (condition.map rename) (outer.map (Frame.map rename)) := by
  rw [Reading.operand, Reading.map, Condition.map_negated]
  rfl

theorem Reading.next_map (reading : Reading α) (token : ConditionToken α) :
    (reading.map rename).next (token.map rename) =
      (reading.next token).map (Reading.map rename) := by
  cases reading with
  | before frame outer =>
      cases token with
      | atom comparison =>
          exact congrArg some (Reading.map_operand rename frame (.atom comparison) outer).symm
      | _ => rfl
  | behind frame operand outer =>
      cases token with
      | and =>
          simp only [Reading.map, ConditionToken.map, Reading.next, Option.map_some, Frame.map,
            Frame.map_conjunction]
      | or =>
          simp only [Reading.map, ConditionToken.map, Reading.next, Option.map_some, Frame.map,
            Frame.map_whole]
          rfl
      | rparen =>
          cases outer with
          | nil => rfl
          | cons enclosing outer =>
              refine congrArg some (Eq.trans ?_
                (Reading.map_operand rename enclosing (frame.whole operand) outer).symm)
              rw [Frame.map_whole]
      | _ => rfl

theorem Reading.run_map (tokens : List (ConditionToken α)) (reading : Reading α) :
    Reading.run (tokens.map (ConditionToken.map rename)) (reading.map rename) =
      (Reading.run tokens reading).map (Reading.map rename) := by
  induction tokens generalizing reading with
  | nil => rfl
  | cons token tokens ih =>
      rw [List.map_cons, Reading.run, Reading.run, Reading.next_map]
      cases reading.next token with
      | none => rfl
      | some next => exact ih next

/-- The parser does not look at the comparisons. -/
theorem parseCondition_map (tokens : List (ConditionToken α)) :
    parseCondition (tokens.map (ConditionToken.map rename)) =
      (parseCondition tokens).map (Condition.map rename) := by
  have start : (Reading.before .empty [] : Reading α).map rename = .before .empty [] := rfl
  rw [parseCondition, parseCondition, ← start, Reading.run_map]
  cases Reading.run tokens (.before .empty []) with
  | none => rfl
  | some reading =>
      cases reading with
      | before frame outer => rfl
      | behind frame operand outer =>
          cases outer with
          | nil => exact congrArg some (frame.map_whole rename operand).symm
          | cons enclosing outer => rfl

end Map

section Run

/--
The value of a condition that is evaluated from the left, and no further than its value asks
for. The evaluation of a comparison may end with an error, which ends the whole.
-/
def Condition.run (assignment : α → Option Truth) : Condition α → Option Truth
  | .atom comparison => assignment comparison
  | .not condition => (condition.run assignment).map Truth.not
  | .and left right =>
      (left.run assignment).bind fun value =>
        if value = .fails then some .fails else (right.run assignment).map value.and
  | .or left right =>
      (left.run assignment).bind fun value =>
        if value = .holds then some .holds else (right.run assignment).map value.or

/-- Where no comparison ends with an error, the value is that of the condition. -/
theorem Condition.run_some (assignment : α → Truth) (condition : Condition α) :
    condition.run (fun comparison => some (assignment comparison)) =
      some (condition.eval assignment) := by
  induction condition with
  | atom comparison => rfl
  | not condition ih => rw [Condition.run, ih, Condition.eval, Option.map_some]
  | and left right left_ih right_ih =>
      rw [Condition.run, left_ih, right_ih, Condition.eval, Option.bind_some, Option.map_some]
      cases left.eval assignment <;> simp [Truth.and]
  | or left right left_ih right_ih =>
      rw [Condition.run, left_ih, right_ih, Condition.eval, Option.bind_some, Option.map_some]
      cases left.eval assignment <;> simp [Truth.or]

theorem Condition.run_map {β : Type*} (rename : α → β) (assignment : β → Option Truth)
    (condition : Condition α) :
    (condition.map rename).run assignment =
      condition.run fun comparison => assignment (rename comparison) := by
  induction condition with
  | atom comparison => rfl
  | not condition ih => rw [Condition.map, Condition.run, ih, Condition.run]
  | and left right left_ih right_ih =>
      rw [Condition.map, Condition.run, left_ih, right_ih, Condition.run]
  | or left right left_ih right_ih =>
      rw [Condition.map, Condition.run, left_ih, right_ih, Condition.run]

/-- What a text says when it is evaluated, if it is a condition and no error ends it. -/
def runText (assignment : α → Option Truth) (tokens : List (ConditionToken α)) : Option Truth :=
  (parseCondition tokens).bind (Condition.run assignment)

/-- A text is evaluated by means of its own comparisons. -/
theorem runText_congr {assignment other : α → Option Truth} {tokens : List (ConditionToken α)}
    (same : ∀ comparison, .atom comparison ∈ tokens → assignment comparison = other comparison) :
    runText assignment tokens = runText other tokens := by
  have renamed : ∀ assignment : α → Option Truth, runText assignment tokens =
      (parseCondition (tokens.map (ConditionToken.map assignment))).bind (Condition.run id) := by
    intro assignment
    rw [runText, parseCondition_map, Option.bind_map]
    refine congrArg _ (funext fun condition => ?_)
    exact (condition.run_map assignment id).symm
  rw [renamed, renamed]
  congr 2
  apply List.map_congr_left
  intro token present
  cases token with
  | atom comparison => exact congrArg _ (same comparison present)
  | _ => rfl

end Run

end Lib

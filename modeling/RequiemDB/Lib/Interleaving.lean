import Mathlib.Logic.Function.Basic
import RequiemDB.Lib.Program

/-!
# Clients that share a server

Any number of clients run programs, each with a part of the server's state of
its own beside the part that all share. An interleaving is a list of events: a
client that has finished calls its next program, or a client's pending operation
is served, with a choice (a fault, say) left to the event.

The rule of this module is a rely-guarantee rule. A program that keeps to the
guarantee for every answer its client may rely on keeps to it in any
interleaving, as long as each operation served meets a condition on the state in
which it is served. What a client knows of the shared state has to be stable: no
operation of another client takes it back.
-/

namespace Lib

universe u

variable {Op Local Shared Call Choice α Client : Type u} {Reply : Op → Type u}

namespace Program

section Keeps

variable (rely : (op : Op) → Local → Reply op → Local → Prop) (guarantee : Op → Local → Prop)

/--
Every operation meets the guarantee, and the answer the postcondition, for all replies that
the client may rely on.
-/
def Keeps (post : α → Local → Prop) : Program Reply α → Local → Prop
  | .done answer, state => post answer state
  | .perform op next, state =>
      guarantee op state ∧ ∀ reply after, rely op state reply after →
        Keeps post (next reply) after

variable {rely guarantee}

theorem Keeps.bind {β : Type u} {program : Program Reply α} {rest : α → Program Reply β}
    {middle : α → Local → Prop} {post : β → Local → Prop} {state : Local}
    (first : program.Keeps rely guarantee middle state)
    (second : ∀ answer after, middle answer after → (rest answer).Keeps rely guarantee post after) :
    (program >>= rest).Keeps rely guarantee post state := by
  induction program generalizing state with
  | done answer => exact second answer state first
  | perform op next ih =>
      rcases first with ⟨here, later⟩
      exact ⟨here, fun reply after answered => ih reply (later reply after answered)⟩

/-- One operation that meets the guarantee ends with what its client relies on. -/
theorem Keeps.call {op : Op} {state : Local} (meets : guarantee op state) :
    (Program.call op).Keeps rely guarantee (rely op state) state :=
  ⟨meets, fun _ _ answered => answered⟩

end Keeps

end Program

/-- The programs of the clients, the state of each of them and the state they share. -/
structure Clients (Reply : Op → Type u) (α Client Local Shared : Type u) where
  programs : Client → Program Reply α
  states : Client → Local
  shared : Shared

/-- A client starts its next program, or the server answers its pending operation. -/
inductive Event (Client Call Choice : Type u) where
  | call (client : Client) (call : Call)
  | serve (client : Client) (choice : Choice)

namespace Clients

variable [DecidableEq Client]
  (program : Call → Program Reply α) (opening : Call → Local → Local)
  (serve : Choice → (op : Op) → Local → Shared → Reply op × Local × Shared)

/-- One event; a call by a client at work and a service of an idle one change nothing. -/
def next (clients : Clients Reply α Client Local Shared) :
    Event Client Call Choice → Clients Reply α Client Local Shared
  | .call client call =>
      match clients.programs client with
      | .done _ =>
          { clients with
            programs := Function.update clients.programs client (program call)
            states := Function.update clients.states client
              (opening call (clients.states client)) }
      | .perform _ _ => clients
  | .serve client choice =>
      match clients.programs client with
      | .done _ => clients
      | .perform op rest =>
          let (reply, state, shared) := serve choice op (clients.states client) clients.shared
          { programs := Function.update clients.programs client (rest reply)
            states := Function.update clients.states client state
            shared }

/-- The state behind an interleaving. -/
def after (clients : Clients Reply α Client Local Shared) :
    List (Event Client Call Choice) → Clients Reply α Client Local Shared
  | [] => clients
  | event :: events => (clients.next program opening serve event).after events

variable (allowed : Op → Local → Shared → Prop)

/-- The operation that an event serves meets the condition. -/
def Allows (clients : Clients Reply α Client Local Shared) : Event Client Call Choice → Prop
  | .call _ _ => True
  | .serve client _ =>
      match clients.programs client with
      | .done _ => True
      | .perform op _ => allowed op (clients.states client) clients.shared

/-- All operations served in an interleaving meet the condition. -/
def AllowsAll (clients : Clients Reply α Client Local Shared) :
    List (Event Client Call Choice) → Prop
  | [] => True
  | event :: events =>
      clients.Allows allowed event ∧ AllowsAll (clients.next program opening serve event) events

theorem allowsAll_true (clients : Clients Reply α Client Local Shared)
    (events : List (Event Client Call Choice)) :
    clients.AllowsAll program opening serve (fun _ _ _ => True) events := by
  induction events generalizing clients with
  | nil => trivial
  | cons event events ih =>
      refine ⟨?_, ih _⟩
      cases event with
      | call client call => trivial
      | serve client choice =>
          rw [Allows]
          split <;> trivial

section Decide

variable [∀ op state shared, Decidable (allowed op state shared)]

instance (clients : Clients Reply α Client Local Shared) :
    ∀ event : Event Client Call Choice, Decidable (clients.Allows allowed event)
  | .call _ _ => inferInstanceAs (Decidable True)
  | .serve client _ =>
      match pending : clients.programs client with
      | .done _ => decidable_of_iff True (by simp only [Allows, pending])
      | .perform op _ =>
          decidable_of_iff (allowed op (clients.states client) clients.shared)
            (by simp only [Allows, pending])

instance decidableAllowsAll (clients : Clients Reply α Client Local Shared) :
    ∀ events : List (Event Client Call Choice),
      Decidable (clients.AllowsAll program opening serve allowed events)
  | [] => inferInstanceAs (Decidable True)
  | event :: events =>
      have := decidableAllowsAll (clients.next program opening serve event) events
      inferInstanceAs (Decidable (_ ∧ _))

end Decide

/-- Every client keeps to the guarantee from where it is, and all states meet their invariants. -/
structure Well (rely : (op : Op) → Local → Reply op → Local → Prop)
    (guarantee : Op → Local → Prop) (own : Local → Shared → Prop) (common : Shared → Prop)
    (clients : Clients Reply α Client Local Shared) : Prop where
  keeps : ∀ client, (clients.programs client).Keeps rely guarantee (fun _ _ => True)
    (clients.states client)
  states : ∀ client, own (clients.states client) clients.shared
  shared : common clients.shared

/-- What the server owes to a client that keeps to the guarantee, when the condition is met. -/
structure Serves (rely : (op : Op) → Local → Reply op → Local → Prop)
    (guarantee : Op → Local → Prop) (own : Local → Shared → Prop) (common : Shared → Prop) :
    Prop where
  answers : ∀ choice op state shared, allowed op state shared →
    guarantee op state → own state shared →
      rely op state (serve choice op state shared).1 (serve choice op state shared).2.1
  states : ∀ choice op state shared, guarantee op state → own state shared → common shared →
    own (serve choice op state shared).2.1 (serve choice op state shared).2.2
  stable : ∀ choice op state shared, guarantee op state → own state shared →
    ∀ other, own other shared → own other (serve choice op state shared).2.2
  shared : ∀ choice op state shared, guarantee op state → own state shared → common shared →
    common (serve choice op state shared).2.2

/-- A call starts a program that keeps to the guarantee, and leaves the client's invariant alone. -/
structure Opens (rely : (op : Op) → Local → Reply op → Local → Prop)
    (guarantee : Op → Local → Prop) (own : Local → Shared → Prop) : Prop where
  keeps : ∀ call state,
    (program call).Keeps rely guarantee (fun _ _ => True) (opening call state)
  states : ∀ call state shared, own state shared → own (opening call state) shared

variable {program opening serve allowed} {rely : (op : Op) → Local → Reply op → Local → Prop}
  {guarantee : Op → Local → Prop} {own : Local → Shared → Prop} {common : Shared → Prop}

theorem Well.next (serves : Serves serve allowed rely guarantee own common)
    (opens : Opens program opening rely guarantee own)
    {clients : Clients Reply α Client Local Shared}
    (well : clients.Well rely guarantee own common) {event : Event Client Call Choice}
    (allows : clients.Allows allowed event) :
    (clients.next program opening serve event).Well rely guarantee own common := by
  cases event with
  | call client call =>
      cases pending : clients.programs client with
      | done answer =>
          simp only [Clients.next, pending]
          refine ⟨fun other => ?_, fun other => ?_, well.shared⟩
          · rcases eq_or_ne other client with rfl | different
            · simpa using opens.keeps call _
            · simpa [different] using well.keeps other
          · rcases eq_or_ne other client with rfl | different
            · simpa using opens.states call _ _ (well.states other)
            · simpa [different] using well.states other
      | perform op rest =>
          simpa only [Clients.next, pending] using well
  | serve client choice =>
      cases pending : clients.programs client with
      | done answer => simpa only [Clients.next, pending] using well
      | perform op rest =>
          have keeps := well.keeps client
          rw [pending] at keeps
          rcases keeps with ⟨here, later⟩
          have isOwn := well.states client
          simp only [Clients.Allows, pending] at allows
          simp only [Clients.next, pending]
          refine ⟨fun other => ?_, fun other => ?_, ?_⟩
          · rcases eq_or_ne other client with rfl | different
            · simpa using later _ _ (serves.answers choice op _ _ allows here isOwn)
            · simpa [different] using well.keeps other
          · rcases eq_or_ne other client with rfl | different
            · simpa using serves.states choice op _ _ here isOwn well.shared
            · simpa [different] using
                serves.stable choice op _ _ here isOwn _ (well.states other)
          · exact serves.shared choice op _ _ here isOwn well.shared

/-- The rely-guarantee rule: it holds behind every interleaving that meets the condition. -/
theorem Well.after (serves : Serves serve allowed rely guarantee own common)
    (opens : Opens program opening rely guarantee own)
    {clients : Clients Reply α Client Local Shared}
    (well : clients.Well rely guarantee own common) {events : List (Event Client Call Choice)}
    (allows : clients.AllowsAll program opening serve allowed events) :
    (clients.after program opening serve events).Well rely guarantee own common := by
  induction events generalizing clients with
  | nil => exact well
  | cons event events ih =>
      rcases allows with ⟨here, later⟩
      exact ih (well.next serves opens here) later

end Clients

end Lib

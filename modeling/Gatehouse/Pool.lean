import Gatehouse.Operation

/-! Operations that run side by side. They share one state and take turns: an operation keeps its
    turn until it ends or waits for a reply. A course of events is a list of moves, each of which
    starts an operation or lets the reply to a waiting one come in; so the lists of moves are all
    the courses that there are. -/

namespace Gatehouse

/-- How far an operation has come. -/
inductive Stage where
  | over (result : Except Fault Value)
  | waiting (request : Request) (resume : Reply → State → Progress State (Except Fault Value))

/-- The operations that were started, in their order, and the state that they share. -/
structure Pool where
  state : State
  stages : List Stage

/-- What happens next. -/
inductive Move where
  | start (op : Operation)
  | reply (index : Nat) (r : Reply)

namespace Pool

/-- The state and the stage that progress amounts to. -/
def split : Progress State (Except Fault Value) → State × Stage
  | .ended s result => (s, .over result)
  | .waits s request resume => (s, .waiting request resume)

/-- The pool after an operation made its first steps. -/
def start (setup : Setup) (p : Pool) (op : Operation) : Pool :=
  let (state, stage) := split (op.run setup p.state)
  ⟨state, p.stages ++ [stage]⟩

/-- The pool after a reply came in. Nobody but a waiting operation takes notice of one. -/
def reply (p : Pool) (index : Nat) (r : Reply) : Pool :=
  match p.stages[index]? with
  | some (.waiting _ resume) =>
    let (state, stage) := split (resume r p.state)
    ⟨state, p.stages.set index stage⟩
  | _ => p

/-- The pool after a move. -/
def step (setup : Setup) (p : Pool) : Move → Pool
  | .start op => p.start setup op
  | .reply index r => p.reply index r

/-- The pool after a course of events. -/
def run (setup : Setup) (p : Pool) (moves : List Move) : Pool := moves.foldl (step setup) p

/-- The request that an operation waits for, if it waits. -/
def request? (p : Pool) (index : Nat) : Option Request :=
  match p.stages[index]? with
  | some (.waiting request _) => some request
  | _ => none

/-- The result of an operation, if it is over. -/
def result? (p : Pool) (index : Nat) : Option (Except Fault Value) :=
  match p.stages[index]? with
  | some (.over result) => some result
  | _ => none

end Pool

end Gatehouse

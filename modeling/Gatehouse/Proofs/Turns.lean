import Gatehouse.Pool
import Gatehouse.Proofs.Course
import Mathlib.Data.List.Induction

/-! Turns of operations that run side by side. Each move that anyone takes notice of is a turn of
    one operation: its first, or one that begins with the reply to the request that it has waited
    for since its last turn. So what holds of the turns of every operation on its own holds of all
    the moves in a course of events, in whatever order they come. -/

namespace Gatehouse

/-- The operations that moves start, in their order. -/
def Move.operations (moves : List Move) : List Operation :=
  moves.filterMap fun
    | .start op => some op
    | .reply .. => none

@[simp] theorem Move.operations_nil : operations [] = [] := rfl

@[simp] theorem Move.operations_append (xs ys : List Move) :
    operations (xs ++ ys) = operations xs ++ operations ys := List.filterMap_append

@[simp] theorem Move.operations_start (op : Operation) : operations [.start op] = [op] := rfl

@[simp] theorem Move.operations_reply (i : Nat) (r : Reply) : operations [.reply i r] = [] := rfl

/-- An operation keeps its number while more operations are started. -/
theorem Move.operations_of_prefix {done moves : List Move} (h : done <+: moves) {i : Nat}
    {op : Operation} (hop : (operations done)[i]? = some op) :
    (operations moves)[i]? = some op := by
  obtain ⟨rest, rfl⟩ := h
  rwa [operations_append, List.getElem?_append_left (List.getElem?_eq_some_iff.1 hop).1]

namespace Pool

/-- The pool before anything was started. -/
def fresh (s : State) : Pool := ⟨s, []⟩

/-- Whether a move is a turn of an operation if it comes next. -/
def IsTurn (p : Pool) (i : Nat) : Move → Prop
  | .start _ => p.stages.length = i
  | .reply j _ => j = i

variable (setup : Setup) (p : Pool)

/-- The operation waits for the reply to a request. It made the request in its last turn, at the end
    of which the state was `s`. -/
def Waits (done : List Move) (i : Nat) (s : State) (request : Request) : Prop :=
  ∃ before move between, done = before ++ move :: between ∧ (p.run setup before).IsTurn i move ∧
    (∀ r, .reply i r ∉ between) ∧ (p.run setup (before ++ [move])).state = s ∧
    (p.run setup (before ++ [move])).request? i = some request

/-- An exchange of an operation took place in a course of events. -/
def Exchanged (moves : List Move) (i : Nat) (x : Exchange State) : Prop :=
  ∃ done rest, moves = done ++ .reply i x.reply :: rest ∧ p.Waits setup done i x.asked x.request ∧
    (p.run setup done).state = x.resumed

variable {setup p}

theorem run_append (xs ys : List Move) :
    p.run setup (xs ++ ys) = (p.run setup xs).run setup ys := List.foldl_append

theorem run_concat (setup : Setup) (p : Pool) (done : List Move) (move : Move) :
    p.run setup (done ++ [move]) = (p.run setup done).step setup move := by
  rw [run_append]
  rfl

theorem Waits.start {done : List Move} {i : Nat} {s : State} {request : Request}
    (h : p.Waits setup done i s request) (op : Operation) :
    p.Waits setup (done ++ [.start op]) i s request := by
  obtain ⟨before, move, between, rfl, hturn, hbetween, hs, hq⟩ := h
  refine ⟨before, move, between ++ [.start op], by simp, hturn, fun r hr => ?_, hs, hq⟩
  rcases List.mem_append.1 hr with hr | hr
  · exact hbetween r hr
  · simp at hr

theorem Waits.reply {done : List Move} {i j : Nat} {s : State} {request : Request}
    (h : p.Waits setup done i s request) (hij : j ≠ i) (r : Reply) :
    p.Waits setup (done ++ [.reply j r]) i s request := by
  obtain ⟨before, move, between, rfl, hturn, hbetween, hs, hq⟩ := h
  refine ⟨before, move, between ++ [.reply j r], by simp, hturn, fun r hr => ?_, hs, hq⟩
  rcases List.mem_append.1 hr with hr | hr
  · exact hbetween r hr
  · obtain ⟨rfl, -⟩ : i = j ∧ _ := by simpa using hr
    exact hij rfl

/-- An operation that has just had its turn waits since then. -/
theorem Waits.now {done : List Move} {move : Move} {i : Nat} {s : State} {request : Request}
    (hturn : (p.run setup done).IsTurn i move) (hs : (p.run setup (done ++ [move])).state = s)
    (hq : (p.run setup (done ++ [move])).request? i = some request) :
    p.Waits setup (done ++ [move]) i s request :=
  ⟨done, move, [], rfl, hturn, by simp, hs, hq⟩

/-- The reply of an exchange is one of the replies that came in. -/
theorem Exchanged.mem {moves : List Move} {i : Nat} {x : Exchange State}
    (h : p.Exchanged setup moves i x) : .reply i x.reply ∈ moves := by
  obtain ⟨done, rest, rfl, -⟩ := h
  simp

/-- The state in which a request was made is one of the states that the course led through. -/
theorem Exchanged.exists_asked {i : Nat} {x : Exchange State} {moves : List Move}
    (h : p.Exchanged setup moves i x) :
    ∃ done, done <+: moves ∧ (p.run setup done).state = x.asked := by
  obtain ⟨_, rest, rfl, ⟨before, move, between, rfl, -, -, hs, -⟩, -⟩ := h
  exact ⟨before ++ [move], ⟨between ++ .reply i x.reply :: rest, by simp⟩, hs⟩

/-- So is the state in which its reply came in. -/
theorem Exchanged.exists_resumed {i : Nat} {x : Exchange State} {moves : List Move}
    (h : p.Exchanged setup moves i x) :
    ∃ done, done <+: moves ∧ (p.run setup done).state = x.resumed := by
  obtain ⟨done, rest, rfl, -, hs⟩ := h
  exact ⟨done, List.prefix_append done _, hs⟩

/-- When the reply comes in, the exchange has taken place. -/
theorem Waits.exchanged {done moves : List Move} {i : Nat} {s t : State} {request : Request}
    {r : Reply} (h : p.Waits setup done i s request) (hdone : done ++ [.reply i r] <+: moves)
    (ht : (p.run setup done).state = t) : p.Exchanged setup moves i ⟨s, request, r, t⟩ := by
  obtain ⟨rest, rfl⟩ := hdone
  exact ⟨done, rest, by simp, h, ht⟩

/-! ### What a move does -/

variable {moves : List Move} {R : Nat → Operation → Turn State → State → Prop}

theorem getElem?_start {op : Operation} {i : Nat} {stage : Stage}
    (h : (p.start setup op).stages[i]? = some stage) :
    p.stages[i]? = some stage ∨
      p.stages.length = i ∧ (split (op.run setup p.state)).2 = stage := by
  rcases Nat.lt_trichotomy i p.stages.length with hi | rfl | hi
  · left
    rwa [start, List.getElem?_append_left hi] at h
  · right
    refine ⟨rfl, ?_⟩
    rw [start, List.getElem?_concat_length] at h
    exact Option.some.inj h
  · have hlen : i < (p.start setup op).stages.length := (List.getElem?_eq_some_iff.1 h).1
    simp only [start, List.length_append, List.length_singleton] at hlen
    omega

/-- A reply goes to an operation that waits, or nothing happens. -/
theorem reply_cases (p : Pool) (i : Nat) (r : Reply) :
    (p.request? i = none ∧ p.reply i r = p) ∨
      ∃ request resume, p.stages[i]? = some (.waiting request resume) ∧
        p.request? i = some request ∧ p.reply i r =
          ⟨(resume r p.state).state, p.stages.set i (split (resume r p.state)).2⟩ := by
  rcases h : p.stages[i]? with _ | ⟨result⟩ | ⟨request, resume⟩
  · exact .inl ⟨by simp [request?, h], by simp [reply, h]⟩
  · exact .inl ⟨by simp [request?, h], by simp [reply, h]⟩
  · refine .inr ⟨request, resume, rfl, by simp [request?, h], ?_⟩
    simp only [reply, h]
    cases resume r p.state <;> rfl

theorem start_eq (p : Pool) (op : Operation) : p.start setup op =
    ⟨(op.run setup p.state).state, p.stages ++ [(split (op.run setup p.state)).2]⟩ := by
  rw [start]
  cases op.run setup p.state <;> rfl

/-- An operation that made a request in its turn waits for the reply to it. -/
theorem request?_of_stage {p : Pool} {i : Nat} {progress : Progress State (Except Fault Value)}
    {s : State} {request : Request} {resume : Reply → State → Progress State (Except Fault Value)}
    (h : p.stages[i]? = some (split progress).2) (hp : progress = .waits s request resume) :
    p.request? i = some request := by
  subst hp
  simp [request?, h, split]

/-- An operation has been led by exchanges that took place from where it began to where it is, and
    if it waits, it has waited since its last turn. -/
structure Led (setup : Setup) (p : Pool) (moves done : List Move) (i : Nat) (op : Operation)
    (begun : State) (xs : List (Exchange State))
    (progress : Progress State (Except Fault Value)) : Prop where
  number : (Move.operations done)[i]? = some op
  start : ∃ before, before <+: done ∧ (p.run setup before).state = begun
  leads : (op.run setup begun).Leads xs progress
  exchanged : ∀ x ∈ xs, p.Exchanged setup moves i x
  stage : (p.run setup done).stages[i]? = some (split progress).2
  waits : ∀ s request resume, progress = .waits s request resume → p.Waits setup done i s request

/-- All operations that were started have been led to where they are. -/
structure AllLed (setup : Setup) (p : Pool) (moves done : List Move) : Prop where
  length : (p.run setup done).stages.length = (Move.operations done).length
  led : ∀ i stage, (p.run setup done).stages[i]? = some stage →
    ∃ op before xs progress, before ++ [.start op] <+: done ∧
      Led setup p moves done i op (p.run setup before).state xs progress

/-- An operation whose turn it is not stays where it is. -/
theorem Led.stay {done : List Move} {i : Nat} {op : Operation} {begun : State}
    {xs : List (Exchange State)} {progress : Progress State (Except Fault Value)} {move : Move}
    (h : Led setup p moves done i op begun xs progress)
    (hstage : (p.run setup (done ++ [move])).stages[i]? = (p.run setup done).stages[i]?)
    (hwaits : ∀ s request, (p.run setup done).request? i = some request →
      p.Waits setup done i s request → p.Waits setup (done ++ [move]) i s request) :
    Led setup p moves (done ++ [move]) i op begun xs progress := by
  obtain ⟨before, hbefore, hbegun⟩ := h.start
  refine ⟨Move.operations_of_prefix (List.prefix_append done [move]) h.number,
    ⟨before, hbefore.trans (List.prefix_append done [move]), hbegun⟩, h.leads, h.exchanged,
    hstage.trans h.stage, fun s request resume hp => ?_⟩
  exact hwaits s request (request?_of_stage h.stage hp) (h.waits s request resume hp)

theorem AllLed.start {done : List Move} (h : AllLed setup p moves done) (op : Operation) :
    AllLed setup p moves (done ++ [.start op]) := by
  have hnext : p.run setup (done ++ [.start op]) = _ :=
    (run_concat setup p done (.start op)).trans (start_eq _ op)
  refine ⟨by simp [hnext, h.length], fun i stage hstage => ?_⟩
  have hcases := hstage
  rw [run_concat] at hcases
  rcases getElem?_start hcases with hold | ⟨rfl, rfl⟩
  · obtain ⟨mine, before, xs, progress, hbefore, hled⟩ := h.led i stage hold
    refine ⟨mine, before, xs, progress, hbefore.trans (List.prefix_append done _),
      hled.stay (hstage.trans hold.symm) ?_⟩
    exact fun s request _ hwaits => hwaits.start op
  · refine ⟨op, done, [], _, List.prefix_refl _, ?_, ⟨done, List.prefix_append done _, rfl⟩, .here,
      by simp, hstage, ?_⟩
    · simp [h.length]
    · intro s request resume hp
      refine .now rfl (by rw [hnext, hp]; rfl) ?_
      exact request?_of_stage hstage hp

theorem AllLed.reply {done : List Move} (h : AllLed setup p moves done) {j : Nat} {r : Reply}
    (hdone : done ++ [.reply j r] <+: moves) : AllLed setup p moves (done ++ [.reply j r]) := by
  have hstep : p.run setup (done ++ [.reply j r]) = (p.run setup done).reply j r :=
    run_concat setup p done (.reply j r)
  rcases reply_cases (p.run setup done) j r with
    ⟨hnone, hsame⟩ | ⟨request, resume, hwaiting, -, hnext⟩
  · rw [hsame] at hstep
    refine ⟨by simp [hstep, h.length], fun i stage hstage => ?_⟩
    rw [hstep] at hstage
    obtain ⟨op, before, xs, progress, hbefore, hled⟩ := h.led i stage hstage
    refine ⟨op, before, xs, progress, hbefore.trans (List.prefix_append done _),
      hled.stay (by rw [hstep]) fun s request hq hwaits => ?_⟩
    refine hwaits.reply ?_ r
    rintro rfl
    simp [hnone] at hq
  · rw [hnext] at hstep
    refine ⟨by simp [hstep, h.length], fun i stage hstage => ?_⟩
    by_cases hij : j = i
    · subst hij
      obtain ⟨op, before, xs, progress, hbefore, hled⟩ := h.led j _ hwaiting
      have hsplit := Option.some.inj (hled.stage.symm.trans hwaiting)
      cases progress with
      | ended t result => cases hsplit
      | waits t request' resume' =>
        cases hsplit
        have hx : p.Exchanged setup moves j ⟨t, request, r, _⟩ :=
          (hled.waits t request resume rfl).exchanged hdone rfl
        have hj := (List.getElem?_eq_some_iff.1 hwaiting).1
        have hset : (p.run setup (done ++ [.reply j r])).stages[j]? =
            some (split (resume r (p.run setup done).state)).2 := by
          rw [hstep]
          exact List.getElem?_set_self hj
        have hbefore' := hbefore.trans (List.prefix_append done [.reply j r])
        refine ⟨op, before, _, _, hbefore', by simpa using hled.number,
          ⟨before, (List.prefix_append before _).trans hbefore', rfl⟩, .on r _ hled.leads, ?_, hset,
          ?_⟩
        · exact List.forall_mem_append.2 ⟨hled.exchanged, by simpa using hx⟩
        · intro s request' resume' hp
          refine .now rfl (by rw [hstep, hp]; rfl) ?_
          exact request?_of_stage hset hp
    · have hsame : (p.run setup (done ++ [.reply j r])).stages[i]? =
          (p.run setup done).stages[i]? := by
        rw [hstep]
        exact List.getElem?_set_ne hij
      obtain ⟨op, before, xs, progress, hbefore, hled⟩ := h.led i stage (hsame ▸ hstage)
      exact ⟨op, before, xs, progress, hbefore.trans (List.prefix_append done _),
        hled.stay hsame fun s request _ hwaits => hwaits.reply hij r⟩

/-- All operations are led by exchanges, at all times. -/
theorem allLed_of_run {s : State} {done : List Move} (hdone : done <+: moves) :
    AllLed setup (fresh s) moves done := by
  -- A course grows at its end, so the induction goes from the last move back to the first.
  induction done using List.reverseRecOn with
  | nil => exact ⟨rfl, fun i stage h => by simp [run, fresh] at h⟩
  | append_singleton done move ih =>
    have h := ih ((List.prefix_append done [move]).trans hdone)
    cases move with
    | start op => exact h.start op
    | reply j r => exact h.reply hdone

/-- The result of an operation is that of a way which it took to its end. -/
theorem course_of_result {s : State} {i : Nat} {op : Operation} {r : Except Fault Value}
    (hop : (Move.operations moves)[i]? = some op)
    (h : ((fresh s).run setup moves).result? i = some r) :
    ∃ before xs t, before <+: moves ∧
      (op.run setup ((fresh s).run setup before).state).Course xs t r ∧
      ∀ x ∈ xs, (fresh s).Exchanged setup moves i x := by
  unfold result? at h
  split at h
  · rename_i result hstage
    cases h
    obtain ⟨op', before, xs, progress, hbefore, hled⟩ :=
      (allLed_of_run (List.prefix_refl moves)).led i _ hstage
    obtain rfl := Option.some.inj (hled.number.symm.trans hop)
    have hsplit := Option.some.inj (hled.stage.symm.trans hstage)
    cases progress with
    | ended t result =>
      cases hsplit
      refine ⟨before, xs, t, (List.prefix_append before _).trans hbefore, ?_, hled.exchanged⟩
      simpa using hled.leads.course (.ended t r)
    | waits t request resume => cases hsplit
  · cases h

/-- The move with which an operation comes to its end leads to the end of the way that it took. -/
theorem course_of_finish {s : State} {done : List Move} {move : Move} {i : Nat} {op : Operation}
    {r : Except Fault Value} (hop : (Move.operations (done ++ [move]))[i]? = some op)
    (hbefore : ((fresh s).run setup done).result? i = none)
    (h : ((fresh s).run setup (done ++ [move])).result? i = some r) :
    ∃ before xs, before ++ [.start op] <+: done ++ [move] ∧
      (op.run setup ((fresh s).run setup before).state).Course xs
        ((fresh s).run setup (done ++ [move])).state r ∧
      ∀ x ∈ xs, (fresh s).Exchanged setup (done ++ [move]) i x := by
  have hstage : ((fresh s).run setup (done ++ [move])).stages[i]? = some (.over r) := by
    unfold result? at h
    split at h
    · rename_i result hresult
      rw [hresult, Option.some.inj h]
    · cases h
  have hnew : ((fresh s).run setup done).stages[i]? ≠ some (.over r) := by
    intro hold
    simp [result?, hold] at hbefore
  cases move with
  | start op' =>
    rw [run_concat, step] at hstage
    rcases getElem?_start hstage with hold | ⟨rfl, hsplit⟩
    · exact absurd hold hnew
    have hall : AllLed setup (fresh s) done done := allLed_of_run (List.prefix_refl done)
    obtain rfl : op' = op := by simpa [hall.length] using hop
    refine ⟨done, [], List.prefix_refl _, ?_, by simp⟩
    rw [run_concat, step, start_eq]
    cases hrun : Operation.run setup op' ((fresh s).run setup done).state with
    | ended t result =>
      obtain rfl : result = r := by simpa [hrun, split] using hsplit
      exact .ended t result
    | waits t request resume => simp [hrun, split] at hsplit
  | reply j r' =>
    rw [run_concat, step] at hstage
    rcases reply_cases ((fresh s).run setup done) j r' with
      ⟨-, hsame⟩ | ⟨request, resume, hwaiting, -, hnext⟩
    · exact absurd (hsame ▸ hstage) hnew
    rw [hnext] at hstage
    -- The stages of the other operations stay as they are.
    obtain rfl : j = i := by
      by_contra hij
      exact hnew (by simpa only [List.getElem?_set_ne hij] using hstage)
    have hj := (List.getElem?_eq_some_iff.1 hwaiting).1
    have hover : (split (resume r' ((fresh s).run setup done).state)).2 = .over r :=
      Option.some.inj ((List.getElem?_set_self hj).symm.trans hstage)
    obtain ⟨op', before, xs, progress, hprefix, hled⟩ :=
      (allLed_of_run (List.prefix_append done [.reply j r'])).led j _ hwaiting
    obtain rfl : op' = op := by simpa [hled.number] using hop
    have hsplit := Option.some.inj (hled.stage.symm.trans hwaiting)
    cases progress with
    | ended t result => cases hsplit
    | waits t request' resume' =>
      cases hsplit
      have hx : (fresh s).Exchanged setup (done ++ [.reply j r']) j ⟨t, request, r', _⟩ :=
        (hled.waits t request resume rfl).exchanged (List.prefix_refl _) rfl
      refine ⟨before, xs ++ [⟨t, request, r', _⟩], hprefix.trans (List.prefix_append done _), ?_,
        List.forall_mem_append.2 ⟨hled.exchanged, by simpa using hx⟩⟩
      refine hled.leads.course (.waits ?_)
      rw [run_concat, step, hnext]
      cases hrun : resume r' ((fresh s).run setup done).state with
      | ended u result =>
        obtain rfl : result = r := by simpa [hrun, split] using hover
        exact .ended u result
      | waits u request' resume' => simp [hrun, split] at hover

/-- A waiting operation keeps to its rule, whichever reply it gets. -/
def Pending (setup : Setup) (p : Pool) (moves : List Move)
    (R : Nat → Operation → Turn State → State → Prop) (done : List Move) (i : Nat) : Stage → Prop
  | .over _ => True
  | .waiting request resume => ∃ op s, (Move.operations done)[i]? = some op ∧
      p.Waits setup done i s request ∧ ∀ r t, p.Exchanged setup moves i ⟨s, request, r, t⟩ →
        (resume r t).Keeps (p.Exchanged setup moves i) (R i op) (.after ⟨s, request, r, t⟩)

/-- Of the operations that were started, each one that waits is pending. -/
structure AllPending (setup : Setup) (p : Pool) (moves : List Move)
    (R : Nat → Operation → Turn State → State → Prop) (done : List Move) : Prop where
  length : (p.run setup done).stages.length = (Move.operations done).length
  pending : ∀ i stage, (p.run setup done).stages[i]? = some stage →
    Pending setup p moves R done i stage

/-- All operations are pending at all times. -/
theorem allPending_of_run {s : State}
    (hrun : ∀ i op t, (Move.operations moves)[i]? = some op →
      (Operation.run setup op t).Keeps ((fresh s).Exchanged setup moves i) (R i op) (.first t))
    {done : List Move} (hdone : done <+: moves) : AllPending setup (fresh s) moves R done := by
  have hall : AllLed setup (fresh s) moves done := allLed_of_run hdone
  obtain ⟨hlength, hled⟩ := hall
  refine ⟨hlength, fun i stage hstage => ?_⟩
  obtain ⟨op, before, xs, progress, -, h⟩ := hled i stage hstage
  obtain rfl := Option.some.inj (h.stage.symm.trans hstage)
  have hkeeps :=
    (hrun i op _ (Move.operations_of_prefix hdone h.number)).leads h.leads h.exchanged
  cases progress with
  | ended t result => trivial
  | waits t request resume =>
    exact ⟨op, t, h.number, h.waits t request resume rfl, fun r t' hx => hkeeps.resume hx⟩

/-- Which turn of which operation a move is that comes after others in a course of events. -/
inductive Takes (setup : Setup) (p : Pool) (moves done : List Move) :
    Move → Nat → Operation → Turn State → Prop
  | start (op) : Takes setup p moves done (.start op) (p.run setup done).stages.length op
      (.first (p.run setup done).state)
  | reply {i op x} : (Move.operations done)[i]? = some op → p.Exchanged setup moves i x →
      (p.run setup done).request? i = some x.request → (p.run setup done).state = x.resumed →
      Takes setup p moves done (.reply i x.reply) i op (.after x)

theorem Takes.state {done : List Move} {move : Move} {i : Nat} {op : Operation} {turn : Turn State}
    (h : Takes setup p moves done move i op turn) : turn.state = (p.run setup done).state := by
  cases h with
  | start op => rfl
  | reply _ _ _ hs => exact hs.symm

/-- Every move is a turn that keeps to the rule of its operation, unless nobody takes notice of
    it. -/
theorem turn_of_move {s : State}
    (hrun : ∀ i op t, (Move.operations moves)[i]? = some op →
      (Operation.run setup op t).Keeps ((fresh s).Exchanged setup moves i) (R i op) (.first t))
    {done : List Move} {move : Move} (hdone : done ++ [move] <+: moves) :
    (∃ i r, move = .reply i r ∧ ((fresh s).run setup done).request? i = none ∧
      (fresh s).run setup (done ++ [move]) = (fresh s).run setup done) ∨
    ∃ i op turn, Takes setup (fresh s) moves done move i op turn ∧
      R i op turn ((fresh s).run setup (done ++ [move])).state := by
  obtain ⟨hlen, hpending⟩ :=
    allPending_of_run hrun ((List.prefix_append done [move]).trans hdone)
  rw [run_concat]
  cases move with
  | start op =>
    refine .inr ⟨_, op, _, .start op, ?_⟩
    rw [step, start_eq]
    refine (hrun _ op _ (Move.operations_of_prefix hdone ?_)).state
    simp [hlen]
  | reply j r =>
    rcases reply_cases ((fresh s).run setup done) j r with
      ⟨hnone, hsame⟩ | ⟨request, resume, hstage, hq, hnext⟩
    · exact .inl ⟨j, r, rfl, hnone, hsame⟩
    · obtain ⟨op, t, hop, hwaits, hkeeps⟩ := hpending j _ hstage
      have hx : (fresh s).Exchanged setup moves j ⟨t, request, r, _⟩ := hwaits.exchanged hdone rfl
      refine .inr ⟨j, op, _, .reply hop hx hq rfl, ?_⟩
      rw [step, hnext]
      exact (hkeeps r _ hx).state

/-- What no turn breaks is true at all times. -/
theorem invariant {s : State} {I : State → Prop} (hs : I s)
    (hrun : ∀ i op t, (Move.operations moves)[i]? = some op →
      (Operation.run setup op t).Keeps ((fresh s).Exchanged setup moves i)
        (fun turn t => I turn.state → I t) (.first t)) :
    I ((fresh s).run setup moves).state := by
  suffices h : ∀ done, done <+: moves → I ((fresh s).run setup done).state from
    h moves (List.prefix_refl _)
  intro done hdone
  induction done using List.reverseRecOn with
  | nil => exact hs
  | append_singleton done move ih =>
    have hI := ih ((List.prefix_append done [move]).trans hdone)
    rcases turn_of_move (R := fun _ _ turn t => I turn.state → I t) hrun hdone with
      ⟨i, r, -, -, hsame⟩ | ⟨i, op, turn, htakes, hkeeps⟩
    · rwa [hsame]
    · exact hkeeps (htakes.state ▸ hI)

end Pool

end Gatehouse

import Gatehouse.Flow

/-! How work that waits can go on. Work is done in turns: a turn begins with the start of the work
    or with a reply, and it lasts until the work waits again or ends. What others do between two
    turns shows only in the state in which the next turn begins. `Course` lists the exchanges on one
    way to the end; `Goes` says that every turn of the work, on all its ways, leaves a state behind
    that a rule allows. One lemma for each way of putting work together carries a rule from the
    parts to the whole. -/

namespace Gatehouse

/-- An exchange with the service: the state in which work made a request and began to wait, and the
    state in which the reply came in and the work went on. -/
structure Exchange (σ : Type) where
  asked : σ
  request : Request
  reply : Reply
  resumed : σ

/-- What a turn begins with. -/
inductive Turn (σ : Type) where
  | first (s : σ)
  | after (x : Exchange σ)

namespace Turn

variable {σ : Type}

/-- The state in which a turn begins. -/
def state : Turn σ → σ
  | first s => s
  | after x => x.resumed

/-- The turn in which work is after some more exchanges. -/
def through : Turn σ → List (Exchange σ) → Turn σ
  | turn, [] => turn
  | _, x :: xs => (after x).through xs

@[simp] theorem through_nil (turn : Turn σ) : turn.through [] = turn := rfl

@[simp] theorem through_cons (turn : Turn σ) (x : Exchange σ) (xs : List (Exchange σ)) :
    turn.through (x :: xs) = (after x).through xs := rfl

@[simp] theorem through_append (xs ys : List (Exchange σ)) :
    ∀ turn : Turn σ, turn.through (xs ++ ys) = (turn.through xs).through ys := by
  induction xs with
  | nil => intro turn; rfl
  | cons x xs ih => intro turn; exact ih (after x)

end Turn

namespace Progress

variable {σ α β : Type}

/-- Going on with nothing to do changes nothing. -/
theorem andThen_nothing (p : Progress σ α) : (p.andThen fun a s => .ended s a) = p := by
  induction p with
  | ended s a => rfl
  | waits s request resume ih =>
    rw [andThen_waits]
    congr
    funext r s'
    exact ih r s'

/-- A way to the end: the exchanges on it, and the state and the result at its end. -/
inductive Course : Progress σ α → List (Exchange σ) → σ → α → Prop
  | ended (s : σ) (a : α) : Course (.ended s a) [] s a
  | waits {s : σ} {request : Request} {resume : Reply → σ → Progress σ α} {r : Reply} {s' : σ}
      {xs : List (Exchange σ)} {t : σ} {a : α} :
      Course (resume r s') xs t a → Course (.waits s request resume) (⟨s, request, r, s'⟩ :: xs) t a

theorem course_ended_iff {s t : σ} {a b : α} {xs : List (Exchange σ)} :
    (ended s a).Course xs t b ↔ xs = [] ∧ t = s ∧ b = a := by
  constructor
  · rintro ⟨⟩
    exact ⟨rfl, rfl, rfl⟩
  · rintro ⟨rfl, rfl, rfl⟩
    exact .ended ..

theorem course_waits_iff {s t : σ} {request : Request} {resume : Reply → σ → Progress σ α} {a : α}
    {xs : List (Exchange σ)} : (waits s request resume).Course xs t a ↔
      ∃ r s' ys, xs = ⟨s, request, r, s'⟩ :: ys ∧ (resume r s').Course ys t a := by
  constructor
  · rintro (_ | h)
    exact ⟨_, _, _, rfl, h⟩
  · rintro ⟨r, s', ys, rfl, h⟩
    exact .waits h

theorem course_andThen_iff {p : Progress σ α} {next : α → σ → Progress σ β}
    {xs : List (Exchange σ)} {t : σ} {b : β} : (p.andThen next).Course xs t b ↔
      ∃ ys zs u a, xs = ys ++ zs ∧ p.Course ys u a ∧ (next a u).Course zs t b := by
  induction p generalizing xs with
  | ended s a =>
    constructor
    · intro h
      exact ⟨[], xs, s, a, rfl, .ended s a, h⟩
    · rintro ⟨_, zs, _, _, rfl, hp, h⟩
      obtain ⟨rfl, rfl, rfl⟩ := course_ended_iff.1 hp
      exact h
  | waits s request resume ih =>
    simp only [andThen_waits, course_waits_iff, ih]
    constructor
    · rintro ⟨r, s', _, rfl, ys, zs, u, a, rfl, hp, hnext⟩
      exact ⟨_, zs, u, a, rfl, ⟨r, s', ys, rfl, hp⟩, hnext⟩
    · rintro ⟨_, zs, u, a, rfl, ⟨r, s', ys, rfl, hp⟩, hnext⟩
      exact ⟨r, s', _, rfl, ys, zs, u, a, rfl, hp, hnext⟩

/-- How far work has come after some exchanges. -/
inductive Leads (p : Progress σ α) : List (Exchange σ) → Progress σ α → Prop
  | here : Leads p [] p
  | on {xs : List (Exchange σ)} {s : σ} {request : Request} {resume : Reply → σ → Progress σ α}
      (r : Reply) (s' : σ) : Leads p xs (.waits s request resume) →
      Leads p (xs ++ [⟨s, request, r, s'⟩]) (resume r s')

/-- Work that has come to its end has taken a way to it. -/
theorem Leads.course {p q : Progress σ α} {xs ys : List (Exchange σ)} {t : σ} {a : α}
    (h : p.Leads xs q) (hq : q.Course ys t a) : p.Course (xs ++ ys) t a := by
  induction h generalizing ys with
  | here => exact hq
  | on r s' _ ih => simpa using ih (.waits hq)

/-- Wherever the work waits, the turn leaves a state behind that `R` allows, and wherever it ends,
    `Q` holds of the exchanges since here, the state and the result. Only exchanges of kind `X` are
    looked at. -/
def Goes (X : Exchange σ → Prop) (R : Turn σ → σ → Prop) :
    Turn σ → Progress σ α → (List (Exchange σ) → σ → α → Prop) → Prop
  | _, ended t a, Q => Q [] t a
  | turn, waits t request resume, Q =>
    R turn t ∧ ∀ r t', X ⟨t, request, r, t'⟩ →
      Goes X R (.after ⟨t, request, r, t'⟩) (resume r t') fun xs => Q (⟨t, request, r, t'⟩ :: xs)

namespace Goes

variable {X : Exchange σ → Prop} {R : Turn σ → σ → Prop} {turn : Turn σ} {p : Progress σ α}
  {Q Q' : List (Exchange σ) → σ → α → Prop}

theorem mono (h : p.Goes X R turn Q) (hQ : ∀ xs t a, Q xs t a → Q' xs t a) :
    p.Goes X R turn Q' := by
  induction p generalizing turn Q Q' with
  | ended t a => exact hQ _ _ _ h
  | waits t request resume ih =>
    obtain ⟨hR, hgo⟩ := h
    exact ⟨hR, fun r t' hx => ih r t' (hgo r t' hx) fun xs => hQ (_ :: xs)⟩

theorem andThen {next : α → σ → Progress σ β} {F : List (Exchange σ) → σ → β → Prop}
    (h : p.Goes X R turn Q)
    (hnext : ∀ xs t a, Q xs t a →
      (next a t).Goes X R (turn.through xs) fun ys => F (xs ++ ys)) :
    (p.andThen next).Goes X R turn F := by
  induction p generalizing turn Q F with
  | ended t a => exact hnext [] t a h
  | waits t request resume ih =>
    obtain ⟨hR, hgo⟩ := h
    exact ⟨hR, fun r t' hx => ih r t' (hgo r t' hx) fun xs => hnext (_ :: xs)⟩

/-- What comes after may end at once. -/
theorem andThen_atOnce {next : α → σ → Progress σ β} {F : List (Exchange σ) → σ → β → Prop}
    (h : p.Goes X R turn Q)
    (hnext : ∀ xs t a, Q xs t a → ∃ u b, next a t = .ended u b ∧ F xs u b) :
    (p.andThen next).Goes X R turn F := by
  refine andThen h fun xs t a hQ => ?_
  obtain ⟨u, b, hend, hF⟩ := hnext xs t a hQ
  rw [hend]
  simpa [Goes] using hF

/-- Where there is no rule, all work keeps to it. -/
theorem unruled (p : Progress σ α) (hR : ∀ turn t, R turn t) :
    p.Goes X R turn fun _ _ _ => True := by
  induction p generalizing turn with
  | ended t a => trivial
  | waits t request resume ih => exact ⟨hR _ _, fun r t' _ => ih r t'⟩

/-- At the end it is known, too, which way the work went. -/
theorem course (h : p.Goes X R turn Q) :
    p.Goes X R turn fun xs t a => Q xs t a ∧ p.Course xs t a ∧ ∀ x ∈ xs, X x := by
  induction p generalizing turn Q with
  | ended t a => exact ⟨h, .ended t a, by simp⟩
  | waits t request resume ih =>
    obtain ⟨hR, hgo⟩ := h
    refine ⟨hR, fun r t' hx => (ih r t' (hgo r t' hx)).mono ?_⟩
    rintro xs u a ⟨hQ, hcourse, hxs⟩
    exact ⟨hQ, .waits hcourse, List.forall_mem_cons.2 ⟨hx, hxs⟩⟩

/-- What holds at the end of all ways holds at the end of each. -/
theorem of_course (h : p.Goes X R turn Q) {xs : List (Exchange σ)} {t : σ} {a : α}
    (hcourse : p.Course xs t a) (hxs : ∀ x ∈ xs, X x) : Q xs t a := by
  induction hcourse generalizing turn Q with
  | ended t a => exact h
  | waits _ ih =>
    obtain ⟨hx, hxs⟩ := List.forall_mem_cons.1 hxs
    exact ih (h.2 _ _ hx) hxs

end Goes

/-- Work keeps to a rule if every one of its turns, the last included, leaves behind what the rule
    allows. -/
def Keeps (X : Exchange σ → Prop) (R : Turn σ → σ → Prop) (turn : Turn σ) (p : Progress σ α) :
    Prop :=
  p.Goes X R turn fun xs t _ => R (turn.through xs) t

namespace Keeps

variable {X : Exchange σ → Prop} {R : Turn σ → σ → Prop} {turn : Turn σ}

/-- What work has come to keeps to the rule that it has kept to so far. -/
theorem leads {p q : Progress σ α} {xs : List (Exchange σ)} (h : p.Keeps X R turn)
    (hq : p.Leads xs q) (hxs : ∀ x ∈ xs, X x) : q.Keeps X R (turn.through xs) := by
  induction hq with
  | here => exact h
  | on r s' _ ih =>
    obtain ⟨hxs, hx⟩ := List.forall_mem_append.1 hxs
    rw [Turn.through_append]
    exact (ih hxs).2 r s' (hx _ (by simp))

theorem state {p : Progress σ α} (h : p.Keeps X R turn) : R turn p.state := by
  cases p with
  | ended t a => exact h
  | waits t request resume => exact h.1

theorem resume {t t' : σ} {request : Request} {next : Reply → σ → Progress σ α} {r : Reply}
    (h : (waits t request next).Keeps X R turn) (hx : X ⟨t, request, r, t'⟩) :
    (next r t').Keeps X R (.after ⟨t, request, r, t'⟩) := h.2 r t' hx

/-- What the last turn of a way gives, and every turn before it adds to, holds of the way. -/
theorem of_course {P : Turn σ → List (Exchange σ) → σ → Prop} {p : Progress σ α}
    {xs : List (Exchange σ)} {t : σ} {a : α} (h : p.Keeps X R turn)
    (hlast : ∀ turn t, R turn t → P turn [] t)
    (hadd : ∀ turn x xs t, X x → R turn x.asked → P (.after x) xs t → P turn (x :: xs) t)
    (hcourse : p.Course xs t a) (hxs : ∀ x ∈ xs, X x) : P turn xs t := by
  induction hcourse generalizing turn with
  | ended t a => exact hlast turn t h
  | waits _ ih =>
    obtain ⟨hx, hxs⟩ := List.forall_mem_cons.1 hxs
    exact hadd turn _ _ _ hx h.1 (ih (h.2 _ _ hx) hxs)

end Keeps

end Progress

namespace Flow

variable {σ α β : Type}

/-- The work, begun in the state `s` of a turn, keeps to the rule `R` in all its turns, and `F`
    holds wherever it ends with a value. What it leaves behind when it ends keeps to the rule,
    too. -/
def Holds (X : Exchange σ → Prop) (R : Turn σ → σ → Prop) (turn : Turn σ) (s : σ) (work : Flow σ α)
    (F : List (Exchange σ) → σ → α → Prop) : Prop :=
  (work s).Goes X R turn fun xs t r => R (turn.through xs) t ∧ ∀ a, r = .ok a → F xs t a

/-- Work that keeps to a rule whenever it is begun by it. -/
def Respects (X : Exchange σ → Prop) (R : Turn σ → σ → Prop) (work : Flow σ α) : Prop :=
  ∀ turn s, R turn s → work.Holds X R turn s fun _ _ _ => True

theorem bind_apply (work : Flow σ α) (next : α → Flow σ β) (s : σ) :
    (work >>= next) s = (work s).andThen fun
      | .ok a => next a
      | .error f => stop f := rfl

theorem ofExcept_apply (r : Except Fault α) (s : σ) : ofExcept r s = .ended s r := by
  cases r <;> rfl

theorem course_bind_iff {work : Flow σ α} {next : α → Flow σ β} {s t : σ}
    {xs : List (Exchange σ)} {r : Except Fault β} : ((work >>= next) s).Course xs t r ↔
      (∃ f, (work s).Course xs t (.error f) ∧ r = .error f) ∨
      ∃ ys zs u a, xs = ys ++ zs ∧ (work s).Course ys u (.ok a) ∧ (next a u).Course zs t r := by
  rw [bind_apply, Progress.course_andThen_iff]
  constructor
  · rintro ⟨ys, zs, u, f | a, rfl, hwork, hnext⟩
    · obtain ⟨rfl, rfl, rfl⟩ := Progress.course_ended_iff.1 hnext
      exact .inl ⟨f, by simpa using hwork, rfl⟩
    · exact .inr ⟨ys, zs, u, a, rfl, hwork, hnext⟩
  · rintro (⟨f, hwork, rfl⟩ | ⟨ys, zs, u, a, rfl, hwork, hnext⟩)
    · exact ⟨xs, [], t, _, by simp, hwork, .ended ..⟩
    · exact ⟨ys, zs, u, _, rfl, hwork, hnext⟩

/-- Work that is over at once when it has its value goes the same ways. -/
theorem course_bind_atOnce_iff {work : Flow σ α} {next : α → Flow σ β} {g : α → σ → β} {s t : σ}
    {xs : List (Exchange σ)} {r : Except Fault β}
    (hnext : ∀ a u, next a u = .ended u (.ok (g a u))) : ((work >>= next) s).Course xs t r ↔
      ∃ r', (work s).Course xs t r' ∧ r = r'.map (g · t) := by
  rw [course_bind_iff]
  constructor
  · rintro (⟨f, hwork, rfl⟩ | ⟨ys, zs, u, a, rfl, hwork, hend⟩)
    · exact ⟨_, hwork, rfl⟩
    · rw [hnext] at hend
      obtain ⟨rfl, rfl, rfl⟩ := Progress.course_ended_iff.1 hend
      exact ⟨_, by simpa using hwork, rfl⟩
  · rintro ⟨f | a, hwork, rfl⟩
    · exact .inl ⟨f, hwork, rfl⟩
    · exact .inr ⟨xs, [], t, a, by simp, hwork, hnext a t ▸ .ended ..⟩

/-- Work whose value is put into another form goes the same ways. -/
theorem course_bind_pure_iff {work : Flow σ α} {g : α → β} {s t : σ} {xs : List (Exchange σ)}
    {r : Except Fault β} : ((work >>= fun a => pure (g a)) s).Course xs t r ↔
      ∃ r', (work s).Course xs t r' ∧ r = r'.map g :=
  course_bind_atOnce_iff fun _ _ => rfl

/-- Work that shows something of the state in the end goes the same ways. -/
theorem course_bind_read_iff {work : Flow σ α} {f : σ → β} {s t : σ} {xs : List (Exchange σ)}
    {r : Except Fault β} : ((work >>= fun _ => read f) s).Course xs t r ↔
      ∃ r', (work s).Course xs t r' ∧ r = r'.map fun _ => f t :=
  course_bind_atOnce_iff fun _ _ => rfl

/-- Work whose result is taken as a value goes on with it, whatever it is. -/
theorem course_outcome_bind_iff {work : Flow σ α} {next : Except Fault α → Flow σ β} {s t : σ}
    {xs : List (Exchange σ)} {r : Except Fault β} :
    ((outcome work >>= next) s).Course xs t r ↔
      ∃ ys zs u a, xs = ys ++ zs ∧ (work s).Course ys u a ∧ (next a u).Course zs t r := by
  rw [bind_apply, outcome, Progress.andThen_assoc]
  exact Progress.course_andThen_iff

/-- Work that ends at once with a value goes on with the next part. -/
theorem bind_of_ok {work : Flow σ α} {s t : σ} {a : α} (h : work s = .ended t (.ok a))
    (next : α → Flow σ β) : (work >>= next) s = next a t := by
  rw [bind_apply, h]
  rfl

/-- Work that ends at once with a fault goes no further. -/
theorem bind_of_error {work : Flow σ α} {s t : σ} {f : Fault} (h : work s = .ended t (.error f))
    (next : α → Flow σ β) : (work >>= next) s = .ended t (.error f) := by
  rw [bind_apply, h]
  rfl

/-- Work that is over at once when it has its value waits where its first part waits. -/
theorem waits_of_bind {work : Flow σ α} {next : α → Flow σ β} {s t : σ} {q : Request}
    {resume : Reply → σ → Progress σ (Except Fault β)}
    (h : (work >>= next) s = .waits t q resume)
    (hnext : ∀ a u, ∃ v b, next a u = .ended v b) : ∃ resume', work s = .waits t q resume' := by
  rw [bind_apply] at h
  cases hwork : work s with
  | waits u p resume' =>
    rw [hwork, Progress.andThen_waits] at h
    cases h
    exact ⟨resume', rfl⟩
  | ended u r =>
    rw [hwork, Progress.andThen_ended] at h
    cases r with
    | error f => cases h
    | ok a =>
      obtain ⟨v, b, hend⟩ := hnext a u
      cases hend.symm.trans h

/-- Taken as a value, the result of work stops nothing. -/
theorem outcome_goes {X : Exchange σ → Prop} {R : Turn σ → σ → Prop} {turn : Turn σ} {s : σ}
    {work : Flow σ α} {Q : List (Exchange σ) → σ → Prop}
    (h : (work s).Goes X R turn fun xs t _ => Q xs t) :
    (outcome work s).Goes X R turn fun xs t r => (∃ a, r = .ok a) ∧ Q xs t :=
  .andThen_atOnce h fun _ t r hQ => ⟨t, _, rfl, ⟨r, rfl⟩, hQ⟩

namespace Holds

variable {X : Exchange σ → Prop} {R : Turn σ → σ → Prop} {turn : Turn σ} {s : σ} {work : Flow σ α}
  {F F' : List (Exchange σ) → σ → α → Prop}

theorem mono (h : work.Holds X R turn s F) (hF : ∀ xs t a, R (turn.through xs) t → F xs t a →
    F' xs t a) : work.Holds X R turn s F' := by
  refine Progress.Goes.mono h ?_
  rintro xs t r ⟨hR, hok⟩
  exact ⟨hR, fun a ha => hF xs t a hR (hok a ha)⟩

theorem pure {a : α} (hR : R turn s) (hF : F [] s a) :
    (Pure.pure a : Flow σ α).Holds X R turn s F :=
  ⟨hR, fun _ h => by cases h; exact hF⟩

theorem stop {f : Fault} (hR : R turn s) : (Flow.stop f : Flow σ α).Holds X R turn s F :=
  ⟨hR, fun _ h => by cases h⟩

theorem read {f : σ → α} (hR : R turn s) (hF : F [] s (f s)) :
    (Flow.read f).Holds X R turn s F :=
  ⟨hR, fun _ h => by cases h; exact hF⟩

theorem ofExcept {e : Except Fault α} (hR : R turn s) (hF : ∀ a, e = .ok a → F [] s a) :
    (Flow.ofExcept e).Holds X R turn s F := by
  cases e with
  | ok a => exact pure hR (hF a rfl)
  | error f => exact stop hR

/-- Goes on where the first part gave a value. Where it was stopped, nothing more is known than that
    the rule has been kept. -/
theorem goes_bind {next : α → Flow σ β} {Q : List (Exchange σ) → σ → Except Fault β → Prop}
    (h : work.Holds X R turn s F) (hstop : ∀ xs t f, R (turn.through xs) t → Q xs t (.error f))
    (hnext : ∀ xs t a, R (turn.through xs) t → F xs t a →
      (next a t).Goes X R (turn.through xs) fun ys => Q (xs ++ ys)) :
    ((work >>= next) s).Goes X R turn Q := by
  rw [bind_apply]
  refine Progress.Goes.andThen h ?_
  rintro xs t (f | a) ⟨hR, hok⟩
  · rw [← List.append_nil xs] at hR
    exact hstop _ t f hR
  · exact hnext xs t a hR (hok a rfl)

theorem bind {next : α → Flow σ β} {G : List (Exchange σ) → σ → β → Prop}
    (h : work.Holds X R turn s F)
    (hnext : ∀ xs t a, R (turn.through xs) t → F xs t a →
      (next a).Holds X R (turn.through xs) t fun ys => G (xs ++ ys)) :
    (work >>= next).Holds X R turn s G := by
  refine goes_bind h (fun xs t f hR => ⟨hR, fun _ h => by cases h⟩) fun xs t a hR hF => ?_
  refine Progress.Goes.mono (hnext xs t a hR hF) ?_
  rintro ys u r ⟨hR', hok⟩
  exact ⟨by simpa using hR', hok⟩

/-- Goes on after a part that does not wait. -/
theorem bind_atOnce {next : α → Flow σ β} {F : σ → α → Prop}
    {G : List (Exchange σ) → σ → β → Prop}
    (h : work.Holds X R turn s fun xs t a => xs = [] ∧ F t a)
    (hnext : ∀ t a, R turn t → F t a → (next a).Holds X R turn t G) :
    (work >>= next).Holds X R turn s G := by
  refine bind h ?_
  rintro xs t a hR ⟨rfl, hF⟩
  exact hnext t a hR hF

theorem bind_read {f : σ → α} {next : α → Flow σ β} {G : List (Exchange σ) → σ → β → Prop} :
    (Flow.read f >>= next).Holds X R turn s G ↔ (next (f s)).Holds X R turn s G := Iff.rfl

theorem bind_stop {f : Fault} {next : α → Flow σ β} {G : List (Exchange σ) → σ → β → Prop}
    (hR : R turn s) : (Flow.stop f >>= next).Holds X R turn s G :=
  ⟨hR, fun _ h => by cases h⟩

theorem bind_ofExcept {e : Except Fault α} {next : α → Flow σ β}
    {G : List (Exchange σ) → σ → β → Prop} (hR : R turn s)
    (hnext : ∀ a, e = .ok a → (next a).Holds X R turn s G) :
    (Flow.ofExcept e >>= next).Holds X R turn s G := by
  cases e with
  | ok a => exact hnext a rfl
  | error f => exact bind_stop hR

/-- Work keeps to its rule in all its turns. -/
theorem keeps (h : work.Holds X R turn s F) : (work s).Keeps X R turn :=
  Progress.Goes.mono h fun _ _ _ h => h.1

/-- At the end it is known, too, which way the work went. -/
theorem course (h : work.Holds X R turn s F) :
    work.Holds X R turn s fun xs t a =>
      F xs t a ∧ (work s).Course xs t (.ok a) ∧ ∀ x ∈ xs, X x := by
  refine Progress.Goes.mono (Progress.Goes.course h) ?_
  rintro xs t r ⟨⟨hR, hok⟩, hcourse, hxs⟩
  refine ⟨hR, ?_⟩
  rintro a rfl
  exact ⟨hok a rfl, hcourse, hxs⟩

/-- A fault that is taken as a value does not stop the work. -/
theorem outcome {G : List (Exchange σ) → σ → Except Fault α → Prop} (h : work.Holds X R turn s F)
    (hG : ∀ xs t r, R (turn.through xs) t → (∀ a, r = .ok a → F xs t a) → G xs t r) :
    work.outcome.Holds X R turn s G := by
  refine Progress.Goes.andThen h ?_
  rintro xs t r ⟨hR, hok⟩
  refine ⟨by simpa using hR, fun a ha => ?_⟩
  cases ha
  simpa using hG xs t r hR hok

/-- What follows in any case is told the value, if there is one, by the facts about its state. -/
theorem followedBy {last : Flow σ Unit} {L : σ → σ → Prop} (h : work.Holds X R turn s F)
    (hlast : ∀ xs t, R (turn.through xs) t →
      last.Holds X R (turn.through xs) t fun ys u _ => ys = [] ∧ L t u)
    (hF : ∀ xs t u a, F xs t a → L t u → F' xs u a) :
    (work.followedBy last).Holds X R turn s F' := by
  refine bind (F := fun xs t r => ∀ a, r = .ok a → F xs t a) (outcome h fun _ _ _ _ hok => hok) ?_
  intro xs t r hR hok
  refine bind (hlast xs t hR) ?_
  rintro ys u _ hR' ⟨rfl, hL⟩
  refine ofExcept (by simpa using hR') fun a ha => ?_
  simpa using hF xs t u a (hok a ha) hL

end Holds

end Flow

end Gatehouse

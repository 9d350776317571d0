namespace DaemonMesh

/-- Calls one after the other: what each of them gives back, and the state they lead to. -/
def runCalls {State Call Answer : Type} (perform : State → Call → Answer × State) :
    State → List Call → List Answer × State
  | state, [] => ([], state)
  | state, call :: rest =>
    let (answer, next) := perform state call
    let (answers, last) := runCalls perform next rest
    (answer :: answers, last)

section

variable {State Call Answer : Type} {perform : State → Call → Answer × State}

@[simp] theorem runCalls_cons (state : State) (call : Call) (rest : List Call) :
    runCalls perform state (call :: rest) =
      ((perform state call).1 :: (runCalls perform (perform state call).2 rest).1,
        (runCalls perform (perform state call).2 rest).2) := rfl

@[simp] theorem length_runCalls (calls : List Call) (state : State) :
    (runCalls perform state calls).1.length = calls.length := by
  induction calls generalizing state with
  | nil => rfl
  | cons call rest ih => simp [ih]

@[simp] theorem runCalls_append (first second : List Call) (state : State) :
    runCalls perform state (first ++ second) =
      ((runCalls perform state first).1
          ++ (runCalls perform (runCalls perform state first).2 second).1,
        (runCalls perform (runCalls perform state first).2 second).2) := by
  induction first generalizing state with
  | nil => rfl
  | cons call rest ih => simp [ih]

/-- What every call keeps up, a whole run keeps up. -/
theorem runCalls_keeps (holds : State → Prop)
    (keeps : ∀ state call, holds state → holds (perform state call).2) (calls : List Call)
    {state : State} (start : holds state) : holds (runCalls perform state calls).2 := by
  induction calls generalizing state with
  | nil => exact start
  | cons call rest ih => exact ih (keeps state call start)

/-- Two states that answer every allowed call alike, and stay related by it, answer whole runs
alike. -/
theorem runCalls_agree {Other : Type} {performOther : Other → Call → Answer × Other}
    {related : State → Other → Prop} {allowed : Call → Prop}
    (square : ∀ state other call, allowed call → related state other →
      (perform state call).1 = (performOther other call).1 ∧
        related (perform state call).2 (performOther other call).2)
    {calls : List Call} (all : ∀ call ∈ calls, allowed call) {state : State} {other : Other}
    (start : related state other) :
    (runCalls perform state calls).1 = (runCalls performOther other calls).1 ∧
      related (runCalls perform state calls).2 (runCalls performOther other calls).2 := by
  induction calls generalizing state other with
  | nil => exact ⟨rfl, start⟩
  | cons call rest ih =>
    obtain ⟨answer, next⟩ := square state other call (all call List.mem_cons_self) start
    obtain ⟨answers, last⟩ :=
      ih (fun later member => all later (List.mem_cons_of_mem _ member)) next
    simp [answer, answers, last]

/-- A run of calls that come down to other calls, answer by answer. -/
theorem runCalls_translate {Other OtherCall OtherAnswer : Type}
    {performOther : Other → OtherCall → OtherAnswer × Other} {related : State → Other → Prop}
    {translate : Call → OtherCall} {view : OtherAnswer → Answer}
    (square : ∀ state other call, related state other →
      (perform state call).1 = view (performOther other (translate call)).1 ∧
        related (perform state call).2 (performOther other (translate call)).2)
    (calls : List Call) {state : State} {other : Other} (start : related state other) :
    (runCalls perform state calls).1 =
        (runCalls performOther other (calls.map translate)).1.map view ∧
      related (runCalls perform state calls).2
        (runCalls performOther other (calls.map translate)).2 := by
  induction calls generalizing state other with
  | nil => exact ⟨rfl, start⟩
  | cons call rest ih =>
    obtain ⟨answer, next⟩ := square state other call start
    obtain ⟨answers, last⟩ := ih next
    simp [answer, answers, last]

end

end DaemonMesh
